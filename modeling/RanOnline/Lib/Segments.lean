/-
Streams made of segments.

A family of segments is recognised by a cutter when the cutter takes a prefix
exactly where one of them stands.  Then every stream has one longest beginning
that is made of segments, and a run of the cutter finds it.
-/
import RanOnline.Lib.StreamCut

namespace RanOnline.StreamCut

variable {α μ ε : Type}

/-- The stream is the given segments, one behind the other, and a tail. -/
structure Segmented (Segment : List α → Prop) (stream : List α) (segments : List (List α))
    (tail : List α) : Prop where
  flat : stream = segments.flatten ++ tail
  each : ∀ segment ∈ segments, Segment segment

theorem Segmented.nil (Segment : List α → Prop) (stream : List α) :
    Segmented Segment stream [] stream := by
  constructor
  · rfl
  · intro segment impossible
    cases impossible

theorem Segmented.cons {Segment : List α → Prop} {head stream tail : List α}
    {segments : List (List α)} (first : Segment head)
    (later : Segmented Segment stream segments tail) :
    Segmented Segment (head ++ stream) (head :: segments) tail := by
  constructor
  · rw [List.flatten_cons, List.append_assoc, ← later.flat]
  · intro segment member
    rcases List.mem_cons.mp member with same | other
    · rw [same]
      exact first
    · exact later.each segment other

theorem Segmented.singleton {Segment : List α → Prop} {segment : List α}
    (single : Segment segment) : Segmented Segment segment [segment] [] := by
  constructor
  · rw [List.flatten_singleton, List.append_nil]
  · intro other member
    rw [List.mem_singleton.mp member]
    exact single

theorem Segmented.uncons {Segment : List α → Prop} {head stream tail : List α}
    {segments : List (List α)} (split : Segmented Segment stream (head :: segments) tail) :
    Segment head ∧ ∃ later, stream = head ++ later ∧ Segmented Segment later segments tail := by
  constructor
  · exact split.each head List.mem_cons_self
  · refine ⟨segments.flatten ++ tail, ?_, ?_⟩
    · rw [split.flat, List.flatten_cons, List.append_assoc]
    · constructor
      · rfl
      · intro segment member
        exact split.each segment (List.mem_cons_of_mem head member)

theorem Segmented.mono {Segment Weaker : List α → Prop} {stream tail : List α}
    {segments : List (List α)} (split : Segmented Segment stream segments tail)
    (weaker : ∀ segment ∈ segments, Segment segment → Weaker segment) :
    Segmented Weaker stream segments tail := by
  constructor
  · exact split.flat
  · intro segment member
    exact weaker segment member (split.each segment member)

def Verdict.messages : Verdict μ ε → List μ
  | .wait => []
  | .take _count messages => messages
  | .stop messages _reason => messages

namespace Cutter

/-- The cutter takes a prefix where a segment stands and nowhere else, and emits
for it what `emit` makes of the segment. -/
structure Recognises (cutter : Cutter α μ ε) (Segment : List α → Prop)
    (emit : List α → List μ) : Prop where
  takes : ∀ {input : List α} {count : Nat} {messages : List μ},
    cutter.cut input = .take count messages →
      Segment (input.take count) ∧ messages = emit (input.take count)
  taken : ∀ {segment : List α}, Segment segment → ∀ more : List α,
    cutter.cut (segment ++ more) = .take segment.length (emit segment)

variable {cutter : Cutter α μ ε} {Segment : List α → Prop} {emit : List α → List μ}

theorem run_segmented (recognised : cutter.Recognises Segment emit) {stream tail : List α}
    {segments : List (List α)} (split : Segmented Segment stream segments tail) :
    cutter.run stream = (cutter.run tail).after (segments.flatMap emit) := by
  induction segments generalizing stream with
  | nil =>
      rw [split.flat]
      rfl
  | cons head segments ih =>
      obtain ⟨first, later, rfl, others⟩ := split.uncons
      rw [cutter.run_of_take (recognised.taken first later), List.drop_left, ih others,
        Parse.after_after, List.flatMap_cons]

/-- A run takes segments for as long as there is one to take. -/
theorem run_takes (recognised : cutter.Recognises Segment emit) (stream : List α) :
    ∃ segments, Segmented Segment stream segments (cutter.run stream).rest ∧
      ∀ count messages, cutter.cut (cutter.run stream).rest ≠ .take count messages := by
  induction stream using cutter.run_induction with
  | wait stream verdict =>
      rw [cutter.run_of_wait verdict]
      refine ⟨[], Segmented.nil Segment stream, ?_⟩
      intro count messages taken
      rw [verdict] at taken
      cases taken
  | stop stream messages reason verdict =>
      rw [cutter.run_of_stop verdict]
      refine ⟨[], Segmented.nil Segment stream, ?_⟩
      intro count messages taken
      rw [verdict] at taken
      cases taken
  | take stream count messages verdict ih =>
      obtain ⟨segments, split, ended⟩ := ih
      rw [cutter.run_of_take verdict, Parse.after_rest]
      refine ⟨stream.take count :: segments, ?_, ended⟩
      have whole := Segmented.cons (recognised.takes verdict).1 split
      rw [List.take_append_drop] at whole
      exact whole

/-- The messages of a run are those of its cuts, each behind segments. -/
theorem mem_run_messages (recognised : cutter.Recognises Segment emit) (stream : List α)
    (message : μ) :
    message ∈ (cutter.run stream).messages ↔
      ∃ segments tail, Segmented Segment stream segments tail ∧
        message ∈ (cutter.cut tail).messages := by
  constructor
  · induction stream using cutter.run_induction with
    | wait stream verdict =>
        rw [cutter.run_of_wait verdict]
        intro impossible
        cases impossible
    | stop stream messages reason verdict =>
        rw [cutter.run_of_stop verdict]
        intro member
        refine ⟨[], stream, Segmented.nil Segment stream, ?_⟩
        rw [verdict]
        exact member
    | take stream count messages verdict ih =>
        rw [cutter.run_of_take verdict, Parse.after_messages]
        intro member
        rcases List.mem_append.mp member with first | later
        · refine ⟨[], stream, Segmented.nil Segment stream, ?_⟩
          rw [verdict]
          exact first
        · obtain ⟨segments, tail, split, emitted⟩ := ih later
          have whole := Segmented.cons (recognised.takes verdict).1 split
          rw [List.take_append_drop] at whole
          exact ⟨_, tail, whole, emitted⟩
  · intro holds
    rcases holds with ⟨segments, tail, split, emitted⟩
    rw [run_segmented recognised split, Parse.after_messages]
    apply List.mem_append_right
    cases verdict : cutter.cut tail with
    | wait =>
        rw [verdict] at emitted
        cases emitted
    | take count messages =>
        rw [verdict] at emitted
        rw [cutter.run_of_take verdict]
        exact List.mem_append_left _ emitted
    | stop messages reason =>
        rw [verdict] at emitted
        rw [cutter.run_of_stop verdict]
        exact emitted

/-- Segments behind which none stands are the longest beginning of the stream
that is made of segments. -/
theorem segments_longest (recognised : cutter.Recognises Segment emit) {stream tail : List α}
    {segments : List (List α)} (split : Segmented Segment stream segments tail)
    (ended : ∀ count messages, cutter.cut tail ≠ .take count messages)
    {others : List (List α)} {otherTail : List α}
    (other : Segmented Segment stream others otherTail) : others <+: segments := by
  induction others generalizing stream segments with
  | nil => exact List.nil_prefix
  | cons first others ih =>
      obtain ⟨firstIs, later, rfl, otherLater⟩ := other.uncons
      have firstTaken := recognised.taken firstIs later
      cases segments with
      | nil =>
          have same : first ++ later = tail := split.flat
          rw [same] at firstTaken
          exact absurd firstTaken (ended first.length (emit first))
      | cons head segments =>
          obtain ⟨headIs, behind, same, splitLater⟩ := split.uncons
          have headTaken := recognised.taken headIs behind
          rw [same, headTaken] at firstTaken
          have lengths : head.length = first.length := (Verdict.take.inj firstTaken).1
          obtain ⟨rfl, rfl⟩ := List.append_inj same lengths.symm
          apply (List.prefix_cons_inj first).mpr
          exact ih splitLater otherLater

theorem segments_unique (recognised : cutter.Recognises Segment emit) {stream : List α}
    {first second : List (List α)} {firstTail secondTail : List α}
    (firstSplit : Segmented Segment stream first firstTail)
    (firstEnded : ∀ count messages, cutter.cut firstTail ≠ .take count messages)
    (secondSplit : Segmented Segment stream second secondTail)
    (secondEnded : ∀ count messages, cutter.cut secondTail ≠ .take count messages) :
    first = second ∧ firstTail = secondTail := by
  have below := segments_longest recognised secondSplit secondEnded firstSplit
  have above := segments_longest recognised firstSplit firstEnded secondSplit
  have same : first = second := below.eq_of_length_le above.length_le
  subst same
  constructor
  · rfl
  · apply List.append_cancel_left
    exact firstSplit.flat.symm.trans secondSplit.flat

end Cutter

end RanOnline.StreamCut
