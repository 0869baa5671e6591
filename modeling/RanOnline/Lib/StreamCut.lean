/-
Incremental cutting of a stream into messages.

A cutter looks at the head of its input and decides to wait for more, to take a
prefix and emit messages for it, or to stop for a reason.  A cutter whose
decision survives every extension of its input recovers the same messages
however the input is split over deliveries.
-/
import Mathlib.Algebra.GroupWithZero.Nat
import Mathlib.Data.List.Basic

namespace RanOnline.StreamCut

inductive Verdict (μ ε : Type)
  | wait
  | take (count : Nat) (messages : List μ)
  | stop (messages : List μ) (reason : ε)

/-- Every taken prefix is nonempty and lies inside the input. -/
structure Cutter (α μ ε : Type) where
  cut : List α → Verdict μ ε
  progress : ∀ {input : List α} {count : Nat} {messages : List μ},
    cut input = .take count messages → 0 < count ∧ count ≤ input.length

structure Parse (α μ ε : Type) where
  messages : List μ
  stopped : Option ε
  rest : List α

variable {α μ ε : Type}

def Parse.after (earlier : List μ) (parse : Parse α μ ε) : Parse α μ ε :=
  { parse with messages := earlier ++ parse.messages }

@[simp] theorem Parse.after_messages (earlier : List μ) (parse : Parse α μ ε) :
    (parse.after earlier).messages = earlier ++ parse.messages := rfl

@[simp] theorem Parse.after_stopped (earlier : List μ) (parse : Parse α μ ε) :
    (parse.after earlier).stopped = parse.stopped := rfl

@[simp] theorem Parse.after_rest (earlier : List μ) (parse : Parse α μ ε) :
    (parse.after earlier).rest = parse.rest := rfl

@[simp] theorem Parse.after_nil (parse : Parse α μ ε) : parse.after [] = parse := rfl

theorem Parse.after_after (first second : List μ) (parse : Parse α μ ε) :
    (parse.after second).after first = parse.after (first ++ second) := by
  simp only [after, List.append_assoc]

namespace Cutter

variable (cutter : Cutter α μ ε)

/-- Cut until the input is used up to a waiting remainder, or cutting stops. -/
def run (input : List α) : Parse α μ ε :=
  match _verdict : cutter.cut input with
  | .wait => { messages := [], stopped := none, rest := input }
  | .stop messages reason => { messages := messages, stopped := some reason, rest := input }
  | .take count messages => (run (input.drop count)).after messages
termination_by input.length
decreasing_by
  have bounds := cutter.progress _verdict
  rw [List.length_drop]
  omega

theorem run_of_wait {input : List α} (verdict : cutter.cut input = .wait) :
    cutter.run input = { messages := [], stopped := none, rest := input } := by
  rw [run]
  split
  · rfl
  · rename_i other
    rw [verdict] at other
    cases other
  · rename_i other
    rw [verdict] at other
    cases other

theorem run_of_stop {input : List α} {messages : List μ} {reason : ε}
    (verdict : cutter.cut input = .stop messages reason) :
    cutter.run input = { messages := messages, stopped := some reason, rest := input } := by
  rw [run]
  split
  · rename_i other
    rw [verdict] at other
    cases other
  · rename_i other
    rw [verdict] at other
    cases other
    rfl
  · rename_i other
    rw [verdict] at other
    cases other

theorem run_of_take {input : List α} {count : Nat} {messages : List μ}
    (verdict : cutter.cut input = .take count messages) :
    cutter.run input = (cutter.run (input.drop count)).after messages := by
  rw [run]
  split
  · rename_i other
    rw [verdict] at other
    cases other
  · rename_i other
    rw [verdict] at other
    cases other
  · rename_i other
    rw [verdict] at other
    cases other
    rfl

/-- Reasoning over the prefixes that a run takes, in the order it takes them. -/
theorem run_induction {motive : List α → Prop}
    (wait : ∀ input, cutter.cut input = .wait → motive input)
    (stop : ∀ input messages reason, cutter.cut input = .stop messages reason → motive input)
    (take : ∀ input count messages, cutter.cut input = .take count messages →
      motive (input.drop count) → motive input)
    (input : List α) : motive input := by
  induction size : input.length using Nat.strongRecOn generalizing input with
  | ind size ih =>
      cases verdict : cutter.cut input with
      | wait => exact wait input verdict
      | stop messages reason => exact stop input messages reason verdict
      | take count messages =>
          have bounds := cutter.progress verdict
          apply take input count messages verdict
          apply ih (input.drop count).length
          · rw [List.length_drop]
            omega
          · rfl

/-- A run that did not stop leaves a remainder on which the cutter waits. -/
theorem run_rest_waits (input : List α) :
    (cutter.run input).stopped = none → cutter.cut (cutter.run input).rest = .wait := by
  induction input using cutter.run_induction with
  | wait input verdict =>
      intro _running
      rw [cutter.run_of_wait verdict]
      exact verdict
  | stop input messages reason verdict =>
      intro running
      rw [cutter.run_of_stop verdict] at running
      cases running
  | take input count messages verdict ih =>
      intro running
      rw [cutter.run_of_take verdict] at running ⊢
      exact ih running

theorem run_rest_suffix (input : List α) :
    ∃ taken, input = taken ++ (cutter.run input).rest := by
  induction input using cutter.run_induction with
  | wait input verdict =>
      rw [cutter.run_of_wait verdict]
      exact ⟨[], rfl⟩
  | stop input messages reason verdict =>
      rw [cutter.run_of_stop verdict]
      exact ⟨[], rfl⟩
  | take input count messages verdict ih =>
      obtain ⟨taken, split⟩ := ih
      rw [cutter.run_of_take verdict, Parse.after_rest]
      refine ⟨input.take count ++ taken, ?_⟩
      rw [List.append_assoc, ← split, List.take_append_drop]

theorem run_rest_eq_drop (input : List α) :
    input.drop (input.length - (cutter.run input).rest.length) = (cutter.run input).rest := by
  obtain ⟨taken, split⟩ := cutter.run_rest_suffix input
  generalize (cutter.run input).rest = rest at split ⊢
  subst split
  rw [List.length_append, Nat.add_sub_cancel, List.drop_left]

/-- The decision on an input that does not wait is final: more input behind it
changes nothing. -/
def Stable : Prop :=
  ∀ input more, cutter.cut input ≠ .wait → cutter.cut (input ++ more) = cutter.cut input

variable {cutter}

theorem run_append (stable : cutter.Stable) (input more : List α) :
    cutter.run (input ++ more) =
      match (cutter.run input).stopped with
      | some _ => { cutter.run input with rest := (cutter.run input).rest ++ more }
      | none => (cutter.run ((cutter.run input).rest ++ more)).after (cutter.run input).messages := by
  induction input using cutter.run_induction with
  | wait input verdict =>
      rw [cutter.run_of_wait verdict]
      exact (Parse.after_nil _).symm
  | stop input messages reason verdict =>
      have extended : cutter.cut (input ++ more) = .stop messages reason := by
        rw [stable input more (by rw [verdict]; intro impossible; cases impossible), verdict]
      rw [cutter.run_of_stop verdict, cutter.run_of_stop extended]
  | take input count messages verdict ih =>
      have bounds := cutter.progress verdict
      have extended : cutter.cut (input ++ more) = .take count messages := by
        rw [stable input more (by rw [verdict]; intro impossible; cases impossible), verdict]
      rw [cutter.run_of_take verdict, cutter.run_of_take extended,
        List.drop_append_of_le_length bounds.2, ih, Parse.after_stopped, Parse.after_rest,
        Parse.after_messages]
      cases (cutter.run (input.drop count)).stopped with
      | some reason => rfl
      | none => exact Parse.after_after messages _ _

theorem run_append_running (stable : cutter.Stable) {input : List α}
    (running : (cutter.run input).stopped = none) (more : List α) :
    cutter.run (input ++ more) =
      (cutter.run ((cutter.run input).rest ++ more)).after (cutter.run input).messages := by
  rw [run_append stable, running]

theorem run_append_stopped (stable : cutter.Stable) {input : List α} {reason : ε}
    (stopped : (cutter.run input).stopped = some reason) (more : List α) :
    (cutter.run (input ++ more)).messages = (cutter.run input).messages := by
  rw [run_append stable, stopped]

/-- A stream that cutting does not stop on gives its first messages to any prefix of it. -/
theorem run_front (stable : cutter.Stable) {part whole : List α} (prior : part <+: whole)
    (running : (cutter.run whole).stopped = none) :
    (cutter.run part).stopped = none ∧
      (cutter.run part).messages <+: (cutter.run whole).messages := by
  obtain ⟨more, rfl⟩ := prior
  rw [run_append stable] at running ⊢
  cases stop : (cutter.run part).stopped with
  | some reason =>
      rw [stop] at running
      cases running.symm.trans stop
  | none => exact ⟨rfl, List.prefix_append _ _⟩

/-- Messages that weigh no more than a fixed multiple of what they are taken from. -/
theorem run_weight {weigh : μ → Nat} {divisor factor : Nat}
    (each : ∀ {input : List α} {count : Nat} {messages : List μ},
      cutter.cut input = .take count messages →
        divisor * (messages.map weigh).sum ≤ factor * count) (input : List α) :
    (cutter.run input).stopped = none →
      divisor * ((cutter.run input).messages.map weigh).sum + factor * (cutter.run input).rest.length ≤
        factor * input.length := by
  induction input using cutter.run_induction with
  | wait input verdict =>
      rw [cutter.run_of_wait verdict]
      intro _running
      change divisor * 0 + factor * input.length ≤ factor * input.length
      omega
  | stop input messages reason verdict =>
      rw [cutter.run_of_stop verdict]
      intro impossible
      cases impossible
  | take input count messages verdict ih =>
      rw [cutter.run_of_take verdict]
      intro running
      have later := ih running
      have head := each verdict
      have split : input.length = count + (input.drop count).length := by
        have bound := (cutter.progress verdict).2
        rw [List.length_drop]
        omega
      rw [split, Nat.mul_add, Parse.after_messages, List.map_append, List.sum_append, Nat.mul_add]
      rw [Parse.after_rest]
      omega

variable (cutter)

/-- Deliver the input piece by piece, keeping the unused remainder in between. -/
def feedAll (buffered : List α) : List (List α) → Parse α μ ε
  | [] => { messages := [], stopped := none, rest := buffered }
  | chunk :: chunks =>
      let first := cutter.run (buffered ++ chunk)
      match first.stopped with
      | some _ => first
      | none => (feedAll first.rest chunks).after first.messages

variable {cutter}

/-- Delivery in pieces and delivery at once differ at most in the remainder left
after a stop.  With no piece at all the buffered input must be one to wait on. -/
theorem feedAll_eq (stable : cutter.Stable) (chunks : List (List α)) (buffered : List α)
    (waiting : chunks = [] → cutter.cut buffered = .wait) :
    (cutter.feedAll buffered chunks).messages = (cutter.run (buffered ++ chunks.flatten)).messages ∧
      (cutter.feedAll buffered chunks).stopped = (cutter.run (buffered ++ chunks.flatten)).stopped ∧
      ((cutter.feedAll buffered chunks).stopped = none →
        (cutter.feedAll buffered chunks).rest = (cutter.run (buffered ++ chunks.flatten)).rest) := by
  induction chunks generalizing buffered with
  | nil =>
      rw [List.flatten_nil, List.append_nil, cutter.run_of_wait (waiting rfl)]
      exact ⟨rfl, rfl, fun _running => rfl⟩
  | cons chunk chunks ih =>
      rw [List.flatten_cons, ← List.append_assoc, run_append stable]
      simp only [feedAll]
      cases stopped : (cutter.run (buffered ++ chunk)).stopped with
      | some reason =>
          refine ⟨rfl, stopped, ?_⟩
          intro running
          change (cutter.run (buffered ++ chunk)).stopped = none at running
          rw [stopped] at running
          cases running
      | none =>
          have later := ih (cutter.run (buffered ++ chunk)).rest
            (fun _last => cutter.run_rest_waits (buffered ++ chunk) stopped)
          refine ⟨?_, later.2.1, later.2.2⟩
          exact congrArg ((cutter.run (buffered ++ chunk)).messages ++ ·) later.1

/-! ### A receiver that gives up what a stopping delivery brought -/

variable (cutter)

/-- The messages of the prefixes that a run takes, without what a stop leaves behind. -/
def wellFormed (input : List α) : List μ :=
  match _verdict : cutter.cut input with
  | .wait => []
  | .stop _messages _reason => []
  | .take count messages => messages ++ wellFormed (input.drop count)
termination_by input.length
decreasing_by
  have bounds := cutter.progress _verdict
  rw [List.length_drop]
  omega

/-- How far the input must be known for all of these messages to be cut from it. -/
def carried (input : List α) : Nat :=
  match _verdict : cutter.cut input with
  | .wait => 0
  | .stop _messages _reason => 0
  | .take count messages =>
      if (messages ++ cutter.wellFormed (input.drop count)).isEmpty then 0
      else count + carried (input.drop count)
termination_by input.length
decreasing_by
  have bounds := cutter.progress _verdict
  rw [List.length_drop]
  omega

theorem wellFormed_of_wait {input : List α} (verdict : cutter.cut input = .wait) :
    cutter.wellFormed input = [] := by
  rw [wellFormed]
  split
  · rfl
  · rfl
  · rename_i other
    rw [verdict] at other
    cases other

theorem wellFormed_of_stop {input : List α} {messages : List μ} {reason : ε}
    (verdict : cutter.cut input = .stop messages reason) : cutter.wellFormed input = [] := by
  rw [wellFormed]
  split
  · rfl
  · rfl
  · rename_i other
    rw [verdict] at other
    cases other

theorem wellFormed_of_take {input : List α} {count : Nat} {messages : List μ}
    (verdict : cutter.cut input = .take count messages) :
    cutter.wellFormed input = messages ++ cutter.wellFormed (input.drop count) := by
  rw [wellFormed]
  split
  · rename_i other
    rw [verdict] at other
    cases other
  · rename_i other
    rw [verdict] at other
    cases other
  · rename_i other
    rw [verdict] at other
    cases other
    rfl

theorem carried_of_take {input : List α} {count : Nat} {messages : List μ}
    (verdict : cutter.cut input = .take count messages) :
    cutter.carried input = if cutter.wellFormed input = [] then 0
      else count + cutter.carried (input.drop count) := by
  rw [cutter.wellFormed_of_take verdict, carried]
  split
  · rename_i other
    rw [verdict] at other
    cases other
  · rename_i other
    rw [verdict] at other
    cases other
  · rename_i other
    rw [verdict] at other
    cases other
    simp only [List.isEmpty_iff]

theorem carried_of_nil {input : List α} (nothing : cutter.wellFormed input = []) :
    cutter.carried input = 0 := by
  cases verdict : cutter.cut input with
  | wait =>
      rw [carried]
      split
      · rfl
      · rfl
      · rename_i other
        rw [verdict] at other
        cases other
  | stop messages reason =>
      rw [carried]
      split
      · rfl
      · rfl
      · rename_i other
        rw [verdict] at other
        cases other
  | take count messages => rw [cutter.carried_of_take verdict, if_pos nothing]

theorem run_messages_of_running (input : List α) :
    (cutter.run input).stopped = none → (cutter.run input).messages = cutter.wellFormed input := by
  induction input using cutter.run_induction with
  | wait input verdict =>
      intro _running
      rw [cutter.run_of_wait verdict, cutter.wellFormed_of_wait verdict]
  | stop input messages reason verdict =>
      intro running
      rw [cutter.run_of_stop verdict] at running
      cases running
  | take input count messages verdict ih =>
      intro running
      rw [cutter.run_of_take verdict] at running ⊢
      rw [cutter.wellFormed_of_take verdict, Parse.after_messages, ih running]

/-- A prefix is taken as soon as it is there. -/
def Prompt : Prop :=
  ∀ input more count messages, cutter.cut (input ++ more) = .take count messages →
    count ≤ input.length → cutter.cut input = .take count messages

variable {cutter}

/-- What is known of an input gives the first of its messages, and all of them
exactly where it reaches far enough. -/
theorem wellFormed_append (stable : cutter.Stable) (prompt : cutter.Prompt) (more : List α)
    (input : List α) :
    cutter.wellFormed input <+: cutter.wellFormed (input ++ more) ∧
      (cutter.wellFormed input = cutter.wellFormed (input ++ more) ↔
        cutter.carried (input ++ more) ≤ input.length) := by
  induction input using cutter.run_induction with
  | wait input verdict =>
      rw [cutter.wellFormed_of_wait verdict]
      refine ⟨List.nil_prefix, ?_⟩
      constructor
      · intro nothing
        rw [cutter.carried_of_nil nothing.symm]
        exact Nat.zero_le _
      · intro reaches
        by_contra something
        have some : cutter.wellFormed (input ++ more) ≠ [] := fun nothing => something nothing.symm
        cases later : cutter.cut (input ++ more) with
        | wait => exact some (cutter.wellFormed_of_wait later)
        | stop messages reason => exact some (cutter.wellFormed_of_stop later)
        | take count messages =>
            rw [cutter.carried_of_take later, if_neg some] at reaches
            have early := prompt input more count messages later (by omega)
            rw [verdict] at early
            cases early
  | stop input messages reason verdict =>
      have extended : cutter.cut (input ++ more) = .stop messages reason := by
        rw [stable input more (by rw [verdict]; intro impossible; cases impossible), verdict]
      rw [cutter.wellFormed_of_stop verdict, cutter.wellFormed_of_stop extended,
        cutter.carried_of_nil (cutter.wellFormed_of_stop extended)]
      exact ⟨List.nil_prefix, fun _same => Nat.zero_le _, fun _reaches => rfl⟩
  | take input count messages verdict ih =>
      have bounds := cutter.progress verdict
      have extended : cutter.cut (input ++ more) = .take count messages := by
        rw [stable input more (by rw [verdict]; intro impossible; cases impossible), verdict]
      have split : (input ++ more).drop count = input.drop count ++ more :=
        List.drop_append_of_le_length bounds.2
      rw [cutter.carried_of_take extended, cutter.wellFormed_of_take verdict,
        cutter.wellFormed_of_take extended, split, List.append_cancel_left_eq, ih.2,
        List.length_drop]
      refine ⟨(List.prefix_append_right_inj messages).mpr ih.1, ?_⟩
      split
      · rename_i nothing
        rw [cutter.carried_of_nil (List.append_eq_nil_iff.mp nothing).2]
        exact ⟨fun _reaches => Nat.zero_le _, fun _reaches => Nat.zero_le _⟩
      · omega

variable (cutter)

/-- Deliver piece by piece, where a piece on which cutting stops yields nothing. -/
def keptAll (buffered : List α) : List (List α) → List μ
  | [] => []
  | chunk :: chunks =>
      let first := cutter.run (buffered ++ chunk)
      match first.stopped with
      | some _ => []
      | none => first.messages ++ keptAll first.rest chunks

/-- Some delivery ends behind the last well-formed message, and before anything
malformed shows. -/
def Separated (seen : List α) (chunks : List (List α)) : Prop :=
  ∃ before after, chunks = before ++ after ∧
    (cutter.run (seen ++ before.flatten)).stopped = none ∧
      cutter.carried (seen ++ chunks.flatten) ≤ (seen ++ before.flatten).length

variable {cutter}

theorem separated_stopped (stable : cutter.Stable) {seen chunk : List α} {chunks : List (List α)}
    (running : (cutter.run seen).stopped = none) {reason : ε}
    (stopped : (cutter.run (seen ++ chunk)).stopped = some reason) :
    cutter.Separated seen (chunk :: chunks) ↔
      cutter.carried (seen ++ (chunk :: chunks).flatten) ≤ seen.length := by
  constructor
  · intro holds
    rcases holds with ⟨before, after, split, clean, reaches⟩
    cases before with
    | nil =>
        rw [List.flatten_nil, List.append_nil] at reaches
        exact reaches
    | cons head tail =>
        cases split
        rw [List.flatten_cons, ← List.append_assoc, run_append stable, stopped] at clean
        change (cutter.run (seen ++ chunk)).stopped = none at clean
        rw [stopped] at clean
        cases clean
  · intro reaches
    refine ⟨[], chunk :: chunks, rfl, ?_, ?_⟩
    · rw [List.flatten_nil, List.append_nil]
      exact running
    · rw [List.flatten_nil, List.append_nil]
      exact reaches

theorem separated_running {seen chunk : List α} {chunks : List (List α)}
    (running : (cutter.run (seen ++ chunk)).stopped = none) :
    cutter.Separated seen (chunk :: chunks) ↔ cutter.Separated (seen ++ chunk) chunks := by
  constructor
  · intro holds
    rcases holds with ⟨before, after, split, clean, reaches⟩
    rw [List.flatten_cons, ← List.append_assoc] at reaches
    cases before with
    | nil =>
        refine ⟨[], chunks, rfl, ?_, ?_⟩
        · rw [List.flatten_nil, List.append_nil]
          exact running
        · rw [List.flatten_nil, List.append_nil] at reaches ⊢
          rw [List.length_append]
          omega
    | cons head tail =>
        cases split
        rw [List.flatten_cons, ← List.append_assoc] at clean reaches
        exact ⟨tail, after, rfl, clean, reaches⟩
  · intro holds
    rcases holds with ⟨before, after, split, clean, reaches⟩
    refine ⟨chunk :: before, after, congrArg (chunk :: ·) split, ?_, ?_⟩
    · rw [List.flatten_cons, ← List.append_assoc]
      exact clean
    · rw [List.flatten_cons, List.flatten_cons, ← List.append_assoc, ← List.append_assoc]
      exact reaches

/-- A receiver of this kind gets the well-formed messages in order, and misses
none of them exactly where the deliveries separate them from what is malformed. -/
theorem keptAll_wellFormed (stable : cutter.Stable) (prompt : cutter.Prompt)
    (chunks : List (List α)) (seen : List α) (running : (cutter.run seen).stopped = none) :
    (cutter.run seen).messages ++ cutter.keptAll (cutter.run seen).rest chunks <+:
        cutter.wellFormed (seen ++ chunks.flatten) ∧
      ((cutter.run seen).messages ++ cutter.keptAll (cutter.run seen).rest chunks =
          cutter.wellFormed (seen ++ chunks.flatten) ↔ cutter.Separated seen chunks) := by
  induction chunks generalizing seen with
  | nil =>
      have known := wellFormed_append stable prompt [] seen
      rw [keptAll, List.append_nil, List.flatten_nil,
        cutter.run_messages_of_running seen running]
      refine ⟨known.1, known.2.trans ?_⟩
      constructor
      · intro reaches
        refine ⟨[], [], rfl, ?_, ?_⟩
        · rw [List.flatten_nil, List.append_nil]
          exact running
        · rw [List.flatten_nil, List.append_nil]
          rw [List.append_nil] at reaches
          exact reaches
      · intro holds
        rcases holds with ⟨before, after, split, clean, reaches⟩
        obtain ⟨rfl, _rest⟩ := List.append_eq_nil_iff.mp split.symm
        rw [List.flatten_nil, List.append_nil] at reaches
        rw [List.append_nil]
        exact reaches
  | cons chunk chunks ih =>
      have extended := run_append stable seen chunk
      rw [running] at extended
      simp only [keptAll]
      cases stopped : (cutter.run (seen ++ chunk)).stopped with
      | some reason =>
          have same : (cutter.run ((cutter.run seen).rest ++ chunk)).stopped = some reason := by
            rw [extended] at stopped
            exact stopped
          rw [same, List.append_nil, cutter.run_messages_of_running seen running,
            separated_stopped stable running stopped]
          exact wellFormed_append stable prompt _ seen
      | none =>
          have same : (cutter.run ((cutter.run seen).rest ++ chunk)).stopped = none := by
            rw [extended] at stopped
            exact stopped
          have later := ih (seen ++ chunk) stopped
          rw [extended, Parse.after_messages, Parse.after_rest, List.append_assoc,
            List.append_assoc] at later
          rw [same, separated_running stopped, List.flatten_cons]
          exact later

end Cutter

end RanOnline.StreamCut
