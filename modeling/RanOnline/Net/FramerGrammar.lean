/-
The wire grammar as a language of byte strings.

Here a frame is a byte string as long as its own header says, and a stream is
frames one behind the other with an incomplete one at its end.  The cutters of
the framer recognise these families, so a run of MessageFramer::Feed is compared
with the only way to read its input as frames.
-/
import RanOnline.Lib.Segments
import RanOnline.Net.Framer

namespace RanOnline.Net

open Memory StreamCut

/-! ### Frames -/

/-- A byte string that is as long as its own header says. -/
structure SelfSized (frame : Bytes) : Prop where
  header : kHeaderSize ≤ frame.length
  size : (wordAt frame 0).toNat = frame.length

/-- A frame that may stand on the wire by itself. -/
structure WireFrame (frame : Bytes) : Prop extends SelfSized frame where
  limit : frame.length ≤ kMaxMessageSize

theorem SelfSized.framed {frame : Bytes} (sized : SelfSized frame) :
    (Message.ofFrame frame).Framed := by
  constructor
  · exact sized.header
  · exact sized.size
  · rfl

theorem selfSized_take {stream : Bytes} (header : kHeaderSize ≤ (wordAt stream 0).toNat)
    (complete : (wordAt stream 0).toNat ≤ stream.length) :
    SelfSized (stream.take (wordAt stream 0).toNat) := by
  have framed := ofFrame_take_framed header complete
  constructor
  · exact framed.header
  · exact framed.size

theorem SelfSized.wordAt_append {frame : Bytes} (sized : SelfSized frame) (more : Bytes) :
    (wordAt (frame ++ more) 0).toNat = frame.length := by
  have header : 8 ≤ frame.length := sized.header
  rw [wordAt_append_left (by omega), sized.size]

theorem encodeMessage_selfSized (type : UInt32) {payload : Bytes}
    (small : kHeaderSize + payload.length < 2 ^ 32) :
    SelfSized (encodeMessage type payload) := by
  have size := encodeMessage_size type small []
  rw [List.append_nil] at size
  constructor
  · rw [encodeMessage_length]
    exact Nat.le_add_right _ _
  · rw [size, encodeMessage_length]

theorem encodeMessage_wireFrame (type : UInt32) {payload : Bytes}
    (limit : kHeaderSize + payload.length ≤ kMaxMessageSize) :
    WireFrame (encodeMessage type payload) := by
  have small : kHeaderSize + payload.length < 2 ^ 32 := by
    unfold kMaxMessageSize at limit
    omega
  constructor
  · exact encodeMessage_selfSized type small
  · rw [encodeMessage_length]
    exact limit

theorem ofFrame_encodeMessage_type (type : UInt32) (payload : Bytes) :
    (Message.ofFrame (encodeMessage type payload)).type = type := by
  have read := encodeMessage_type type payload []
  rw [List.append_nil] at read
  exact read

/-! ### The frames of an envelope -/

theorem innerCutter_recognises :
    innerCutter.Recognises SelfSized (fun frame => [Message.ofFrame frame]) := by
  constructor
  · intro payload count messages taken
    obtain ⟨rfl, header, complete, rfl⟩ := innerCut_take_iff.mp taken
    exact ⟨selfSized_take header complete, rfl⟩
  · intro frame sized more
    apply innerCut_take_iff.mpr
    refine ⟨(sized.wordAt_append more).symm, sized.header, ?_, ?_⟩
    · rw [List.length_append]
      exact Nat.le_add_right _ _
    · rw [List.take_left]

theorem innerCut_wait_iff {payload : Bytes} :
    innerCut payload = .wait ↔ payload.length < kHeaderSize := by
  unfold innerCut
  constructor
  · intro waiting
    simp only at waiting
    split at waiting
    · assumption
    · split at waiting <;> cases waiting
  · intro short
    exact if_pos short

theorem flatMap_ofFrame (frames : List Bytes) :
    frames.flatMap (fun frame => [Message.ofFrame frame]) = frames.map Message.ofFrame := by
  induction frames with
  | nil => rfl
  | cons frame frames ih =>
      rw [List.flatMap_cons, ih]
      rfl

theorem innerRun_segmented {payload tail : Bytes} {inners : List Bytes}
    (split : Segmented SelfSized payload inners tail) :
    innerCutter.run payload = (innerCutter.run tail).after (inners.map Message.ofFrame) := by
  rw [Cutter.run_segmented innerCutter_recognises split, flatMap_ofFrame]

/-- The frames that a payload starts with and what stands behind the last of them. -/
theorem innerRun_takes (payload : Bytes) :
    ∃ inners tail, Segmented SelfSized payload inners tail ∧
      (∀ count messages, innerCutter.cut tail ≠ .take count messages) ∧
      (innerCutter.run payload).messages = inners.map Message.ofFrame ∧
      ((innerCutter.run payload).stopped = none ↔ tail.length < kHeaderSize) := by
  obtain ⟨inners, split, ended⟩ := Cutter.run_takes innerCutter_recognises payload
  refine ⟨inners, (innerCutter.run payload).rest, split, ended, ?_⟩
  have run := innerRun_segmented split
  generalize (innerCutter.run payload).rest = tail at run ended
  cases verdict : innerCutter.cut tail with
  | wait =>
      rw [innerCutter.run_of_wait verdict] at run
      rw [run]
      constructor
      · exact List.append_nil _
      · exact iff_of_true rfl (innerCut_wait_iff.mp verdict)
  | stop messages reason =>
      rw [innerCutter.run_of_stop verdict, innerCut_stop verdict] at run
      rw [run]
      constructor
      · exact List.append_nil _
      · constructor
        · intro impossible
          cases impossible
        · intro short
          have waiting : innerCutter.cut tail = .wait := innerCut_wait_iff.mpr short
          rw [verdict] at waiting
          cases waiting
  | take count messages => exact absurd verdict (ended count messages)

/-! ### The frames of a stream -/

variable (lzo : LzoApi)

/-- A frame that the framer takes whole. -/
structure TakenFrame (frame : Bytes) : Prop extends WireFrame frame where
  verdict : ∃ messages, frameVerdict lzo frame = .take frame.length messages

/-- The messages that a frame is replaced by when it is taken. -/
def frameMessages (frame : Bytes) : List Message :=
  match frameVerdict lzo frame with
  | .wait => []
  | .take _count messages => messages
  | .stop _messages _reason => []

theorem frameCutter_recognises :
    (frameCutter lzo).Recognises (TakenFrame lzo) (frameMessages lzo) := by
  constructor
  · intro stream count messages taken
    obtain ⟨rfl, header, limit, complete, verdict⟩ := frameCut_take_iff.mp taken
    have length : (stream.take (wordAt stream 0).toNat).length = (wordAt stream 0).toNat := by
      rw [List.length_take, Nat.min_eq_left complete]
    constructor
    · constructor
      · constructor
        · exact selfSized_take header complete
        · rw [length]
          exact limit
      · refine ⟨messages, ?_⟩
        rw [length]
        exact verdict
    · simp only [frameMessages, verdict]
  · intro frame taken more
    obtain ⟨messages, verdict⟩ := taken.verdict
    apply frameCut_take_iff.mpr
    refine ⟨(taken.wordAt_append more).symm, taken.header, taken.limit, ?_, ?_⟩
    · rw [List.length_append]
      exact Nat.le_add_right _ _
    · rw [List.take_left]
      simp only [frameMessages, verdict]

/-- A complete frame that is not taken stops the framer. -/
theorem frameCut_of_wireFrame {frame : Bytes} (wire : WireFrame frame) (more : Bytes) :
    frameCut lzo (frame ++ more) = frameVerdict lzo frame := by
  have header := wire.header
  have limit := wire.limit
  unfold frameCut
  rw [List.length_append, wire.wordAt_append, if_neg (by omega)]
  simp only
  rw [if_neg (by omega), if_neg (by omega), List.take_left]

variable {lzo}

theorem WireFrame.taken {frame : Bytes} (wire : WireFrame frame)
    (plain : wordAt frame 4 ≠ netMsgCompress) :
    TakenFrame lzo frame ∧ frameMessages lzo frame = [Message.ofFrame frame] := by
  have verdict : frameVerdict lzo frame = .take frame.length [Message.ofFrame frame] := by
    unfold frameVerdict
    rw [if_neg plain]
  constructor
  · constructor
    · exact wire
    · exact ⟨_, verdict⟩
  · simp only [frameMessages, verdict]

theorem plainFrames_taken {frames : List Bytes}
    (wire : ∀ frame ∈ frames, WireFrame frame)
    (plain : ∀ frame ∈ frames, wordAt frame 4 ≠ netMsgCompress) :
    (∀ frame ∈ frames, TakenFrame lzo frame) ∧
      frames.flatMap (frameMessages lzo) = frames.map Message.ofFrame := by
  induction frames with
  | nil =>
      constructor
      · intro frame impossible
        cases impossible
      · rfl
  | cons frame frames ih =>
      have first := @WireFrame.taken lzo frame (wire frame List.mem_cons_self)
        (plain frame List.mem_cons_self)
      have later := ih (fun other member => wire other (List.mem_cons_of_mem frame member))
        (fun other member => plain other (List.mem_cons_of_mem frame member))
      constructor
      · intro other member
        rcases List.mem_cons.mp member with rfl | member
        · exact first.1
        · exact later.1 other member
      · rw [List.flatMap_cons, first.2, later.2]
        rfl

end RanOnline.Net
