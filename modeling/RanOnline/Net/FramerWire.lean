/-
What MessageFramer::Feed makes of well-formed and of malformed input.

Plain frames come out as they went in.  An envelope of type NET_MSG_COMPRESS
comes out as the frames inside it, in either encoding, as far as these are well
formed.
-/
import RanOnline.Net.FramerChunks
import RanOnline.Net.FramerGrammar

namespace RanOnline.Net

open Memory StreamCut

/-! ### Plain frames -/

/-- No complete frame of the stream is an envelope. -/
def NoEnvelope (stream : Bytes) : Prop :=
  ∀ frames tail, Segmented WireFrame stream frames tail →
    ∀ frame ∈ frames, wordAt frame 4 ≠ netMsgCompress

theorem noEnvelope_short {stream : Bytes} (short : stream.length < kHeaderSize) :
    NoEnvelope stream := by
  intro frames tail split frame member
  have header := (split.each frame member).header
  have inside : frame.length ≤ frames.flatten.length :=
    (List.sublist_flatten_of_mem member).length_le
  have whole := congrArg List.length split.flat
  rw [List.length_append] at whole
  omega

theorem NoEnvelope.cons {frame stream : Bytes} (wire : WireFrame frame)
    (plain : wordAt frame 4 ≠ netMsgCompress) (later : NoEnvelope stream) :
    NoEnvelope (frame ++ stream) := by
  intro frames tail split other member
  cases frames with
  | nil => cases member
  | cons head frames =>
      obtain ⟨headIs, rest, same, restSplit⟩ := split.uncons
      have lengths : frame.length = head.length := by
        rw [← wire.wordAt_append stream, same, headIs.wordAt_append]
      obtain ⟨rfl, rfl⟩ := List.append_inj same lengths
      rcases List.mem_cons.mp member with rfl | member
      · exact plain
      · exact later frames tail restSplit other member

theorem feed_accepted {lzo : LzoApi} {mBuf data : Bytes} {result : FeedResult}
    (fed : feed lzo mBuf data = .ok result) (accepted : result.ok = true) :
    ((frameCutter lzo).run (mBuf ++ data)).stopped = none ∧
      result.out = ((frameCutter lzo).run (mBuf ++ data)).messages ∧
      result.buf = ((frameCutter lzo).run (mBuf ++ data)).rest := by
  rw [feed_eq, feedOutcome] at fed
  cases stop : ((frameCutter lzo).run (mBuf ++ data)).stopped with
  | none =>
      rw [stop] at fed
      cases fed
      exact ⟨rfl, rfl, rfl⟩
  | some reason =>
      rw [stop] at fed
      cases reason with
      | protocolError =>
          cases fed
          cases accepted
      | fault fault => cases fed

/-- A stream that the framer accepts is made of the frames that it took and of
what it keeps. -/
theorem run_accepted {lzo : LzoApi} {stream : Bytes}
    (running : ((frameCutter lzo).run stream).stopped = none) :
    ∃ frames, Segmented (TakenFrame lzo) stream frames ((frameCutter lzo).run stream).rest ∧
      ((frameCutter lzo).run stream).messages = frames.flatMap (frameMessages lzo) := by
  obtain ⟨frames, split, _ended⟩ := Cutter.run_takes (frameCutter_recognises lzo) stream
  have waits := (frameCutter lzo).run_rest_waits stream running
  refine ⟨frames, split, ?_⟩
  have run := Cutter.run_segmented (frameCutter_recognises lzo) split
  generalize ((frameCutter lzo).run stream).rest = rest at run waits
  rw [(frameCutter lzo).run_of_wait waits] at run
  rw [run]
  exact List.append_nil _

theorem run_segmented_whole {lzo : LzoApi} {stream : Bytes} {frames : List Bytes}
    (split : Segmented (TakenFrame lzo) stream frames []) :
    (frameCutter lzo).run stream =
      { messages := frames.flatMap (frameMessages lzo), stopped := none, rest := [] } := by
  have verdict : (frameCutter lzo).cut [] = .wait := rfl
  rw [Cutter.run_segmented (frameCutter_recognises lzo) split,
    (frameCutter lzo).run_of_wait verdict]
  simp only [Parse.after, List.append_nil]

theorem feed_segmented_whole {lzo : LzoApi} {mBuf data : Bytes} {frames : List Bytes}
    (split : Segmented (TakenFrame lzo) (mBuf ++ data) frames []) :
    feed lzo mBuf data =
      .ok { ok := true, out := frames.flatMap (frameMessages lzo), buf := [] } := by
  rw [feed_eq, run_segmented_whole split]
  rfl

theorem feed_plain {lzo : LzoApi} {frames : List Bytes}
    (wire : ∀ frame ∈ frames, WireFrame frame)
    (plain : ∀ frame ∈ frames, wordAt frame 4 ≠ netMsgCompress) :
    feed lzo [] frames.flatten =
      .ok { ok := true, out := frames.map Message.ofFrame, buf := [] } := by
  obtain ⟨taken, emitted⟩ := @plainFrames_taken lzo frames wire plain
  rw [← emitted]
  apply feed_segmented_whole
  constructor
  · rw [List.nil_append, List.append_nil]
  · exact taken

private theorem flatten_map_bytes (frames : List Bytes) :
    ((frames.map Message.ofFrame).map Message.bytes).flatten = frames.flatten := by
  rw [List.map_map]
  exact congrArg List.flatten (List.map_id frames)

private theorem map_encodeMessage (messages : List (UInt32 × Bytes)) :
    ((messages.map fun message => encodeMessage message.1 message.2).map Message.ofFrame).map
      (fun msg => (msg.type, msg.payload)) = messages := by
  induction messages with
  | nil => rfl
  | cons message messages ih =>
      simp only [List.map_cons]
      rw [ih, ofFrame_encodeMessage_type]
      have payload := encodeMessage_payload message.1 message.2
      change (message.1, (encodeMessage message.1 message.2).drop kHeaderSize) :: messages = _
      rw [payload]

/-- Framing plain messages loses nothing: what was encoded comes out again, and
what was accepted is still there, in the messages and in the buffer. -/
theorem plain_framing_lossless (lzo : LzoApi) :
    (∀ messages : List (UInt32 × Bytes),
      (∀ message ∈ messages, message.1 ≠ netMsgCompress ∧
        kHeaderSize + message.2.length ≤ kMaxMessageSize) →
      ∃ out,
        feed lzo [] (messages.map fun message => encodeMessage message.1 message.2).flatten =
          .ok { ok := true, out := out, buf := [] } ∧
        out.map (fun msg => (msg.type, msg.payload)) = messages) ∧
    (∀ (stream : Bytes) (result : FeedResult), NoEnvelope stream →
      feed lzo [] stream = .ok result → result.ok = true →
      (result.out.map Message.bytes).flatten ++ result.buf = stream) := by
  constructor
  · intro messages allowed
    have wire : ∀ frame ∈ messages.map (fun message => encodeMessage message.1 message.2),
        WireFrame frame := by
      intro frame member
      obtain ⟨message, present, rfl⟩ := List.mem_map.mp member
      exact encodeMessage_wireFrame message.1 (allowed message present).2
    have plain : ∀ frame ∈ messages.map (fun message => encodeMessage message.1 message.2),
        wordAt frame 4 ≠ netMsgCompress := by
      intro frame member
      obtain ⟨message, present, rfl⟩ := List.mem_map.mp member
      have type : wordAt (encodeMessage message.1 message.2) 4 = message.1 :=
        ofFrame_encodeMessage_type message.1 message.2
      rw [type]
      exact (allowed message present).1
    exact ⟨_, feed_plain wire plain, map_encodeMessage messages⟩
  · intro stream result noEnvelope fed accepted
    obtain ⟨running, out, buf⟩ := feed_accepted fed accepted
    rw [List.nil_append] at running out buf
    obtain ⟨frames, split, messages⟩ := run_accepted running
    have wired : Segmented WireFrame stream frames ((frameCutter lzo).run stream).rest :=
      split.mono (fun frame _member taken => taken.toWireFrame)
    have plain := @plainFrames_taken lzo frames wired.each (noEnvelope frames _ wired)
    rw [out, buf, messages, plain.2, flatten_map_bytes]
    exact split.flat.symm

theorem plain_framing_lossless_two :
    (∃ out, feed literalLzo.toLzoApi []
        ([(500, [1, 2]), (7, [])].map fun message : UInt32 × Bytes =>
          encodeMessage message.1 message.2).flatten =
        .ok { ok := true, out := out, buf := [] } ∧
      out.map (fun msg => (msg.type, msg.payload)) = [(500, [1, 2]), (7, [])]) ∧
    (([Message.ofFrame (encodeMessage 500 [1, 2])].map Message.bytes).flatten ++ [9, 0, 0] =
      encodeMessage 500 [1, 2] ++ [9, 0, 0]) := by
  constructor
  · exact (plain_framing_lossless literalLzo.toLzoApi).1 _ (by decide)
  · apply (plain_framing_lossless literalLzo.toLzoApi).2 _
      { ok := true, out := [Message.ofFrame (encodeMessage 500 [1, 2])], buf := [9, 0, 0] }
    · exact (noEnvelope_short (by decide)).cons
        (encodeMessage_wireFrame 500 (by decide)) (by decide)
    · rfl
    · rfl

/-! ### Envelopes -/

/-- What an envelope carries by its encoding byte: the bytes behind its header, or
what LZO makes of them.  Too little to decompress, and a result shorter than what
it was made of, count as no contents. -/
def envelopeContents (lzo : LzoApi) (frame : Bytes) : Option Bytes :=
  let carried := frame.drop envelopeHeaderSize
  if frame.getD 8 0 = 1 then
    if carried = [] then none
    else match lzo.decompressSafe carried decompBufSize with
      | some output => if output.length < carried.length then none else some output
      | none => none
  else some carried

structure Envelope (frame : Bytes) : Prop extends WireFrame frame where
  type : wordAt frame 4 = netMsgCompress
  room : envelopeHeaderSize ≤ frame.length

/-- Frames, and a tail too short for the header of another one. -/
structure Packed (payload : Bytes) (inners : List Bytes) (tail : Bytes) : Prop extends
    Segmented SelfSized payload inners tail where
  short : tail.length < kHeaderSize

/-- The longest beginning of a payload that is made of frames. -/
structure LongestFrames (payload : Bytes) (inners : List Bytes) : Prop where
  frames : ∃ tail, Segmented SelfSized payload inners tail
  longest : ∀ others tail, Segmented SelfSized payload others tail → others <+: inners

theorem Packed.ended {payload tail : Bytes} {inners : List Bytes}
    (packed : Packed payload inners tail) :
    ∀ count messages, innerCutter.cut tail ≠ .take count messages := by
  intro count messages taken
  have waiting : innerCutter.cut tail = .wait := innerCut_wait_iff.mpr packed.short
  rw [waiting] at taken
  cases taken

theorem Packed.unique {payload firstTail secondTail : Bytes} {first second : List Bytes}
    (firstPacked : Packed payload first firstTail)
    (secondPacked : Packed payload second secondTail) :
    first = second ∧ firstTail = secondTail :=
  Cutter.segments_unique innerCutter_recognises firstPacked.toSegmented firstPacked.ended
    secondPacked.toSegmented secondPacked.ended

theorem envelopePayload_eq {lzo : LzoApi} (bounded : lzo.DecompressBounded) {frame : Bytes}
    (room : envelopeHeaderSize ≤ frame.length) :
    envelopePayload lzo frame =
      (envelopeContents lzo frame).elim (.error .protocolError) Except.ok := by
  have fits := lzoDeCompress_length_le bounded (frame.drop envelopeHeaderSize) decompBufSize
  simp only [envelopePayload, envelopeContents, if_neg (Nat.not_lt.mpr room),
    if_neg (Nat.not_lt.mpr fits)]
  by_cases compressed : frame.getD 8 0 = 1
  · rw [if_pos compressed, if_pos compressed]
    generalize frame.drop envelopeHeaderSize = carried
    unfold lzoDeCompress
    by_cases empty : carried = []
    · rw [if_pos empty, empty]
      rfl
    · rw [if_neg empty, if_neg (mt List.eq_nil_of_length_eq_zero empty)]
      cases lzo.decompressSafe carried decompBufSize with
      | none => rfl
      | some output =>
          by_cases shorter : output.length < carried.length
          · simp only [if_pos shorter, if_neg (Nat.not_le.mpr shorter)]
            rfl
          · simp only [if_neg shorter, if_pos (Nat.le_of_not_lt shorter)]
            rfl
  · rw [if_neg compressed, if_neg compressed]
    rfl

/-- The verdict on an envelope is that of its contents. -/
theorem frameVerdict_packed {lzo : LzoApi} (bounded : lzo.DecompressBounded) {frame : Bytes}
    (envelope : Envelope frame) {payload tail : Bytes} {inners : List Bytes}
    (contents : envelopeContents lzo frame = some payload)
    (packed : Packed payload inners tail) :
    frameVerdict lzo frame = .take frame.length (inners.map Message.ofFrame) := by
  have run := innerRun_segmented packed.toSegmented
  rw [innerCutter.run_of_wait (innerCut_wait_iff.mpr packed.short)] at run
  unfold frameVerdict
  rw [if_pos envelope.type, envelopePayload_eq bounded envelope.room, contents]
  simp only [Option.elim_some, run, Parse.after, List.append_nil]

theorem frameVerdict_empty {lzo : LzoApi} (bounded : lzo.DecompressBounded) {frame : Bytes}
    (envelope : Envelope frame) (contents : envelopeContents lzo frame = none) :
    frameVerdict lzo frame = .stop [] .protocolError := by
  unfold frameVerdict
  rw [if_pos envelope.type, envelopePayload_eq bounded envelope.room, contents]
  rfl

theorem frameVerdict_malformed {lzo : LzoApi} (bounded : lzo.DecompressBounded) {frame : Bytes}
    (envelope : Envelope frame) {payload : Bytes}
    (contents : envelopeContents lzo frame = some payload)
    (malformed : ¬∃ inners tail, Packed payload inners tail) :
    ∃ inners, LongestFrames payload inners ∧
      frameVerdict lzo frame = .stop (inners.map Message.ofFrame) .protocolError := by
  obtain ⟨inners, tail, split, ended, messages, stopped⟩ := innerRun_takes payload
  refine ⟨inners, ?_, ?_⟩
  · constructor
    · exact ⟨tail, split⟩
    · intro others otherTail other
      exact Cutter.segments_longest innerCutter_recognises split ended other
  · unfold frameVerdict
    rw [if_pos envelope.type, envelopePayload_eq bounded envelope.room, contents]
    cases stop : (innerCutter.run payload).stopped with
    | none => exact absurd ⟨inners, tail, ⟨split, stopped.mp stop⟩⟩ malformed
    | some reason => simp only [Option.elim_some, stop, messages]

/-- What Feed returns when messages of an earlier part of the stream come first. -/
def FeedResult.behind (stream : Bytes) (earlier : List Message) (result : FeedResult) :
    FeedResult :=
  { ok := result.ok
    out := earlier ++ result.out
    buf := if result.ok then result.buf else stream }

theorem feedOutcome_after (stream other : Bytes) (earlier : List Message)
    (parse : Parse UInt8 Message FeedStop) :
    feedOutcome stream (parse.after earlier) =
      (feedOutcome other parse).map (FeedResult.behind stream earlier) := by
  simp only [feedOutcome, Parse.after_stopped, Parse.after_messages, Parse.after_rest]
  cases parse.stopped with
  | none => rfl
  | some reason => cases reason <;> rfl

section Reached

variable {lzo : LzoApi} {mBuf data before frame more : Bytes} {earlier : List Message}

theorem run_reached
    (reached : feed lzo [] before = .ok { ok := true, out := earlier, buf := [] }) (rest : Bytes) :
    (frameCutter lzo).run (before ++ rest) = ((frameCutter lzo).run rest).after earlier := by
  obtain ⟨running, out, buf⟩ := feed_accepted reached rfl
  rw [List.nil_append] at running out buf
  rw [Cutter.run_append_running (frameCutter_stable lzo) running, ← out, ← buf, List.nil_append]

theorem feed_frame_taken (stream : mBuf ++ data = before ++ (frame ++ more))
    (reached : feed lzo [] before = .ok { ok := true, out := earlier, buf := [] })
    (wire : WireFrame frame) {messages : List Message}
    (verdict : frameVerdict lzo frame = .take frame.length messages) :
    feed lzo mBuf data =
      (feed lzo [] more).map (FeedResult.behind (mBuf ++ data) (earlier ++ messages)) := by
  have cut : (frameCutter lzo).cut (frame ++ more) = .take frame.length messages :=
    (frameCut_of_wireFrame lzo wire more).trans verdict
  rw [feed_eq, feed_eq, List.nil_append, stream, run_reached reached,
    (frameCutter lzo).run_of_take cut, List.drop_left, Parse.after_after]
  exact feedOutcome_after _ more _ _

theorem feed_frame_stopped (stream : mBuf ++ data = before ++ (frame ++ more))
    (reached : feed lzo [] before = .ok { ok := true, out := earlier, buf := [] })
    (wire : WireFrame frame) {messages : List Message}
    (verdict : frameVerdict lzo frame = .stop messages .protocolError) :
    feed lzo mBuf data =
      .ok { ok := false, out := earlier ++ messages, buf := mBuf ++ data } := by
  have cut : (frameCutter lzo).cut (frame ++ more) = .stop messages .protocolError :=
    (frameCut_of_wireFrame lzo wire more).trans verdict
  rw [feed_eq, stream, run_reached reached, (frameCutter lzo).run_of_stop cut]
  rfl

end Reached

/-- An envelope that the framer gets to is accepted exactly where its contents are
frames with a tail too short for another one.  It is replaced by these frames,
there is only one way to read them, and a rejected one has given the longest
beginning that is made of frames. -/
theorem envelope_grammar (lzo : LzoApi) (bounded : lzo.DecompressBounded)
    (mBuf data before frame more : Bytes) (earlier : List Message)
    (stream : mBuf ++ data = before ++ (frame ++ more))
    (reached : feed lzo [] before = .ok { ok := true, out := earlier, buf := [] })
    (envelope : Envelope frame) :
    ((∃ result, feed lzo [] (before ++ frame) = .ok result ∧ result.ok = true) ↔
      ∃ payload inners tail,
        envelopeContents lzo frame = some payload ∧ Packed payload inners tail) ∧
    (∀ payload inners tail, envelopeContents lzo frame = some payload →
      Packed payload inners tail →
      feed lzo mBuf data = (feed lzo [] more).map
        (FeedResult.behind (mBuf ++ data) (earlier ++ inners.map Message.ofFrame)) ∧
      ∀ others otherTail, Packed payload others otherTail →
        others = inners ∧ otherTail = tail) ∧
    (envelopeContents lzo frame = none →
      feed lzo mBuf data = .ok { ok := false, out := earlier, buf := mBuf ++ data }) ∧
    (∀ payload, envelopeContents lzo frame = some payload →
      (¬∃ inners tail, Packed payload inners tail) →
      ∃ inners, LongestFrames payload inners ∧
        feed lzo mBuf data =
          .ok { ok := false, out := earlier ++ inners.map Message.ofFrame,
                buf := mBuf ++ data }) := by
  have alone : [] ++ (before ++ frame) = before ++ (frame ++ []) := by
    rw [List.nil_append, List.append_nil]
  have refused : ∀ {messages : List Message},
      frameVerdict lzo frame = .stop messages .protocolError →
      ¬∃ result, feed lzo [] (before ++ frame) = .ok result ∧ result.ok = true := by
    rintro messages verdict ⟨result, fed, accepted⟩
    rw [feed_frame_stopped alone reached envelope.toWireFrame verdict] at fed
    cases fed
    cases accepted
  constructor
  · constructor
    · intro accepted
      cases contents : envelopeContents lzo frame with
      | none => exact absurd accepted (refused (frameVerdict_empty bounded envelope contents))
      | some payload =>
          by_contra malformed
          have unpacked : ¬∃ inners tail, Packed payload inners tail := by
            intro holds
            rcases holds with ⟨inners, tail, packed⟩
            exact malformed ⟨payload, inners, tail, rfl, packed⟩
          obtain ⟨inners, _longest, verdict⟩ :=
            frameVerdict_malformed bounded envelope contents unpacked
          exact refused verdict accepted
    · intro holds
      rcases holds with ⟨payload, inners, tail, contents, packed⟩
      have verdict := frameVerdict_packed bounded envelope contents packed
      rw [feed_frame_taken alone reached envelope.toWireFrame verdict]
      exact ⟨_, rfl, rfl⟩
  · constructor
    · intro payload inners tail contents packed
      have verdict := frameVerdict_packed bounded envelope contents packed
      constructor
      · exact feed_frame_taken stream reached envelope.toWireFrame verdict
      · intro others otherTail other
        exact other.unique packed
    · constructor
      · intro contents
        have verdict := frameVerdict_empty bounded envelope contents
        rw [feed_frame_stopped stream reached envelope.toWireFrame verdict, List.append_nil]
      · intro payload contents malformed
        obtain ⟨inners, longest, verdict⟩ :=
          frameVerdict_malformed bounded envelope contents malformed
        exact ⟨inners, longest, feed_frame_stopped stream reached envelope.toWireFrame verdict⟩

/-- An envelope with an envelope in it, which is emitted as it is, and a tail. -/
def nestedEnvelope : Bytes :=
  writeLE32 21 ++ writeLE32 netMsgCompress ++ [0, 0, 0, 0] ++ encodeMessage netMsgCompress [] ++ [5]

theorem envelope_grammar_nested :
    feed literalLzo.toLzoApi [8] (([0, 0, 0, 7, 0, 0, 0] ++ nestedEnvelope) ++ [9, 9]) =
      (feed literalLzo.toLzoApi [] [9, 9]).map
        (FeedResult.behind ([8] ++ (([0, 0, 0, 7, 0, 0, 0] ++ nestedEnvelope) ++ [9, 9]))
          ([Message.ofFrame (encodeMessage 7 [])] ++
            [encodeMessage netMsgCompress []].map Message.ofFrame)) := by
  have envelope : Envelope nestedEnvelope := by
    constructor
    · exact ⟨⟨by decide, by decide⟩, by decide⟩
    · decide
    · decide
  have sized : SelfSized (encodeMessage netMsgCompress []) :=
    (encodeMessage_wireFrame netMsgCompress (by decide)).toSelfSized
  have packed : Packed (encodeMessage netMsgCompress [] ++ [5])
      [encodeMessage netMsgCompress []] [5] := by
    constructor
    · exact (Segmented.nil SelfSized [5]).cons sized
    · decide
  exact ((envelope_grammar literalLzo.toLzoApi literalLzo.decompressBounded [8]
    (([0, 0, 0, 7, 0, 0, 0] ++ nestedEnvelope) ++ [9, 9]) (encodeMessage 7 []) nestedEnvelope [9, 9]
    [Message.ofFrame (encodeMessage 7 [])] rfl rfl envelope).2.1 _ _ _ rfl packed).1

end RanOnline.Net
