/-
What MessageFramer::Feed pushes onto its output.

The header of a frame limits it to kMaxMessageSize.  A compressed envelope that
keeps this limit may still hold a longer frame, which is passed on as it is.
-/
import RanOnline.Net.FramerBounds

namespace RanOnline.Net

open Memory StreamCut

/-- One `feed` after another, whatever each of them returns. -/
def feedEvery (lzo : LzoApi) : Bytes → List Bytes → Checked (List FeedResult)
  | _, [] => pure []
  | mBuf, chunk :: chunks => do
      let first ← feed lzo mBuf chunk
      let later ← feedEvery lzo first.buf chunks
      pure (first :: later)

/-- A message that agrees with its own header and keeps the limit of the wire. -/
structure Message.WireSized (msg : Message) : Prop extends msg.Framed where
  limit : msg.bytes.length ≤ kMaxMessageSize

/-- A frame that the framer accepts: a plain one, or an envelope whose contents are
frames. -/
structure Acceptable (lzo : LzoApi) (frame : Bytes) : Prop extends WireFrame frame where
  opens : wordAt frame 4 = netMsgCompress → envelopeHeaderSize ≤ frame.length ∧
    ∃ payload inners tail, envelopeContents lzo frame = some payload ∧ Packed payload inners tail

/-- Behind frames that are accepted the stream has an envelope, and behind frames
of its contents there is `inner`. -/
def Unpacks (lzo : LzoApi) (stream frame inner : Bytes) : Prop :=
  ∃ frames more payload inners rest,
    Segmented (Acceptable lzo) stream frames (frame ++ more) ∧ Envelope frame ∧
      envelopeContents lzo frame = some payload ∧
        Segmented SelfSized payload inners (inner ++ rest) ∧ SelfSized inner

/-- Nothing that stands uncompressed in an envelope is longer than the envelope. -/
theorem Unpacks.raw_length_le {lzo : LzoApi} {stream frame inner : Bytes}
    (unpacks : Unpacks lzo stream frame inner) (raw : frame.getD 8 0 ≠ 1) :
    inner.length ≤ kMaxMessageSize := by
  obtain ⟨_frames, _more, payload, inners, rest, _split, envelope, contents, unpacked, _sized⟩ :=
    unpacks
  simp only [envelopeContents, if_neg raw] at contents
  cases contents
  have limit := envelope.limit
  have whole := congrArg List.length unpacked.flat
  rw [List.length_drop, List.length_append, List.length_append] at whole
  omega

/-- No compressed envelope that is reached holds, where it is well formed so far, a
frame beyond the limit. -/
def NoOversized (lzo : LzoApi) (stream : Bytes) : Prop :=
  ∀ frame inner, frame.getD 8 0 = 1 → Unpacks lzo stream frame inner →
    inner.length ≤ kMaxMessageSize

/-! ### The messages of a stream -/

theorem mem_innerRun_messages (payload : Bytes) (msg : Message) :
    msg ∈ (innerCutter.run payload).messages ↔
      ∃ inners inner rest, Segmented SelfSized payload inners (inner ++ rest) ∧
        SelfSized inner ∧ msg = Message.ofFrame inner := by
  rw [Cutter.mem_run_messages innerCutter_recognises]
  constructor
  · intro holds
    rcases holds with ⟨inners, tail, split, emitted⟩
    cases verdict : innerCutter.cut tail with
    | wait =>
        rw [verdict] at emitted
        cases emitted
    | take count messages =>
        obtain ⟨sized, rfl⟩ := innerCutter_recognises.takes verdict
        rw [verdict] at emitted
        refine ⟨inners, tail.take count, tail.drop count, ?_, sized, List.mem_singleton.mp emitted⟩
        rw [List.take_append_drop]
        exact split
    | stop messages reason =>
        rw [innerCut_stop verdict] at verdict
        rw [verdict] at emitted
        cases emitted
  · intro holds
    rcases holds with ⟨inners, inner, rest, split, sized, rfl⟩
    refine ⟨inners, inner ++ rest, split, ?_⟩
    rw [innerCutter_recognises.taken sized rest]
    exact List.mem_singleton_self _

variable {lzo : LzoApi}

theorem mem_frameVerdict_messages (bounded : lzo.DecompressBounded) {frame : Bytes}
    (wire : WireFrame frame) (msg : Message) :
    msg ∈ (frameVerdict lzo frame).messages ↔
      (wordAt frame 4 ≠ netMsgCompress ∧ msg = Message.ofFrame frame) ∨
      (Envelope frame ∧ ∃ payload, envelopeContents lzo frame = some payload ∧
        msg ∈ (innerCutter.run payload).messages) := by
  by_cases type : wordAt frame 4 = netMsgCompress
  · by_cases room : envelopeHeaderSize ≤ frame.length
    · have envelope : Envelope frame := ⟨wire, type, room⟩
      have verdict : (frameVerdict lzo frame).messages =
          (envelopeContents lzo frame).elim [] fun payload =>
            (innerCutter.run payload).messages := by
        unfold frameVerdict
        rw [if_pos type, envelopePayload_eq bounded room]
        cases envelopeContents lzo frame with
        | none => rfl
        | some payload =>
            simp only [Option.elim_some]
            cases (innerCutter.run payload).stopped <;> rfl
      rw [verdict]
      cases contents : envelopeContents lzo frame with
      | none =>
          constructor
          · intro impossible
            cases impossible
          · intro either
            rcases either with ⟨plain, _same⟩ | ⟨_envelope, payload, impossible, _member⟩
            · exact absurd type plain
            · cases impossible
      | some payload =>
          constructor
          · intro member
            exact Or.inr ⟨envelope, payload, rfl, member⟩
          · intro either
            rcases either with ⟨plain, _same⟩ | ⟨_envelope, other, same, member⟩
            · exact absurd type plain
            · cases same
              exact member
    · have verdict : frameVerdict lzo frame = .stop [] .protocolError := by
        unfold frameVerdict envelopePayload
        rw [if_pos type, if_pos (Nat.lt_of_not_le room)]
      rw [verdict]
      constructor
      · intro impossible
        cases impossible
      · intro either
        rcases either with ⟨plain, _same⟩ | ⟨envelope, _contents⟩
        · exact absurd type plain
        · exact absurd envelope.room room
  · have verdict : frameVerdict lzo frame = .take frame.length [Message.ofFrame frame] := by
      unfold frameVerdict
      rw [if_neg type]
    rw [verdict]
    constructor
    · intro member
      exact Or.inl ⟨type, List.mem_singleton.mp member⟩
    · intro either
      rcases either with ⟨_plain, rfl⟩ | ⟨envelope, _contents⟩
      · exact List.mem_singleton_self _
      · exact absurd envelope.type type

theorem acceptable_iff_taken (bounded : lzo.DecompressBounded) (frame : Bytes) :
    Acceptable lzo frame ↔ TakenFrame lzo frame := by
  constructor
  · intro acceptable
    by_cases type : wordAt frame 4 = netMsgCompress
    · obtain ⟨room, payload, inners, tail, contents, packed⟩ := acceptable.opens type
      have envelope : Envelope frame := ⟨acceptable.toWireFrame, type, room⟩
      exact ⟨acceptable.toWireFrame, _, frameVerdict_packed bounded envelope contents packed⟩
    · exact (acceptable.toWireFrame.taken type).1
  · intro taken
    constructor
    · exact taken.toWireFrame
    · intro type
      obtain ⟨messages, verdict⟩ := taken.verdict
      by_cases room : envelopeHeaderSize ≤ frame.length
      · have envelope : Envelope frame := ⟨taken.toWireFrame, type, room⟩
        refine ⟨room, ?_⟩
        cases contents : envelopeContents lzo frame with
        | none =>
            rw [frameVerdict_empty bounded envelope contents] at verdict
            cases verdict
        | some payload =>
            by_contra malformed
            have unpacked : ¬∃ inners tail, Packed payload inners tail := by
              intro holds
              rcases holds with ⟨inners, tail, packed⟩
              exact malformed ⟨payload, inners, tail, rfl, packed⟩
            obtain ⟨inners, _longest, stopped⟩ :=
              frameVerdict_malformed bounded envelope contents unpacked
            rw [stopped] at verdict
            cases verdict
      · unfold frameVerdict envelopePayload at verdict
        rw [if_pos type, if_pos (Nat.lt_of_not_le room)] at verdict
        cases verdict

theorem mem_frameCut_messages (tail : Bytes) (msg : Message) :
    msg ∈ (frameCut lzo tail).messages ↔
      ∃ frame more, tail = frame ++ more ∧ WireFrame frame ∧
        msg ∈ (frameVerdict lzo frame).messages := by
  constructor
  · intro emitted
    unfold frameCut at emitted
    simp only at emitted
    split at emitted
    · cases emitted
    · split at emitted
      · cases emitted
      · split at emitted
        · cases emitted
        · rename_i wellSized complete
          refine ⟨tail.take (wordAt tail 0).toNat, tail.drop (wordAt tail 0).toNat,
            (List.take_append_drop _ tail).symm, ?_, emitted⟩
          constructor
          · exact selfSized_take (by omega) (by omega)
          · rw [List.length_take]
            omega
  · intro holds
    rcases holds with ⟨frame, more, rfl, wire, emitted⟩
    rw [frameCut_of_wireFrame lzo wire]
    exact emitted

/-- Every message is a plain frame of the stream or was unpacked from an envelope. -/
theorem mem_frameRun_messages (bounded : lzo.DecompressBounded) (stream : Bytes)
    (msg : Message) :
    msg ∈ ((frameCutter lzo).run stream).messages ↔
      (∃ frames frame more, Segmented (Acceptable lzo) stream frames (frame ++ more) ∧
        WireFrame frame ∧ wordAt frame 4 ≠ netMsgCompress ∧ msg = Message.ofFrame frame) ∨
      (∃ frame inner, Unpacks lzo stream frame inner ∧ msg = Message.ofFrame inner) := by
  rw [Cutter.mem_run_messages (frameCutter_recognises lzo)]
  constructor
  · intro holds
    rcases holds with ⟨frames, tail, split, emitted⟩
    obtain ⟨frame, more, rfl, wire, member⟩ := (mem_frameCut_messages tail msg).mp emitted
    have accepted : Segmented (Acceptable lzo) stream frames (frame ++ more) :=
      split.mono (fun segment _member taken => (acceptable_iff_taken bounded segment).mpr taken)
    rcases (mem_frameVerdict_messages bounded wire msg).mp member with
      ⟨plain, same⟩ | ⟨envelope, payload, contents, inside⟩
    · exact Or.inl ⟨frames, frame, more, accepted, wire, plain, same⟩
    · obtain ⟨inners, inner, rest, unpacked, sized, same⟩ :=
        (mem_innerRun_messages payload msg).mp inside
      exact Or.inr ⟨frame, inner,
        ⟨frames, more, payload, inners, rest, accepted, envelope, contents, unpacked, sized⟩, same⟩
  · have taken : ∀ {frames : List Bytes} {tail : Bytes},
        Segmented (Acceptable lzo) stream frames tail →
          Segmented (TakenFrame lzo) stream frames tail := by
      intro frames tail split
      exact split.mono
        (fun segment _member accepted => (acceptable_iff_taken bounded segment).mp accepted)
    intro either
    rcases either with ⟨frames, frame, more, split, wire, plain, same⟩ | ⟨frame, inner, unpacks, same⟩
    · refine ⟨frames, frame ++ more, taken split, (mem_frameCut_messages _ msg).mpr ?_⟩
      exact ⟨frame, more, rfl, wire,
        (mem_frameVerdict_messages bounded wire msg).mpr (Or.inl ⟨plain, same⟩)⟩
    · obtain ⟨frames, more, payload, inners, rest, split, envelope, contents, unpacked, sized⟩ :=
        unpacks
      have inside : msg ∈ (innerCutter.run payload).messages :=
        (mem_innerRun_messages payload msg).mpr ⟨inners, inner, rest, unpacked, sized, same⟩
      refine ⟨frames, frame ++ more, taken split, (mem_frameCut_messages _ msg).mpr ?_⟩
      exact ⟨frame, more, rfl, envelope.toWireFrame,
        (mem_frameVerdict_messages bounded envelope.toWireFrame msg).mpr
          (Or.inr ⟨envelope, payload, contents, inside⟩)⟩

/-! ### The messages of a sequence of calls -/

/-- A framer that is fed on after a refusal only finds the same messages again. -/
theorem feedEvery_messages (bounded : lzo.DecompressBounded) (chunks : List Bytes)
    (mBuf : Bytes) :
    ∃ results, feedEvery lzo mBuf chunks = .ok results ∧
      ∀ msg, (∃ result ∈ results, msg ∈ result.out) ↔
        chunks ≠ [] ∧ msg ∈ ((frameCutter lzo).run (mBuf ++ chunks.flatten)).messages := by
  induction chunks generalizing mBuf with
  | nil =>
      refine ⟨[], rfl, ?_⟩
      intro msg
      constructor
      · intro holds
        rcases holds with ⟨result, impossible, _member⟩
        cases impossible
      · intro holds
        rcases holds with ⟨impossible, _member⟩
        exact absurd rfl impossible
  | cons chunk chunks ih =>
      obtain ⟨first, fed⟩ := feed_total bounded mBuf chunk
      obtain ⟨later, others, emitted⟩ := ih first.buf
      refine ⟨first :: later, ?_, ?_⟩
      · simp only [feedEvery, fed, others, ok_bind, pure_eq_ok]
      · intro msg
        have split : (∃ result ∈ first :: later, msg ∈ result.out) ↔
            msg ∈ first.out ∨ ∃ result ∈ later, msg ∈ result.out := by
          simp only [List.mem_cons, exists_eq_or_imp]
        rw [split, emitted, List.flatten_cons, ← List.append_assoc]
        rw [feed_eq, feedOutcome] at fed
        cases stop : ((frameCutter lzo).run (mBuf ++ chunk)).stopped with
        | none =>
            rw [stop] at fed
            cases fed
            have waits := (frameCutter lzo).run_rest_waits (mBuf ++ chunk) stop
            rw [Cutter.run_append_running (frameCutter_stable lzo) stop, Parse.after_messages,
              List.mem_append]
            constructor
            · intro either
              rcases either with early | ⟨_more, late⟩
              · exact ⟨List.cons_ne_nil _ _, Or.inl early⟩
              · exact ⟨List.cons_ne_nil _ _, Or.inr late⟩
            · intro holds
              rcases holds with ⟨_some, early | late⟩
              · exact Or.inl early
              · refine Or.inr ⟨?_, late⟩
                rintro rfl
                rw [List.flatten_nil, List.append_nil, (frameCutter lzo).run_of_wait waits] at late
                cases late
        | some reason =>
            rw [stop] at fed
            cases reason with
            | fault fault => cases fed
            | protocolError =>
                cases fed
                rw [Cutter.run_append_stopped (frameCutter_stable lzo) stop]
                constructor
                · intro either
                  rcases either with early | ⟨_more, again⟩
                  · exact ⟨List.cons_ne_nil _ _, early⟩
                  · exact ⟨List.cons_ne_nil _ _, again⟩
                · intro holds
                  rcases holds with ⟨_some, member⟩
                  exact Or.inl member

/-- Every message agrees with its own header, and all of them keep the limit exactly
where no compressed envelope hides a longer frame. -/
theorem feedEvery_wireSized_iff (lzo : LzoApi) (bounded : lzo.DecompressBounded)
    (chunks : List Bytes) :
    (∃ results, feedEvery lzo [] chunks = .ok results ∧
      ∀ result ∈ results, ∀ msg ∈ result.out, msg.WireSized) ↔
    NoOversized lzo chunks.flatten := by
  obtain ⟨results, fed, emitted⟩ := feedEvery_messages bounded chunks []
  have produced : ∀ msg, (∃ result ∈ results, msg ∈ result.out) ↔
      msg ∈ ((frameCutter lzo).run chunks.flatten).messages := by
    intro msg
    rw [emitted, List.nil_append]
    constructor
    · exact And.right
    · intro member
      refine ⟨?_, member⟩
      rintro rfl
      rw [List.flatten_nil, (frameCutter lzo).run_of_wait rfl] at member
      cases member
  constructor
  · rintro ⟨others, same, sized⟩ frame inner _compressed unpacks
    rw [fed] at same
    cases same
    obtain ⟨result, present, member⟩ := (produced (Message.ofFrame inner)).mpr
      ((mem_frameRun_messages bounded _ _).mpr (Or.inr ⟨frame, inner, unpacks, rfl⟩))
    exact (sized result present _ member).limit
  · intro small
    refine ⟨results, fed, ?_⟩
    intro result present msg member
    have source := (produced msg).mp ⟨result, present, member⟩
    rcases (mem_frameRun_messages bounded _ msg).mp source with
      ⟨frames, frame, more, _split, wire, _plain, rfl⟩ | ⟨frame, inner, unpacks, rfl⟩
    · exact ⟨wire.framed, wire.limit⟩
    · have sized : SelfSized inner := by
        obtain ⟨_frames, _more, _payload, _inners, _rest, _split, _envelope, _contents,
          _unpacked, sized⟩ := unpacks
        exact sized
      refine ⟨sized.framed, ?_⟩
      by_cases compressed : frame.getD 8 0 = 1
      · exact small frame inner compressed unpacks
      · exact unpacks.raw_length_le compressed

theorem feedEvery_wireSized_split :
    (∃ results, feedEvery literalLzo.toLzoApi [] [[9, 0, 0, 0, 7], [0, 0, 0, 1]] = .ok results ∧
      ∀ result ∈ results, ∀ msg ∈ result.out, msg.WireSized) ↔
    NoOversized literalLzo.toLzoApi [9, 0, 0, 0, 7, 0, 0, 0, 1] :=
  feedEvery_wireSized_iff literalLzo.toLzoApi literalLzo.decompressBounded
    [[9, 0, 0, 0, 7], [0, 0, 0, 1]]

/-! ### A long message in a short envelope -/

/-- The LZO stream of one message of 5000 bytes: nine literal bytes, a match of 4991
bytes at distance one, the end marker. -/
def oversizedStream : Bytes :=
  [26] ++ writeLE32 5000 ++ writeLE32 500 ++ [0] ++ [32] ++ List.replicate 19 0 ++ [113, 0, 0] ++
    [17, 0, 0]

def oversizedMessage : Bytes := encodeMessage 500 (List.replicate 4992 0)

def oversizedLzo : LzoApi where
  ready := true
  compress := fun _input => none
  decompressSafe := fun carried capacity =>
    if carried = oversizedStream ∧ oversizedMessage.length ≤ capacity then some oversizedMessage
    else none

def oversizedFrame : Bytes :=
  writeLE32 48 ++ writeLE32 netMsgCompress ++ [1, 0, 0, 0] ++ oversizedStream

theorem oversizedLzo_bounded : oversizedLzo.DecompressBounded := by
  intro input output capacity decompressed
  simp only [oversizedLzo] at decompressed
  split at decompressed
  · rename_i accepted
    cases decompressed
    exact accepted.2
  · cases decompressed

theorem oversizedMessage_length : oversizedMessage.length = 5000 := by
  rw [oversizedMessage, encodeMessage_length, List.length_replicate, kHeaderSize]

theorem oversizedMessage_sized : SelfSized oversizedMessage := by
  have size := encodeMessage_size 500
    (show kHeaderSize + (List.replicate 4992 (0 : UInt8)).length < 2 ^ 32 by
      rw [List.length_replicate, kHeaderSize]
      omega) []
  rw [List.append_nil, ← encodeMessage_length 500] at size
  constructor
  · rw [oversizedMessage_length, kHeaderSize]
    omega
  · exact size

private theorem oversizedLzo_decompress {capacity : Nat}
    (room : oversizedMessage.length ≤ capacity) :
    oversizedLzo.decompressSafe oversizedStream capacity = some oversizedMessage := by
  simp only [oversizedLzo, true_and, if_pos room]

private theorem oversizedFrame_envelope : Envelope oversizedFrame := by
  constructor
  · exact ⟨⟨by decide, by decide⟩, by decide⟩
  · decide
  · decide

private theorem oversizedFrame_contents :
    envelopeContents oversizedLzo oversizedFrame = some oversizedMessage := by
  have carried : oversizedFrame.drop envelopeHeaderSize = oversizedStream := rfl
  have compressed : oversizedFrame.getD 8 0 = 1 := rfl
  have nonempty : oversizedStream ≠ [] := by decide
  have room : oversizedMessage.length ≤ decompBufSize := by
    have length := oversizedMessage_length
    unfold decompBufSize
    omega
  have decompressed := oversizedLzo_decompress room
  have longer : ¬oversizedMessage.length < oversizedStream.length := by
    rw [oversizedMessage_length]
    decide
  simp only [envelopeContents, carried, if_pos compressed, if_neg nonempty, decompressed,
    if_neg longer]

private theorem feed_oversizedFrame :
    feed oversizedLzo [] oversizedFrame =
      .ok { ok := true, out := [Message.ofFrame oversizedMessage], buf := [] } := by
  have packed : Packed oversizedMessage [oversizedMessage] [] :=
    { toSegmented := Segmented.singleton oversizedMessage_sized
      short := by decide }
  have verdict := frameVerdict_packed oversizedLzo_bounded oversizedFrame_envelope
    oversizedFrame_contents packed
  have taken : TakenFrame oversizedLzo oversizedFrame :=
    ⟨oversizedFrame_envelope.toWireFrame, _, verdict⟩
  have split : Segmented (TakenFrame oversizedLzo) ([] ++ oversizedFrame) [oversizedFrame] [] :=
    Segmented.singleton taken
  rw [feed_segmented_whole split]
  simp only [List.flatMap_cons, List.flatMap_nil, frameMessages, verdict, List.append_nil,
    List.map_cons, List.map_nil]

/-- An envelope of 48 bytes makes Feed emit a message beyond kMaxMessageSize. -/
theorem feed_emits_oversized :
    oversizedLzo.DecompressBounded ∧
      ∃ results, feedEvery oversizedLzo [] [oversizedFrame] = .ok results ∧
        ∃ result ∈ results, ∃ msg ∈ result.out, kMaxMessageSize < msg.bytes.length := by
  have fed : feedEvery oversizedLzo [] [oversizedFrame] =
      .ok [{ ok := true, out := [Message.ofFrame oversizedMessage], buf := [] }] := by
    rw [feedEvery, feed_oversizedFrame, ok_bind, feedEvery, pure_eq_ok, ok_bind, pure_eq_ok]
  refine ⟨oversizedLzo_bounded, _, fed, _, List.mem_singleton_self _, _,
    List.mem_singleton_self _, ?_⟩
  have length : (Message.ofFrame oversizedMessage).bytes.length = 5000 :=
    oversizedMessage_length
  rw [length, kMaxMessageSize]
  omega

end RanOnline.Net
