/-
MessageFramer::Feed (net/packet.cpp).

`feed` follows the source position by position over bounds-checked blocks.
`frameCutter` says what the wire grammar is: one frame at a time, an envelope of
type NET_MSG_COMPRESS replaced by the frames inside it.  The two agree on every
input, so everything about streams is proved on the cutter.
-/
import RanOnline.Lib.StreamCut
import RanOnline.Net.MinLzo
import RanOnline.Net.Packet

namespace RanOnline.Net

open Memory StreamCut

def envelopeHeaderSize : Nat := 12
def decompBufSize : Nat := 32768

/-! ### The parse loops -/

/-- The loop over the frames of an envelope.  The source writes it twice, over
the decompressed buffer and over the envelope itself, with the same tests. -/
def innerLoop (block : Block) : Nat → Nat → Nat → List Message → Checked (List Message × Bool)
  | 0, _, _, _ => .error .diverged
  | fuel + 1, pos, endPos, out => do
      let left ← usub endPos pos
      if left < kHeaderSize then pure (out, true)
      else
        let msgSize ← readLE32 block pos
        let msgType ← readLE32 block (pos + 4)
        if msgSize.toNat < kHeaderSize ∨ left < msgSize.toNat then pure (out, false)
        else
          let bytes ← block.readRange pos msgSize.toNat
          innerLoop block fuel (pos + msgSize.toNat) endPos
            (out ++ [{ type := msgType, clientId := 0, bytes := bytes }])

/-- The body of the outer loop for one complete frame. -/
def feedFrame (lzo : LzoApi) (block : Block) (pos dwSize : Nat) (nType : UInt32)
    (out : List Message) : Checked (List Message × Bool) :=
  if nType = netMsgCompress then
    if dwSize < envelopeHeaderSize then pure (out, false)
    else do
      let bCompress ← block.read (pos + 8)
      if bCompress = 1 then
        let length ← usub dwSize envelopeHeaderSize
        let source ← block.readRange (pos + envelopeHeaderSize) length
        let (res, output) := lzoDeCompress lzo source decompBufSize
        let decompBuf ← (Block.zeroed decompBufSize).write 0 output
        if res ≠ .success then pure (out, false)
        else innerLoop decompBuf (output.length + 1) 0 output.length out
      else innerLoop block (dwSize + 1) (pos + envelopeHeaderSize) (pos + dwSize) out
  else do
    let bytes ← block.readRange pos dwSize
    pure (out ++ [{ type := nType, clientId := 0, bytes := bytes }], true)

/-- The outer loop.  `none` in place of the position is `return false`. -/
def feedLoop (lzo : LzoApi) (block : Block) :
    Nat → Nat → List Message → Checked (List Message × Option Nat)
  | 0, _, _ => .error .diverged
  | fuel + 1, pos, out => do
      let left ← usub block.size pos
      if left < kHeaderSize then pure (out, some pos)
      else
        let dwSize ← readLE32 block pos
        let nType ← readLE32 block (pos + 4)
        if dwSize.toNat < kHeaderSize ∨ kMaxMessageSize < dwSize.toNat then pure (out, none)
        else if left < dwSize.toNat then pure (out, some pos)
        else
          let (emitted, accepted) ← feedFrame lzo block pos dwSize.toNat nType out
          if accepted then feedLoop lzo block fuel (pos + dwSize.toNat) emitted
          else pure (emitted, none)

/-- `out` holds the messages this call pushed, `buf` is m_buf afterwards: a call
that returns false has appended its data and erased nothing. -/
structure FeedResult where
  ok : Bool
  out : List Message
  buf : Bytes
  deriving DecidableEq, Repr

def feed (lzo : LzoApi) (mBuf data : Bytes) : Checked FeedResult := do
  let buf := mBuf ++ data
  let (out, consumed) ← feedLoop lzo (Block.ofBytes buf) (buf.length + 1) 0 []
  match consumed with
  | some pos => pure { ok := true, out := out, buf := buf.drop pos }
  | none => pure { ok := false, out := out, buf := buf }

/-! ### The wire grammar -/

/-- The head of an envelope's payload: a tail shorter than a header is left
alone, a frame that does not fit is malformed. -/
def innerCut (payload : Bytes) : Verdict Message Unit :=
  if payload.length < kHeaderSize then .wait
  else
    let msgSize := (wordAt payload 0).toNat
    if msgSize < kHeaderSize ∨ payload.length < msgSize then .stop [] ()
    else .take msgSize [Message.ofFrame (payload.take msgSize)]

def innerCutter : Cutter UInt8 Message Unit where
  cut := innerCut
  progress := by
    intro payload count messages taken
    unfold innerCut kHeaderSize at taken
    simp only at taken
    split at taken
    · cases taken
    · split at taken
      · cases taken
      · cases taken
        omega

theorem innerCut_take_iff {payload : Bytes} {count : Nat} {messages : List Message} :
    innerCut payload = .take count messages ↔
      count = (wordAt payload 0).toNat ∧ kHeaderSize ≤ count ∧ count ≤ payload.length ∧
        messages = [Message.ofFrame (payload.take count)] := by
  unfold innerCut
  constructor
  · intro taken
    simp only at taken
    split at taken
    · cases taken
    · split at taken
      · cases taken
      · cases taken
        exact ⟨rfl, by omega, by omega, rfl⟩
  · intro holds
    rcases holds with ⟨rfl, header, complete, rfl⟩
    rw [if_neg (by omega)]
    simp only
    rw [if_neg (by omega)]

theorem innerCut_stop {payload : Bytes} {messages : List Message} {reason : Unit}
    (stopped : innerCut payload = .stop messages reason) : messages = [] := by
  unfold innerCut at stopped
  simp only at stopped
  split at stopped
  · cases stopped
  · split at stopped
    · cases stopped
      rfl
    · cases stopped

inductive FeedStop
  | protocolError
  | fault (fault : Fault)
  deriving DecidableEq, Repr

/-- What stands between the twelve header bytes of an envelope and its end,
after decompression where the envelope says so. -/
def envelopePayload (lzo : LzoApi) (frame : Bytes) : Except FeedStop Bytes :=
  if frame.length < envelopeHeaderSize then .error .protocolError
  else if frame.getD 8 0 = 1 then
    let decompressed := lzoDeCompress lzo (frame.drop envelopeHeaderSize) decompBufSize
    if decompBufSize < decompressed.2.length then .error (.fault .outOfBounds)
    else if decompressed.1 = .success then .ok decompressed.2
    else .error .protocolError
  else .ok (frame.drop envelopeHeaderSize)

def frameVerdict (lzo : LzoApi) (frame : Bytes) : Verdict Message FeedStop :=
  if wordAt frame 4 = netMsgCompress then
    match envelopePayload lzo frame with
    | .error reason => .stop [] reason
    | .ok payload =>
        match (innerCutter.run payload).stopped with
        | none => .take frame.length (innerCutter.run payload).messages
        | some _ => .stop (innerCutter.run payload).messages .protocolError
  else .take frame.length [Message.ofFrame frame]

def frameCut (lzo : LzoApi) (stream : Bytes) : Verdict Message FeedStop :=
  if stream.length < kHeaderSize then .wait
  else
    let dwSize := (wordAt stream 0).toNat
    if dwSize < kHeaderSize ∨ kMaxMessageSize < dwSize then .stop [] .protocolError
    else if stream.length < dwSize then .wait
    else frameVerdict lzo (stream.take dwSize)

theorem frameVerdict_take {lzo : LzoApi} {frame : Bytes} {count : Nat} {messages : List Message}
    (taken : frameVerdict lzo frame = .take count messages) : count = frame.length := by
  unfold frameVerdict at taken
  split at taken
  · split at taken
    · cases taken
    · split at taken
      · cases taken
        rfl
      · cases taken
  · cases taken
    rfl

def frameCutter (lzo : LzoApi) : Cutter UInt8 Message FeedStop where
  cut := frameCut lzo
  progress := by
    intro stream count messages taken
    unfold frameCut kHeaderSize at taken
    simp only at taken
    split at taken
    · cases taken
    · split at taken
      · cases taken
      · split at taken
        · cases taken
        · have size := frameVerdict_take taken
          rw [List.length_take] at size
          omega

theorem frameVerdict_ne_wait (lzo : LzoApi) (frame : Bytes) :
    frameVerdict lzo frame ≠ .wait := by
  unfold frameVerdict
  split
  · split
    · intro impossible
      cases impossible
    · split <;>
      · intro impossible
        cases impossible
  · intro impossible
    cases impossible

/-- A verdict other than waiting needs only the bytes of the frame it is about. -/
theorem frameCutter_stable (lzo : LzoApi) : (frameCutter lzo).Stable := by
  intro stream more decided
  change frameCut lzo stream ≠ .wait at decided
  change frameCut lzo (stream ++ more) = frameCut lzo stream
  unfold frameCut at decided ⊢
  by_cases short : stream.length < kHeaderSize
  · simp only [if_pos short] at decided
    exact absurd rfl decided
  · have header : 4 + 4 ≤ stream.length := by
      unfold kHeaderSize at short
      omega
    have longer : ¬(stream ++ more).length < kHeaderSize := by
      rw [List.length_append]
      omega
    simp only [if_neg short, if_neg longer] at decided ⊢
    rw [wordAt_append_left (by omega)]
    by_cases malformed : (wordAt stream 0).toNat < kHeaderSize ∨
        kMaxMessageSize < (wordAt stream 0).toNat
    · simp only [if_pos malformed]
    · simp only [if_neg malformed] at decided ⊢
      by_cases incomplete : stream.length < (wordAt stream 0).toNat
      · simp only [if_pos incomplete] at decided
        exact absurd rfl decided
      · have complete : ¬(stream ++ more).length < (wordAt stream 0).toNat := by
          rw [List.length_append]
          omega
        simp only [if_neg incomplete, if_neg complete]
        rw [List.take_append_of_le_length (by omega)]

/-- A frame that is taken is as long as its header says, and within the limits. -/
theorem frameCut_take_iff {lzo : LzoApi} {stream : Bytes} {count : Nat}
    {messages : List Message} :
    frameCut lzo stream = .take count messages ↔
      count = (wordAt stream 0).toNat ∧ kHeaderSize ≤ count ∧ count ≤ kMaxMessageSize ∧
        count ≤ stream.length ∧ frameVerdict lzo (stream.take count) = .take count messages := by
  unfold frameCut
  constructor
  · intro taken
    simp only at taken
    split at taken
    · cases taken
    · split at taken
      · cases taken
      · split at taken
        · cases taken
        · rename_i wellSized complete
          have size := frameVerdict_take taken
          rw [List.length_take, Nat.min_eq_left (Nat.le_of_not_lt complete)] at size
          subst size
          exact ⟨rfl, by omega, by omega, by omega, taken⟩
  · rintro ⟨rfl, header, limit, complete, verdict⟩
    rw [if_neg (by omega)]
    simp only
    rw [if_neg (by omega), if_neg (by omega)]
    exact verdict

/-- A frame is taken as soon as its last byte is there. -/
theorem frameCutter_prompt (lzo : LzoApi) : (frameCutter lzo).Prompt := by
  intro stream more count messages taken reaches
  obtain ⟨size, header, limit, _complete, verdict⟩ := frameCut_take_iff.mp taken
  apply frameCut_take_iff.mpr
  have early : wordAt (stream ++ more) 0 = wordAt stream 0 := by
    apply wordAt_append_left
    unfold kHeaderSize at header
    omega
  rw [early] at size
  rw [List.take_append_of_le_length reaches] at verdict
  exact ⟨size, header, limit, reaches, verdict⟩

/-! ### The loops compute the grammar -/

theorem innerLoop_eq (block : Block) (fuel pos : Nat) (payload : Bytes) (out : List Message)
    (shown : block.Shows pos payload) (enough : payload.length < fuel) :
    innerLoop block fuel pos (pos + payload.length) out =
      .ok (out ++ (innerCutter.run payload).messages,
        (innerCutter.run payload).stopped.isNone) := by
  induction fuel generalizing pos payload out with
  | zero => cases enough
  | succ fuel ih =>
      simp only [innerLoop, usub_add_left, ok_bind]
      by_cases short : payload.length < kHeaderSize
      · have verdict : innerCutter.cut payload = .wait := if_pos short
        rw [if_pos short, innerCutter.run_of_wait verdict, List.append_nil]
        rfl
      · have header : 8 ≤ payload.length := Nat.le_of_not_lt short
        have sizeRead := readLE32_of_shows shown (show 0 + 4 ≤ payload.length by omega)
        rw [Nat.add_zero] at sizeRead
        rw [if_neg short, sizeRead, readLE32_of_shows shown (by omega), ok_bind,
          ok_bind]
        by_cases malformed : (wordAt payload 0).toNat < kHeaderSize ∨
            payload.length < (wordAt payload 0).toNat
        · have verdict : innerCutter.cut payload = .stop [] () := by
            change innerCut payload = _
            simp only [innerCut, if_neg short, if_pos malformed]
          rw [if_pos malformed, innerCutter.run_of_stop verdict, List.append_nil]
          rfl
        · have fits : (wordAt payload 0).toNat ≤ payload.length := by omega
          have verdict : innerCutter.cut payload = .take (wordAt payload 0).toNat
              [Message.ofFrame (payload.take (wordAt payload 0).toNat)] := by
            change innerCut payload = _
            simp only [innerCut, if_neg short, if_neg malformed]
          rw [if_neg malformed, shown.readRange fits, ok_bind]
          have progress := innerCutter.progress verdict
          have remaining : pos + payload.length = pos + (wordAt payload 0).toNat +
              (payload.drop (wordAt payload 0).toNat).length := by
            rw [List.length_drop]
            omega
          rw [remaining, ih _ _ _ (shown.drop fits) (by rw [List.length_drop]; omega),
            innerCutter.run_of_take verdict, StreamCut.Parse.after_messages,
            StreamCut.Parse.after_stopped, List.append_assoc]
          have typeOf : (Message.ofFrame (payload.take (wordAt payload 0).toNat)) =
              { type := wordAt payload 4, clientId := 0,
                bytes := payload.take (wordAt payload 0).toNat } := by
            have enoughHeader : 4 + 4 ≤ (payload.take (wordAt payload 0).toNat).length := by
              rw [List.length_take]
              unfold kHeaderSize at malformed
              omega
            rw [Message.ofFrame, ← wordAt_append_left enoughHeader, List.take_append_drop]
          rw [typeOf]

/-- How the parse loops report the verdict on one frame. -/
def frameOutcome (out : List Message) : Verdict Message FeedStop → Checked (List Message × Bool)
  | .wait => .ok (out, false)
  | .take _count messages => .ok (out ++ messages, true)
  | .stop messages .protocolError => .ok (out ++ messages, false)
  | .stop _messages (.fault fault) => .error fault

private theorem decompBuf_write_large {output : Bytes} (large : decompBufSize < output.length) :
    (Block.zeroed decompBufSize).write 0 output = .error .outOfBounds := by
  have outside : ¬0 + output.length ≤ (Block.zeroed decompBufSize).size := by
    rw [Nat.zero_add, Nat.not_le]
    exact large
  simp only [Block.write, if_neg outside]

private theorem feedFrame_compressed (lzo : LzoApi) (block : Block) (pos : Nat) (frame : Bytes)
    (out : List Message) (shown : block.Shows pos frame)
    (envelope : envelopeHeaderSize ≤ frame.length) (compressed : frame.getD 8 0 = 1)
    (type : wordAt frame 4 = netMsgCompress) :
    feedFrame lzo block pos frame.length netMsgCompress out =
      frameOutcome out (frameVerdict lzo frame) := by
  have minimum : 12 ≤ frame.length := envelope
  have source := (shown.drop envelope).readRange
    (show frame.length - envelopeHeaderSize ≤ (frame.drop envelopeHeaderSize).length by
      rw [List.length_drop])
  rw [← List.length_drop, List.take_length] at source
  simp only [feedFrame, if_true, if_neg (Nat.not_lt.mpr envelope),
    shown.read (show 8 < frame.length by omega), ok_bind, compressed, usub_of_le envelope,
    ← List.length_drop, source]
  simp only [frameVerdict, if_pos type, envelopePayload, if_neg (Nat.not_lt.mpr envelope),
    compressed, if_true]
  cases decoded : lzoDeCompress lzo (frame.drop envelopeHeaderSize) decompBufSize with
  | mk res output =>
      simp only
      by_cases large : decompBufSize < output.length
      · rw [decompBuf_write_large large, if_pos large]
        rfl
      · have fits : 0 + output.length ≤ (Block.zeroed decompBufSize).size := by
          rw [Nat.zero_add]
          exact Nat.le_of_not_lt large
        rw [Block.write_ok _ _ _ fits, ok_bind, if_neg large]
        by_cases success : res = .success
        · have loop := innerLoop_eq _ (output.length + 1) 0 output out
            (Block.shows_splice (Block.zeroed decompBufSize) 0 output fits) (by omega)
          rw [Nat.zero_add] at loop
          rw [if_neg (not_not.mpr success), if_pos success, loop]
          simp only
          cases (innerCutter.run output).stopped <;> rfl
        · rw [if_pos success, if_neg success]
          simp only [frameOutcome, List.append_nil, pure_eq_ok]

private theorem feedFrame_plainEnvelope (lzo : LzoApi) (block : Block) (pos : Nat) (frame : Bytes)
    (out : List Message) (shown : block.Shows pos frame)
    (envelope : envelopeHeaderSize ≤ frame.length) (plain : ¬frame.getD 8 0 = 1)
    (type : wordAt frame 4 = netMsgCompress) :
    feedFrame lzo block pos frame.length netMsgCompress out =
      frameOutcome out (frameVerdict lzo frame) := by
  have minimum : 12 ≤ frame.length := envelope
  have remaining : pos + frame.length =
      pos + envelopeHeaderSize + (frame.drop envelopeHeaderSize).length := by
    rw [List.length_drop]
    omega
  have loop := innerLoop_eq block (frame.length + 1) (pos + envelopeHeaderSize)
    (frame.drop envelopeHeaderSize) out (shown.drop envelope)
    (by rw [List.length_drop]; omega)
  simp only [feedFrame, if_true, if_neg (Nat.not_lt.mpr envelope),
    shown.read (show 8 < frame.length by omega), ok_bind, if_neg plain]
  rw [remaining, loop]
  simp only [frameVerdict, if_pos type, envelopePayload, if_neg (Nat.not_lt.mpr envelope),
    if_neg plain]
  cases (innerCutter.run (frame.drop envelopeHeaderSize)).stopped <;> rfl

theorem feedFrame_eq (lzo : LzoApi) (block : Block) (pos : Nat) (frame : Bytes)
    (out : List Message) (shown : block.Shows pos frame) :
    feedFrame lzo block pos frame.length (wordAt frame 4) out =
      frameOutcome out (frameVerdict lzo frame) := by
  by_cases type : wordAt frame 4 = netMsgCompress
  · rw [type]
    by_cases short : frame.length < envelopeHeaderSize
    · simp only [feedFrame, if_true, if_pos short, frameVerdict, if_pos type, envelopePayload,
        frameOutcome, List.append_nil, pure_eq_ok]
    · by_cases compressed : frame.getD 8 0 = 1
      · exact feedFrame_compressed lzo block pos frame out shown (Nat.le_of_not_lt short)
          compressed type
      · exact feedFrame_plainEnvelope lzo block pos frame out shown (Nat.le_of_not_lt short)
          compressed type
  · have whole := shown.readRange (Nat.le_refl frame.length)
    rw [List.take_length] at whole
    simp only [feedFrame, if_neg type, whole, ok_bind, frameVerdict, frameOutcome, pure_eq_ok,
      Message.ofFrame]

/-- How the outer loop reports a parse of a stream that ends at `size`. -/
def loopOutcome (size : Nat) (out : List Message) (parse : Parse UInt8 Message FeedStop) :
    Checked (List Message × Option Nat) :=
  match parse.stopped with
  | none => .ok (out ++ parse.messages, some (size - parse.rest.length))
  | some .protocolError => .ok (out ++ parse.messages, none)
  | some (.fault fault) => .error fault

private theorem loopOutcome_after (size : Nat) (out messages : List Message)
    (parse : Parse UInt8 Message FeedStop) :
    loopOutcome size out (parse.after messages) = loopOutcome size (out ++ messages) parse := by
  simp only [loopOutcome, Parse.after_stopped, Parse.after_messages, Parse.after_rest,
    List.append_assoc]

private theorem feedLoop_frame (lzo : LzoApi) (block : Block) (fuel pos : Nat) (stream : Bytes)
    (out : List Message) (shown : block.Shows pos stream)
    (ends : block.size = pos + stream.length) (enough : stream.length < fuel + 1)
    (ih : ∀ (pos : Nat) (stream : Bytes) (out : List Message), block.Shows pos stream →
      block.size = pos + stream.length → stream.length < fuel →
      feedLoop lzo block fuel pos out =
        loopOutcome block.size out ((frameCutter lzo).run stream))
    (short : ¬stream.length < kHeaderSize)
    (malformed : ¬((wordAt stream 0).toNat < kHeaderSize ∨
      kMaxMessageSize < (wordAt stream 0).toNat))
    (incomplete : ¬stream.length < (wordAt stream 0).toNat) :
    (if stream.length < (wordAt stream 0).toNat then pure (out, some pos)
      else do
        let (emitted, accepted) ←
          feedFrame lzo block pos (wordAt stream 0).toNat (wordAt stream 4) out
        if accepted then feedLoop lzo block fuel (pos + (wordAt stream 0).toNat) emitted
        else pure (emitted, none)) =
      loopOutcome (pos + stream.length) out ((frameCutter lzo).run stream) := by
  have size : (stream.take (wordAt stream 0).toNat).length = (wordAt stream 0).toNat := by
    rw [List.length_take]
    omega
  have typeWord : wordAt stream 4 = wordAt (stream.take (wordAt stream 0).toNat) 4 := by
    have enoughHeader : 4 + 4 ≤ (stream.take (wordAt stream 0).toNat).length := by
      rw [size]
      unfold kHeaderSize at malformed
      omega
    rw [← wordAt_append_left enoughHeader, List.take_append_drop]
  have verdict : (frameCutter lzo).cut stream =
      frameVerdict lzo (stream.take (wordAt stream 0).toNat) := by
    change frameCut lzo stream = _
    simp only [frameCut, if_neg short, if_neg malformed, if_neg incomplete]
  have frame := feedFrame_eq lzo block pos (stream.take (wordAt stream 0).toNat) out
    (shown.take _)
  rw [size, ← typeWord] at frame
  rw [if_neg incomplete, frame]
  cases decided : frameVerdict lzo (stream.take (wordAt stream 0).toNat) with
  | wait => exact absurd decided (frameVerdict_ne_wait lzo _)
  | stop messages reason =>
      rw [decided] at verdict
      rw [Cutter.run_of_stop _ verdict]
      cases reason <;> rfl
  | take count messages =>
      have counted := frameVerdict_take decided
      rw [size] at counted
      subst counted
      rw [decided] at verdict
      rw [Cutter.run_of_take _ verdict, loopOutcome_after]
      have bounds := (frameCutter lzo).progress verdict
      have advanced := ih (pos + (wordAt stream 0).toNat) (stream.drop (wordAt stream 0).toNat)
        (out ++ messages) (shown.drop bounds.2)
        (by rw [List.length_drop]; omega) (by rw [List.length_drop]; omega)
      rw [ends] at advanced
      exact advanced

theorem feedLoop_eq (lzo : LzoApi) (block : Block) (fuel pos : Nat) (stream : Bytes)
    (out : List Message) (shown : block.Shows pos stream)
    (ends : block.size = pos + stream.length) (enough : stream.length < fuel) :
    feedLoop lzo block fuel pos out =
      loopOutcome block.size out ((frameCutter lzo).run stream) := by
  induction fuel generalizing pos stream out with
  | zero => cases enough
  | succ fuel ih =>
      simp only [feedLoop]
      rw [ends, usub_add_left, ok_bind]
      by_cases short : stream.length < kHeaderSize
      · have verdict : (frameCutter lzo).cut stream = .wait := if_pos short
        rw [if_pos short, Cutter.run_of_wait _ verdict]
        simp only [loopOutcome, List.append_nil, pure_eq_ok]
        congr 3
        omega
      · have header : 8 ≤ stream.length := Nat.le_of_not_lt short
        have sizeRead := readLE32_of_shows shown (show 0 + 4 ≤ stream.length by omega)
        rw [Nat.add_zero] at sizeRead
        rw [if_neg short, sizeRead, readLE32_of_shows shown (by omega), ok_bind, ok_bind]
        by_cases malformed : (wordAt stream 0).toNat < kHeaderSize ∨
            kMaxMessageSize < (wordAt stream 0).toNat
        · have verdict : (frameCutter lzo).cut stream = .stop [] .protocolError := by
            change frameCut lzo stream = _
            simp only [frameCut, if_neg short, if_pos malformed]
          rw [if_pos malformed, Cutter.run_of_stop _ verdict]
          simp only [loopOutcome, List.append_nil, pure_eq_ok]
        · rw [if_neg malformed]
          by_cases incomplete : stream.length < (wordAt stream 0).toNat
          · have verdict : (frameCutter lzo).cut stream = .wait := by
              change frameCut lzo stream = _
              simp only [frameCut, if_neg short, if_neg malformed, if_pos incomplete]
            rw [if_pos incomplete, Cutter.run_of_wait _ verdict]
            simp only [loopOutcome, List.append_nil, pure_eq_ok]
            congr 3
            omega
          · exact feedLoop_frame lzo block fuel pos stream out shown ends enough ih short
              malformed incomplete

/-- What `feed` reports for the parse of m_buf with the new data behind it. -/
def feedOutcome (stream : Bytes) (parse : Parse UInt8 Message FeedStop) : Checked FeedResult :=
  match parse.stopped with
  | none => .ok { ok := true, out := parse.messages, buf := parse.rest }
  | some .protocolError => .ok { ok := false, out := parse.messages, buf := stream }
  | some (.fault fault) => .error fault

theorem feed_eq (lzo : LzoApi) (mBuf data : Bytes) :
    feed lzo mBuf data =
      feedOutcome (mBuf ++ data) ((frameCutter lzo).run (mBuf ++ data)) := by
  have loop := feedLoop_eq lzo (Block.ofBytes (mBuf ++ data)) ((mBuf ++ data).length + 1) 0
    (mBuf ++ data) [] (Block.shows_ofBytes _) (by simp [Block.ofBytes]) (by omega)
  simp only [feed, loop, loopOutcome, feedOutcome]
  cases ((frameCutter lzo).run (mBuf ++ data)).stopped with
  | none =>
      simp only [ok_bind, pure_eq_ok, List.nil_append, Block.ofBytes,
        (frameCutter lzo).run_rest_eq_drop]
  | some reason => cases reason <;> rfl

/-! ### Over a library that keeps its contract -/

theorem frameVerdict_no_fault {lzo : LzoApi} (bounded : lzo.DecompressBounded) (frame : Bytes)
    (messages : List Message) (fault : Fault) :
    frameVerdict lzo frame ≠ .stop messages (.fault fault) := by
  have fits := lzoDeCompress_length_le bounded (frame.drop envelopeHeaderSize) decompBufSize
  have noFault : ∀ fault, envelopePayload lzo frame ≠ .error (.fault fault) := by
    intro fault faulted
    unfold envelopePayload at faulted
    simp only [if_neg (Nat.not_lt.mpr fits)] at faulted
    split at faulted
    · cases faulted
    · split at faulted
      · split at faulted <;> cases faulted
      · cases faulted
  unfold frameVerdict
  intro stopped
  split at stopped
  · split at stopped
    · rename_i reason failed
      cases stopped
      exact noFault fault failed
    · split at stopped <;> cases stopped
  · cases stopped

theorem frameCutter_no_fault {lzo : LzoApi} (bounded : lzo.DecompressBounded) (stream : Bytes)
    (fault : Fault) : ((frameCutter lzo).run stream).stopped ≠ some (.fault fault) := by
  induction stream using (frameCutter lzo).run_induction with
  | wait stream verdict =>
      rw [Cutter.run_of_wait _ verdict]
      intro impossible
      cases impossible
  | stop stream messages reason verdict =>
      rw [Cutter.run_of_stop _ verdict]
      intro faulted
      cases faulted
      change frameCut lzo stream = _ at verdict
      unfold frameCut at verdict
      simp only at verdict
      split at verdict
      · cases verdict
      · split at verdict
        · cases verdict
        · split at verdict
          · cases verdict
          · exact frameVerdict_no_fault bounded _ _ _ verdict
  | take stream count messages verdict ih =>
      rw [Cutter.run_of_take _ verdict, Parse.after_stopped]
      exact ih

theorem feed_total {lzo : LzoApi} (bounded : lzo.DecompressBounded) (mBuf data : Bytes) :
    ∃ result, feed lzo mBuf data = .ok result := by
  rw [feed_eq, feedOutcome]
  cases stop : ((frameCutter lzo).run (mBuf ++ data)).stopped with
  | none => exact ⟨_, rfl⟩
  | some reason =>
      cases reason with
      | protocolError => exact ⟨_, rfl⟩
      | fault fault => exact absurd stop (frameCutter_no_fault bounded _ fault)

private theorem feed_known (lzo : Lzo) (mBuf data : Bytes) :
    ∃ result, feed lzo.toLzoApi mBuf data = .ok result ∧ True := by
  obtain ⟨result, fed⟩ := feed_total lzo.decompressBounded mBuf data
  exact ⟨result, fed, trivial⟩

/-- `feed` where the library keeps its contract and no fault can occur. -/
def framerFeed (lzo : Lzo) (mBuf data : Bytes) : FeedResult :=
  (extract (feed lzo.toLzoApi mBuf data) (feed_known lzo mBuf data)).val

theorem framerFeed_eq (lzo : Lzo) (mBuf data : Bytes) :
    feed lzo.toLzoApi mBuf data = .ok (framerFeed lzo mBuf data) :=
  ok_extract (feed_known lzo mBuf data)

theorem framerFeed_running (lzo : Lzo) {mBuf data : Bytes}
    (running : ((frameCutter lzo.toLzoApi).run (mBuf ++ data)).stopped = none) :
    framerFeed lzo mBuf data =
      { ok := true
        out := ((frameCutter lzo.toLzoApi).run (mBuf ++ data)).messages
        buf := ((frameCutter lzo.toLzoApi).run (mBuf ++ data)).rest } := by
  have fed := framerFeed_eq lzo mBuf data
  rw [feed_eq, feedOutcome, running] at fed
  exact (Except.ok.inj fed).symm

theorem framerFeed_stopped (lzo : Lzo) {mBuf data : Bytes} {reason : FeedStop}
    (stopped : ((frameCutter lzo.toLzoApi).run (mBuf ++ data)).stopped = some reason) :
    (framerFeed lzo mBuf data).ok = false := by
  have fed := framerFeed_eq lzo mBuf data
  rw [feed_eq, feedOutcome, stopped] at fed
  cases reason with
  | protocolError => rw [← Except.ok.inj fed]
  | fault fault => cases fed

theorem framerFeed_ok {lzo : Lzo} {stream : Bytes} (accepted : (framerFeed lzo [] stream).ok = true) :
    ((frameCutter lzo.toLzoApi).run stream).stopped = none := by
  change ((frameCutter lzo.toLzoApi).run ([] ++ stream)).stopped = none
  cases stopped : ((frameCutter lzo.toLzoApi).run ([] ++ stream)).stopped with
  | none => rfl
  | some reason =>
      rw [framerFeed_stopped lzo stopped] at accepted
      cases accepted

/-! ### What the framer emits -/

/-- A message that can reach a handler: it agrees with its own header and is no
longer than the decompression buffer. -/
structure Message.Admitted (msg : Message) : Prop where
  framed : msg.Framed
  bounded : msg.bytes.length ≤ decompBufSize

theorem ofFrame_take_framed {bytes : Bytes} (header : kHeaderSize ≤ (wordAt bytes 0).toNat)
    (fits : (wordAt bytes 0).toNat ≤ bytes.length) :
    (Message.ofFrame (bytes.take (wordAt bytes 0).toNat)).Framed := by
  have length : (bytes.take (wordAt bytes 0).toNat).length = (wordAt bytes 0).toNat := by
    rw [List.length_take, Nat.min_eq_left fits]
  have header8 : 8 ≤ (wordAt bytes 0).toNat := header
  have sameSize : wordAt (bytes.take (wordAt bytes 0).toNat) 0 = wordAt bytes 0 := by
    have shorter := wordAt_append_left
      (show 0 + 4 ≤ (bytes.take (wordAt bytes 0).toNat).length by omega)
      (bytes.drop (wordAt bytes 0).toNat)
    rw [List.take_append_drop] at shorter
    exact shorter.symm
  constructor
  · change kHeaderSize ≤ (bytes.take _).length
    rw [length]
    exact header
  · change (wordAt (bytes.take _) 0).toNat = (bytes.take _).length
    rw [length, sameSize]
  · rfl

theorem innerRun_admitted (payload : Bytes) (small : payload.length ≤ decompBufSize) :
    ∀ msg ∈ (innerCutter.run payload).messages, msg.Admitted := by
  induction payload using innerCutter.run_induction with
  | wait payload verdict =>
      rw [innerCutter.run_of_wait verdict]
      intro msg impossible
      cases impossible
  | stop payload messages reason verdict =>
      rw [innerCutter.run_of_stop verdict, innerCut_stop verdict]
      intro msg impossible
      cases impossible
  | take payload count messages verdict ih =>
      obtain ⟨rfl, header, complete, rfl⟩ := innerCut_take_iff.mp verdict
      rw [innerCutter.run_of_take verdict, Parse.after_messages]
      intro msg member
      rcases List.mem_append.mp member with first | later
      · rw [List.mem_singleton.mp first]
        refine { framed := ofFrame_take_framed header complete, bounded := ?_ }
        exact Nat.le_trans (List.length_take_le _ _) complete |>.trans small
      · refine ih ?_ msg later
        rw [List.length_drop]
        omega

theorem frameVerdict_admitted (lzo : Lzo) {frame : Bytes} (framed : (Message.ofFrame frame).Framed)
    (small : frame.length ≤ decompBufSize) {count : Nat} {messages : List Message}
    (taken : frameVerdict lzo.toLzoApi frame = .take count messages) :
    ∀ msg ∈ messages, msg.Admitted := by
  unfold frameVerdict at taken
  split at taken
  · split at taken
    · cases taken
    · rename_i payload opened
      have payloadSmall : payload.length ≤ decompBufSize := by
        have fits := lzoDeCompress_length_le lzo.decompressBounded (frame.drop envelopeHeaderSize) decompBufSize
        unfold envelopePayload at opened
        simp only [if_neg (Nat.not_lt.mpr fits)] at opened
        split at opened
        · cases opened
        · split at opened
          · split at opened
            · cases opened
              exact fits
            · cases opened
          · cases opened
            rw [List.length_drop]
            omega
      split at taken
      · cases taken
        exact innerRun_admitted payload payloadSmall
      · cases taken
  · cases taken
    intro msg member
    rw [List.mem_singleton.mp member]
    exact { framed := framed, bounded := small }

/-- Every message that the framer emits for a stream it accepts is admitted. -/
theorem frameRun_admitted (lzo : Lzo) (stream : Bytes)
    (accepted : ((frameCutter lzo.toLzoApi).run stream).stopped = none) :
    ∀ msg ∈ ((frameCutter lzo.toLzoApi).run stream).messages, msg.Admitted := by
  induction stream using (frameCutter lzo.toLzoApi).run_induction with
  | wait stream verdict =>
      rw [Cutter.run_of_wait _ verdict]
      intro msg impossible
      cases impossible
  | stop stream messages reason verdict =>
      rw [Cutter.run_of_stop _ verdict] at accepted
      cases accepted
  | take stream count messages verdict ih =>
      rw [Cutter.run_of_take _ verdict, Parse.after_stopped] at accepted
      rw [Cutter.run_of_take _ verdict, Parse.after_messages]
      intro msg member
      rcases List.mem_append.mp member with first | later
      · obtain ⟨rfl, header, limit, complete, taken⟩ := frameCut_take_iff.mp verdict
        refine frameVerdict_admitted lzo (ofFrame_take_framed header complete) ?_ taken msg first
        unfold kMaxMessageSize at limit
        unfold decompBufSize
        rw [List.length_take]
        omega
      · exact ih accepted msg later

end RanOnline.Net
