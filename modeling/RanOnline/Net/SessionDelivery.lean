/-
From Session::Send to the peer's MessageFramer.

A session turns the frames it is given into batches, one envelope a batch, and
keeps a last batch waiting.  The framer on the other side opens the envelopes and
finds the frames, whichever of the two encodings each of them uses.
-/
import RanOnline.Net.FramerChunks
import RanOnline.Net.FramerGrammar
import RanOnline.Net.Session

namespace RanOnline.Net

open Memory StreamCut StepRun SendMsgBuffer

/-! ### Opening an envelope -/

/-- A frame whose header states its own length. -/
def Framed (frame : Bytes) : Prop := (Message.ofFrame frame).Framed

theorem framed_encodeMessage (type : UInt32) {payload : Bytes}
    (small : kHeaderSize + payload.length < 2 ^ 32) : Framed (encodeMessage type payload) :=
  (encodeMessage_selfSized type small).framed

theorem Framed.ne_nil {frame : Bytes} (framed : Framed frame) : frame ≠ [] := by
  intro empty
  have header : 8 ≤ frame.length := framed.header
  rw [empty, List.length_nil] at header
  omega

theorem eq_nil_of_flatten {frames : List Bytes} (framed : ∀ frame ∈ frames, Framed frame)
    (empty : frames.flatten = []) : frames = [] := by
  cases frames with
  | nil => rfl
  | cons frame frames =>
      rw [List.flatten_cons, List.append_eq_nil_iff] at empty
      exact absurd empty.1 (framed frame List.mem_cons_self).ne_nil

theorem Framed.segmented {frames : List Bytes} (framed : ∀ frame ∈ frames, Framed frame) :
    Segmented SelfSized frames.flatten frames [] := by
  constructor
  · exact (List.append_nil _).symm
  · intro frame member
    constructor
    · exact (framed frame member).header
    · exact (framed frame member).size

theorem innerRun_frames (frames : List Bytes) (framed : ∀ frame ∈ frames, Framed frame) :
    innerCutter.run frames.flatten =
      { messages := frames.map Message.ofFrame
        stopped := none
        rest := [] } := by
  have ended : innerCutter.cut [] = .wait := rfl
  rw [innerRun_segmented (Framed.segmented framed), innerCutter.run_of_wait ended]
  simp only [Parse.after, List.append_nil]

/-- The framer on a stream that starts with an envelope of the right size. -/
private theorem frameCut_envelope (lzo : LzoApi) {bCompress : UInt8} {body : Bytes}
    {frames : List Bytes} (more : Bytes) (small : body.length ≤ 2048)
    (framed : ∀ frame ∈ frames, Framed frame)
    (opened : envelopePayload lzo (netCompress (netCompressSize + body.length) bCompress ++ body) =
      .ok frames.flatten) :
    (frameCutter lzo).cut (netCompress (netCompressSize + body.length) bCompress ++ body ++ more) =
      .take (netCompress (netCompressSize + body.length) bCompress ++ body).length
        (frames.map Message.ofFrame) := by
  have bound : netCompressSize + body.length < 2 ^ 32 := by
    unfold netCompressSize
    omega
  have length : (netCompress (netCompressSize + body.length) bCompress ++ body).length =
      12 + body.length := by
    rw [List.length_append, netCompress_length]
    rfl
  have words := netCompress_wordAt bound bCompress body
  generalize envelopeIs : netCompress (netCompressSize + body.length) bCompress ++ body =
    envelope at *
  have wire : WireFrame envelope := by
    constructor
    · constructor
      · rw [length]
        unfold kHeaderSize
        omega
      · rw [words.1, length]
        rfl
    · rw [length]
      unfold kMaxMessageSize
      omega
  change frameCut lzo (envelope ++ more) = _
  rw [frameCut_of_wireFrame lzo wire, frameVerdict, if_pos words.2, opened]
  simp only [innerRun_frames frames framed]

private theorem netCompress_body (dwSize : Nat) (bCompress : UInt8) (body : Bytes) :
    (netCompress dwSize bCompress ++ body).getD 8 0 = bCompress ∧
      (netCompress dwSize bCompress ++ body).drop envelopeHeaderSize = body :=
  ⟨rfl, rfl⟩

/-- Either encoding of a batch opens to the batch. -/
theorem frameRun_envelope (lzo : Lzo) (roundTrip : lzo.RoundTrip) {frames : List Bytes}
    (framed : ∀ frame ∈ frames, Framed frame) (nonempty : frames.flatten ≠ [])
    (small : frames.flatten.length ≤ netDataBufsize) (more : Bytes) :
    (frameCutter lzo.toLzoApi).run (envelope lzo.toLzoApi frames.flatten ++ more) =
      ((frameCutter lzo.toLzoApi).run more).after (frames.map Message.ofFrame) := by
  have bound : frames.flatten.length ≤ 2048 := small
  obtain ⟨_code, output, _compressed, _fits, outcome⟩ := lzoCompress_cases lzo.ready_eq lzo.compressFits nonempty bound
  have envelopeSize : ∀ (dwSize : Nat) (bCompress : UInt8) (body : Bytes),
      ¬(netCompress dwSize bCompress ++ body).length < envelopeHeaderSize := by
    intro dwSize bCompress body
    rw [List.length_append, netCompress_length, Nat.not_lt]
    exact Nat.le_add_right _ _
  rcases outcome with ⟨_success, found, shorter⟩ | ⟨_failure, longer⟩
  · have outputNonempty := roundTrip.compress_ne_nil nonempty found
    have inverse := roundTrip.decompress_compress nonempty found
      (show frames.flatten.length ≤ decompBufSize by unfold decompBufSize; omega)
    have positive : ¬output.length = 0 := by
      intro empty
      exact outputNonempty (List.eq_nil_of_length_eq_zero empty)
    have opened : envelopePayload lzo.toLzoApi
        (netCompress (netCompressSize + output.length) 1 ++ output) = .ok frames.flatten := by
      have body := netCompress_body (netCompressSize + output.length) 1 output
      rw [envelopePayload, if_neg (envelopeSize _ _ _), if_pos body.1, body.2]
      simp only [lzoDeCompress, if_neg positive, inverse, if_pos (Nat.le_of_lt shorter)]
      rw [if_neg (by unfold decompBufSize; omega), if_pos trivial]
    have verdict := frameCut_envelope lzo.toLzoApi more (show output.length ≤ 2048 by omega)
      framed opened
    rw [envelope_compressed found shorter, Cutter.run_of_take _ verdict, List.drop_left]
  · have opened : envelopePayload lzo.toLzoApi
        (netCompress (netCompressSize + frames.flatten.length) 0 ++ frames.flatten) =
          .ok frames.flatten := by
      have body := netCompress_body (netCompressSize + frames.flatten.length) 0 frames.flatten
      rw [envelopePayload, if_neg (envelopeSize _ _ _), body.1, body.2]
      rfl
    have verdict := frameCut_envelope lzo.toLzoApi more bound framed opened
    rw [envelope_plain longer, Cutter.run_of_take _ verdict, List.drop_left]

/-! ### Batches -/

/-- The frames a session has been given, as it keeps them: in the packets of its
write queue, batch by batch, and waiting in its send buffer. -/
structure Batched (lzo : LzoApi) (s : Session) (frames : List Bytes)
    (batches : List (List Bytes)) (waiting : List Bytes) : Prop where
  split : frames = batches.flatten ++ waiting
  enqueued : s.enqueuedBytes = batches.map fun batch => envelope lzo batch.flatten
  pending : s.out.pending = waiting.flatten
  sized : ∀ batch ∈ batches, batch.flatten ≠ [] ∧ batch.flatten.length ≤ netDataBufsize

structure Carries (lzo : LzoApi) (s : Session) (frames : List Bytes) : Prop where
  framed : ∀ frame ∈ frames, Framed frame
  batched : ∃ batches waiting, Batched lzo s frames batches waiting

theorem carries_start (lzo : LzoApi) (clientId : UInt32) (remote : Option Bytes) :
    Carries lzo (Session.start clientId remote) [] :=
  { framed := by
      intro frame impossible
      cases impossible
    batched := ⟨[], [],
      { split := rfl
        enqueued := rfl
        pending := rfl
        sized := by
          intro batch impossible
          cases impossible }⟩ }

/-- Only the packets and the pending bytes matter. -/
theorem Carries.congr {lzo : LzoApi} {s other : Session} {frames : List Bytes}
    (carries : Carries lzo s frames) (enqueued : other.enqueuedBytes = s.enqueuedBytes)
    (pending : other.out.pending = s.out.pending) : Carries lzo other frames := by
  obtain ⟨batches, waiting, batched⟩ := carries.batched
  exact
    { framed := carries.framed
      batched := ⟨batches, waiting,
        { batched with
          enqueued := enqueued.trans batched.enqueued
          pending := pending.trans batched.pending }⟩ }

/-- Once the waiting frames have left as a batch of their own. -/
private theorem Batched.seal {lzo : LzoApi} {s : Session} {frames waiting : List Bytes}
    {batches : List (List Bytes)} (batched : Batched lzo s frames batches waiting)
    {other : Session} (more : List Bytes) (nonempty : s.out.pending ≠ [])
    (enqueued : other.enqueuedBytes = s.enqueuedBytes ++
      (drainOutcome lzo s.out.pending).toList)
    (pending : other.out.pending = more.flatten) :
    Batched lzo other (frames ++ more) (batches ++ [waiting]) more := by
  have waitingNonempty : waiting.flatten ≠ [] := by
    rwa [← batched.pending]
  constructor
  · rw [batched.split, List.flatten_append, List.flatten_singleton]
  · rw [enqueued, batched.enqueued, drainOutcome, if_neg nonempty, batched.pending,
      List.map_append]
    rfl
  · exact pending
  · intro batch member
    rcases List.mem_append.mp member with earlier | last
    · exact batched.sized batch earlier
    · rw [List.mem_singleton.mp last]
      refine ⟨waitingNonempty, ?_⟩
      rw [← batched.pending]
      exact s.out.pending_length_le

theorem Carries.flush {lzo : Lzo} {s : Session} {frames : List Bytes}
    (carries : Carries lzo.toLzoApi s frames) : Carries lzo.toLzoApi (s.flush lzo) frames := by
  obtain ⟨batches, waiting, batched⟩ := carries.batched
  have enqueued := s.drain_enqueued lzo
  by_cases empty : s.out.pending = []
  · rw [drainOutcome, if_pos empty] at enqueued
    apply carries.congr (enqueued.trans (List.append_nil _))
    rw [empty]
    exact s.drain_pending lzo
  · have drained := batched.seal [] empty enqueued (s.drain_pending lzo)
    rw [List.append_nil] at drained
    exact
      { framed := carries.framed
        batched := ⟨_, _, drained⟩ }

theorem Carries.send {lzo : Lzo} {s : Session} {frames : List Bytes}
    (carries : Carries lzo.toLzoApi s frames) {frame : Bytes} (framed : Framed frame)
    (small : frame.length ≤ netDataBufsize) :
    (s.send lzo frame).2 = false ∧
      Carries lzo.toLzoApi (s.send lzo frame).1 (frames ++ [frame]) := by
  obtain ⟨batches, waiting, batched⟩ := carries.batched
  obtain ⟨accepted, outcome⟩ := s.send_of_small lzo small
  have allFramed : ∀ other ∈ frames ++ [frame], Framed other := by
    intro other member
    rcases List.mem_append.mp member with earlier | last
    · exact carries.framed other earlier
    · rw [List.mem_singleton.mp last]
      exact framed
  refine ⟨accepted, { framed := allFramed, batched := ?_ }⟩
  rcases outcome with ⟨_short, pending, enqueued⟩ | ⟨empty, _full, pending, enqueued⟩ |
    ⟨waits, pending, enqueued⟩
  · refine ⟨batches, waiting ++ [frame], { batched with split := ?_, enqueued := ?_, pending := ?_ }⟩
    · rw [batched.split, List.append_assoc]
    · rw [enqueued, batched.enqueued]
    · rw [pending, batched.pending, List.flatten_append, List.flatten_singleton]
  · -- nothing was waiting: the frame is a batch of its own
    have noWaiting : waiting = [] := by
      apply eq_nil_of_flatten
      · intro other member
        apply carries.framed
        rw [batched.split]
        exact List.mem_append_right _ member
      · rw [← batched.pending, empty]
    refine ⟨batches ++ [[frame]], [], ?_⟩
    constructor
    · rw [batched.split, noWaiting, List.append_nil, List.append_nil, List.flatten_append]
      rfl
    · rw [enqueued, batched.enqueued, drainOutcome, if_neg framed.ne_nil, List.map_append,
        List.map_singleton, List.flatten_singleton]
      rfl
    · exact pending
    · intro batch member
      rcases List.mem_append.mp member with earlier | last
      · exact batched.sized batch earlier
      · rw [List.mem_singleton.mp last, List.flatten_singleton]
        exact ⟨framed.ne_nil, small⟩
  · refine ⟨batches ++ [waiting], [frame], batched.seal [frame] waits enqueued ?_⟩
    rw [pending, List.flatten_singleton]

theorem frameRun_batches (lzo : Lzo) (roundTrip : lzo.RoundTrip) (batches : List (List Bytes))
    (framed : ∀ frame ∈ batches.flatten, Framed frame)
    (sized : ∀ batch ∈ batches, batch.flatten ≠ [] ∧ batch.flatten.length ≤ netDataBufsize) :
    (frameCutter lzo.toLzoApi).run
        (batches.map fun batch => envelope lzo.toLzoApi batch.flatten).flatten =
      { messages := batches.flatten.map Message.ofFrame
        stopped := none
        rest := [] } := by
  induction batches with
  | nil => exact Cutter.run_of_wait _ rfl
  | cons batch batches ih =>
      obtain ⟨nonempty, small⟩ := sized batch List.mem_cons_self
      rw [List.map_cons, List.flatten_cons, frameRun_envelope lzo roundTrip
          (fun frame member => framed frame (List.mem_append_left _ member)) nonempty small,
        ih (fun frame member => framed frame (List.mem_append_right _ member))
          (fun other member => sized other (List.mem_cons_of_mem _ member)),
        List.flatten_cons, List.map_append]
      rfl

/-- The packets decode to the frames that are no longer waiting, the pending bytes
to the others. -/
theorem Carries.decode {lzo : Lzo} {s : Session} {frames : List Bytes}
    (carries : Carries lzo.toLzoApi s frames) (roundTrip : lzo.RoundTrip) :
    ∃ delivered, (frameCutter lzo.toLzoApi).run s.enqueuedBytes.flatten =
        { messages := delivered
          stopped := none
          rest := [] } ∧
      delivered ++ (innerCutter.run s.out.pending).messages = frames.map Message.ofFrame ∧
      (innerCutter.run s.out.pending).rest = [] := by
  obtain ⟨batches, waiting, batched⟩ := carries.batched
  have framed := carries.framed
  rw [batched.split] at framed
  have pending := innerRun_frames waiting
    (fun frame member => framed frame (List.mem_append_right _ member))
  refine ⟨batches.flatten.map Message.ofFrame, ?_, ?_, ?_⟩
  · rw [batched.enqueued]
    exact frameRun_batches lzo roundTrip batches
      (fun frame member => framed frame (List.mem_append_left _ member)) batched.sized
  · rw [batched.pending, pending, batched.split, List.map_append]
  · rw [batched.pending, pending]

/-! ### Runs of Send and Flush -/

/-- The calls of the sending thread, and steps of the write side between them. -/
inductive SendOp
  | send (type : UInt32)
      (payload : { payload : Bytes // kHeaderSize + payload.length ≤ netDataBufsize })
  | flush
  | write (event : Writer.Event)

def SendOp.frame : SendOp → Option Bytes
  | .send type payload => some (encodeMessage type payload.val)
  | .flush => none
  | .write _ => none

/-- Packets reach the write side through Send and Flush only. -/
def SendOp.step (lzo : Lzo) (s : Session) : SendOp → Session
  | .send type payload => (s.send lzo (encodeMessage type payload.val)).1
  | .flush => s.flush lzo
  | .write (.enqueue _) => s
  | .write event => { s with writer := s.writer.step event }

theorem SendOp.step_carries {lzo : Lzo} {s : Session} {frames : List Bytes}
    (carries : Carries lzo.toLzoApi s frames) (op : SendOp) :
    Carries lzo.toLzoApi (op.step lzo s) (frames ++ op.frame.toList) := by
  cases op with
  | send type payload =>
      have size : kHeaderSize + payload.val.length ≤ netDataBufsize := payload.property
      apply (carries.send (framed_encodeMessage type ?_) ?_).2
      · exact Nat.lt_of_le_of_lt size (by decide)
      · rw [encodeMessage_length]
        exact size
  | flush =>
      rw [frame, Option.toList_none, List.append_nil]
      exact carries.flush
  | write event =>
      rw [frame, Option.toList_none, List.append_nil]
      by_cases enqueue : ∃ bytes, event = .enqueue bytes
      · obtain ⟨bytes, same⟩ := enqueue
        subst same
        exact carries
      · have other : ∀ bytes, event ≠ .enqueue bytes := not_exists.mp enqueue
        have stepped : (SendOp.write event).step lzo s =
            { s with writer := s.writer.step event } := by
          cases event with
          | enqueue bytes => exact absurd rfl (other bytes)
          | _ => rfl
        rw [stepped]
        exact carries.congr (congrArg (List.map Packet.bytes)
          (s.writer.enqueued_of_not_enqueue other)) rfl

theorem SendOp.run_carries (lzo : Lzo) (clientId : UInt32) (remote : Option Bytes)
    (ops : List SendOp) :
    Carries lzo.toLzoApi (run (SendOp.step lzo) (.start clientId remote) ops)
      (ops.filterMap SendOp.frame) := by
  induction ops using List.reverseRecOn with
  | nil => exact carries_start lzo.toLzoApi clientId remote
  | append_singleton ops op ih =>
      rw [run_snoc, List.filterMap_append]
      have stepped := SendOp.step_carries ih op
      cases frame : op.frame with
      | none =>
          rw [frame] at stepped
          simp only [List.filterMap_cons, List.filterMap_nil, frame]
          exact stepped
      | some bytes =>
          rw [frame] at stepped
          simp only [List.filterMap_cons, List.filterMap_nil, frame]
          exact stepped

/-- At every point of every run of Send and Flush, the packets enqueued so far,
fed to a fresh framer in any pieces, and then the bytes still pending hold exactly
the frames sent so far; after a Flush nothing is pending. -/
theorem send_receive (lzo : Lzo) (roundTrip : lzo.RoundTrip) (clientId : UInt32)
    (remote : Option Bytes) (ops : List SendOp) :
    (∀ chunks : List Bytes,
      chunks.flatten =
          (run (SendOp.step lzo) (.start clientId remote) ops).enqueuedBytes.flatten →
        ∃ delivered, feedChunks lzo.toLzoApi [] chunks =
            .ok { ok := true, out := delivered, buf := [] } ∧
          delivered ++ (innerCutter.run
              (run (SendOp.step lzo) (.start clientId remote) ops).out.pending).messages =
            (ops.filterMap SendOp.frame).map Message.ofFrame ∧
          (innerCutter.run
            (run (SendOp.step lzo) (.start clientId remote) ops).out.pending).rest = []) ∧
      ((run (SendOp.step lzo) (.start clientId remote) ops).flush lzo).out.pending = [] := by
  constructor
  · intro chunks cut
    obtain ⟨delivered, parsed, split, whole⟩ :=
      (SendOp.run_carries lzo clientId remote ops).decode roundTrip
    rw [← cut] at parsed
    exact ⟨delivered, feedChunks_of_run lzo.toLzoApi parsed, split, whole⟩
  · exact Session.drain_pending lzo _

/-- A short frame that waits until the Flush, then a bare NET_MSG_COMPRESS frame. -/
theorem send_receive_literal :
    ∃ delivered, feedChunks literalLzo.toLzoApi []
        [(run (SendOp.step literalLzo) (.start 1 none)
          [.send 101 ⟨[1, 2, 3], by decide⟩, .flush,
            .send 170 ⟨[], by decide⟩]).enqueuedBytes.flatten] =
        .ok { ok := true, out := delivered, buf := [] } ∧
      delivered ++ (innerCutter.run (run (SendOp.step literalLzo) (.start 1 none)
          [.send 101 ⟨[1, 2, 3], by decide⟩, .flush,
            .send 170 ⟨[], by decide⟩]).out.pending).messages =
        [Message.ofFrame (encodeMessage 101 [1, 2, 3]), Message.ofFrame (encodeMessage 170 [])] := by
  obtain ⟨delivered, fed, split, _whole⟩ :=
    (send_receive literalLzo literalLzo_roundTrip 1 none
      [.send 101 ⟨[1, 2, 3], by decide⟩, .flush, .send 170 ⟨[], by decide⟩]).1 _
      List.flatten_singleton
  exact ⟨delivered, fed, split⟩

end RanOnline.Net
