/-
Session (net/session.h, net/session.cpp).

The read side hands on one message per event, since each of them enters the
receive queue in a section of its own.  The send buffer is used by one thread
only; Send and Flush reach the write side through one section of enqueueWrite.
-/
import RanOnline.Net.Framer
import RanOnline.Net.SendMsgBuffer
import RanOnline.Net.WriteQueue

namespace RanOnline.Net

open Memory StreamCut

/-- `delivering` holds the messages of a finished read that m_onMsg has not seen
yet, `reading` that async_read_some is outstanding, `remote` what the socket
answers for its remote endpoint.  `received` and `sent` record the bytes that were
fed to the framer and the frames that were passed to Send. -/
structure Session where
  clientId : UInt32
  mBuf : Bytes
  delivering : List Message
  reading : Bool
  out : OutBuffer
  writer : Writer
  remote : Option Bytes
  received : Bytes
  sent : List Bytes

namespace Session

def start (clientId : UInt32) (remote : Option Bytes) : Session :=
  { clientId := clientId
    mBuf := []
    delivering := []
    reading := true
    out := .new
    writer := .new
    remote := remote
    received := []
    sent := [] }

/-- The place of a connection that has not been accepted. -/
def absent : Session := { start 0 none with reading := false }

/-- The bytes that enqueueWrite was given, in order. -/
def enqueuedBytes (s : Session) : List Bytes := s.writer.enqueued.map Packet.bytes

/-- The completion handler of async_read_some, up to its first message. -/
def read (lzo : Lzo) (s : Session) (chunk : Bytes) : Session :=
  if s.reading then
    let result := framerFeed lzo s.mBuf chunk
    if result.ok then
      { s with
        mBuf := result.buf
        delivering := result.out.map fun msg => { msg with clientId := s.clientId }
        reading := result.out.isEmpty
        received := s.received ++ chunk }
    else
      { s with
        mBuf := result.buf
        reading := false
        writer := s.writer.closeTest
        received := s.received ++ chunk }
  else s

def readError (s : Session) : Session :=
  if s.reading then { s with reading := false, writer := s.writer.closeTest } else s

/-- One call of m_onMsg; after the last one the next read begins. -/
def deliver (s : Session) : Option (Message × Session) :=
  match s.delivering with
  | [] => none
  | msg :: rest => some (msg, { s with delivering := rest, reading := rest.isEmpty })

def drain (lzo : Lzo) (s : Session) : Session :=
  let taken := s.out.takePacket lzo
  match taken.2 with
  | some packet => { s with out := taken.1, writer := s.writer.enqueueWrite packet }
  | none => { s with out := taken.1 }

def flush (lzo : Lzo) (s : Session) : Session := s.drain lzo

/-- The result says whether Send goes on to call Close. -/
def send (lzo : Lzo) (s : Session) (framed : Bytes) : Session × Bool :=
  let s := { s with sent := s.sent ++ [framed] }
  let added := s.out.addMsg framed
  match added.2 with
  | .bufferError => ({ s with out := added.1 }, true)
  | .bufferAdded => ({ s with out := added.1 }, false)
  | .bufferSend => ({ s with out := added.1 }.drain lzo, false)
  | .bufferSendAdd =>
      let drained := { s with out := added.1 }.drain lzo
      ({ drained with out := (drained.out.addMsg framed).1 }, false)

/-- The address text, or the one that stands in for an unknown endpoint. -/
def remoteIp (s : Session) : Bytes := s.remote.getD "127.0.0.1".toUTF8.toList

/-- A step that leaves alone what the sending thread works on. -/
structure Quiet (before after : Session) : Prop where
  clientId : after.clientId = before.clientId
  out : after.out = before.out
  enqueued : after.writer.enqueued = before.writer.enqueued
  sent : after.sent = before.sent

theorem Quiet.refl (s : Session) : s.Quiet s :=
  { clientId := rfl
    out := rfl
    enqueued := rfl
    sent := rfl }

theorem quiet_writer (s : Session) {writer : Writer}
    (enqueued : writer.enqueued = s.writer.enqueued) : s.Quiet { s with writer := writer } :=
  { clientId := rfl
    out := rfl
    enqueued := enqueued
    sent := rfl }

theorem closeTest_enqueued (w : Writer) : w.closeTest.enqueued = w.enqueued := by
  unfold Writer.closeTest
  split <;> rfl

theorem read_quiet (lzo : Lzo) (s : Session) (chunk : Bytes) : s.Quiet (s.read lzo chunk) := by
  simp only [read]
  split
  · split
    · exact { clientId := rfl, out := rfl, enqueued := rfl, sent := rfl }
    · exact { clientId := rfl, out := rfl, enqueued := closeTest_enqueued _, sent := rfl }
  · exact .refl s

theorem readError_quiet (s : Session) : s.Quiet s.readError := by
  simp only [readError]
  split
  · exact { clientId := rfl, out := rfl, enqueued := closeTest_enqueued _, sent := rfl }
  · exact .refl s

theorem deliver_quiet {s later : Session} {msg : Message}
    (delivered : s.deliver = some (msg, later)) : s.Quiet later := by
  unfold deliver at delivered
  split at delivered
  · cases delivered
  · cases delivered
    exact { clientId := rfl, out := rfl, enqueued := rfl, sent := rfl }

/-- The messages that a read hands on carry the client id of their session. -/
theorem read_delivering (lzo : Lzo) (s : Session) (chunk : Bytes) {msg : Message}
    (member : msg ∈ (s.read lzo chunk).delivering) :
    msg ∈ s.delivering ∨ (msg.clientId = s.clientId ∧ msg.Admitted) := by
  simp only [read] at member
  split at member
  · split at member
    · rename_i accepted
      right
      obtain ⟨emitted, present, same⟩ := List.mem_map.mp member
      subst same
      cases running : ((frameCutter lzo.toLzoApi).run (s.mBuf ++ chunk)).stopped with
      | none =>
          rw [framerFeed_running lzo running] at present
          have admitted := frameRun_admitted lzo _ running emitted present
          exact ⟨rfl, { framed := { admitted.framed with }, bounded := admitted.bounded }⟩
      | some reason =>
          rw [framerFeed_stopped lzo running] at accepted
          cases accepted
    · exact Or.inl member
  · exact Or.inl member

theorem deliver_delivering {s later : Session} {msg : Message}
    (delivered : s.deliver = some (msg, later)) : s.delivering = msg :: later.delivering := by
  unfold deliver at delivered
  split at delivered
  · cases delivered
  · rename_i queue
    cases delivered
    exact queue

/-! ### What Send and Flush do to the pending bytes and to the queue -/

theorem drain_enqueued (lzo : Lzo) (s : Session) :
    (s.drain lzo).enqueuedBytes = s.enqueuedBytes ++
      (SendMsgBuffer.drainOutcome lzo.toLzoApi s.out.pending).toList := by
  simp only [drain, OutBuffer.takePacket_packet]
  cases SendMsgBuffer.drainOutcome lzo.toLzoApi s.out.pending with
  | none => exact (List.append_nil _).symm
  | some packet =>
      change (s.writer.enqueued ++ [_]).map Packet.bytes = _
      rw [List.map_append]
      rfl

@[simp] theorem drain_pending (lzo : Lzo) (s : Session) : (s.drain lzo).out.pending = [] := by
  simp only [drain]
  split <;> exact OutBuffer.takePacket_pending lzo s.out

@[simp] theorem drain_sent (lzo : Lzo) (s : Session) : (s.drain lzo).sent = s.sent := by
  simp only [drain]
  split <;> rfl

@[simp] theorem send_sent (lzo : Lzo) (s : Session) (framed : Bytes) :
    (s.send lzo framed).1.sent = s.sent ++ [framed] := by
  simp only [send]
  split
  · rfl
  · rfl
  · exact drain_sent lzo _
  · exact drain_sent lzo _

@[simp] theorem drain_clientId (lzo : Lzo) (s : Session) :
    (s.drain lzo).clientId = s.clientId := by
  simp only [drain]
  split <;> rfl

@[simp] theorem send_clientId (lzo : Lzo) (s : Session) (framed : Bytes) :
    (s.send lzo framed).1.clientId = s.clientId := by
  simp only [send]
  split
  · rfl
  · rfl
  · exact drain_clientId lzo _
  · exact drain_clientId lzo _

theorem addMsg_of_small (out : OutBuffer) {framed : Bytes} (small : framed.length ≤ netDataBufsize) :
    ((out.addMsg framed).1.pending, (out.addMsg framed).2) =
      if out.pending.length + framed.length < compressPacketSize then
        (out.pending ++ framed, .bufferAdded)
      else if out.pending = [] then (framed, .bufferSend)
      else (out.pending, .bufferSendAdd) := by
  have bound : framed.length ≤ 2048 := small
  have whole : framed.take (OutBuffer.dwSizeOf framed) = framed := by
    rw [OutBuffer.dwSizeOf, Nat.mod_eq_of_lt (by omega), List.take_length]
  rw [OutBuffer.addMsg_pending, whole, SendMsgBuffer.addOutcome, if_neg (Nat.not_lt.mpr small)]
  simp only [List.length_eq_zero_iff]

/-- Send with a frame that the buffer accepts: it joins the pending bytes, or it
travels alone, or the pending bytes leave and it waits in their place. -/
theorem send_of_small (lzo : Lzo) (s : Session) {framed : Bytes}
    (small : framed.length ≤ netDataBufsize) :
    (s.send lzo framed).2 = false ∧
      ((s.out.pending.length + framed.length < compressPacketSize ∧
          (s.send lzo framed).1.out.pending = s.out.pending ++ framed ∧
          (s.send lzo framed).1.enqueuedBytes = s.enqueuedBytes) ∨
        (s.out.pending = [] ∧ compressPacketSize ≤ framed.length ∧
          (s.send lzo framed).1.out.pending = [] ∧
          (s.send lzo framed).1.enqueuedBytes = s.enqueuedBytes ++
            (SendMsgBuffer.drainOutcome lzo.toLzoApi framed).toList) ∨
        (s.out.pending ≠ [] ∧ (s.send lzo framed).1.out.pending = framed ∧
          (s.send lzo framed).1.enqueuedBytes = s.enqueuedBytes ++
            (SendMsgBuffer.drainOutcome lzo.toLzoApi s.out.pending).toList)) := by
  have added := addMsg_of_small s.out small
  simp only [send]
  by_cases batched : s.out.pending.length + framed.length < compressPacketSize
  · rw [if_pos batched] at added
    obtain ⟨pending, code⟩ := Prod.mk.inj added
    rw [code]
    exact ⟨rfl, Or.inl ⟨batched, pending, rfl⟩⟩
  · rw [if_neg batched] at added
    by_cases empty : s.out.pending = []
    · rw [if_pos empty] at added
      obtain ⟨pending, code⟩ := Prod.mk.inj added
      rw [code]
      have full : compressPacketSize ≤ framed.length := by
        rw [empty, List.length_nil, Nat.zero_add] at batched
        exact Nat.not_lt.mp batched
      refine ⟨rfl, Or.inr (Or.inl ⟨empty, full, drain_pending lzo _, ?_⟩)⟩
      have enqueued := drain_enqueued lzo
        { s with sent := s.sent ++ [framed], out := (s.out.addMsg framed).1 }
      rw [pending] at enqueued
      exact enqueued
    · rw [if_neg empty] at added
      obtain ⟨pending, code⟩ := Prod.mk.inj added
      rw [code]
      refine ⟨rfl, Or.inr (Or.inr ⟨empty, ?_, ?_⟩)⟩
      · -- the result of this addMsg is not looked at: the frame waits either way
        have again := addMsg_of_small ({ s with
          sent := s.sent ++ [framed], out := (s.out.addMsg framed).1 }.drain lzo).out small
        rw [drain_pending] at again
        have first := congrArg Prod.fst again
        simp only at first
        rw [first]
        split
        · exact List.nil_append framed
        · simp only [if_true]
      · have enqueued := drain_enqueued lzo
          { s with sent := s.sent ++ [framed], out := (s.out.addMsg framed).1 }
        rw [pending] at enqueued
        exact enqueued

/-- Send with a frame that the buffer refuses. -/
theorem send_of_large (lzo : Lzo) (s : Session) {framed : Bytes}
    (large : netDataBufsize < framed.length) (fits : framed.length < 2 ^ 32) :
    (s.send lzo framed).2 = true ∧ (s.send lzo framed).1.out.pending = s.out.pending ∧
      (s.send lzo framed).1.writer = s.writer := by
  have added := s.out.addMsg_pending framed
  rw [OutBuffer.dwSizeOf, Nat.mod_eq_of_lt fits, List.take_length, SendMsgBuffer.addOutcome,
    if_pos large] at added
  obtain ⟨pending, code⟩ := Prod.mk.inj added
  simp only [send]
  rw [code]
  exact ⟨rfl, pending, rfl⟩

/-! ### What waits between two flushes -/

/-- Nothing waits exactly as long as only frames of the packet size were sent. -/
def PendingShort (s : Session) : Prop :=
  s.out.pending = [] ↔ ∀ framed ∈ s.sent, compressPacketSize ≤ framed.length

theorem PendingShort.iff {s : Session} (holds : s.PendingShort) :
    s.out.pending = [] ↔ ∀ framed ∈ s.sent, compressPacketSize ≤ framed.length := holds

theorem pendingShort_start (clientId : UInt32) (remote : Option Bytes) :
    (start clientId remote).PendingShort := by
  constructor
  · intro _empty framed impossible
    cases impossible
  · intro _long
    exact OutBuffer.pending_new

theorem PendingShort.quiet {before after : Session} (holds : before.PendingShort)
    (quiet : before.Quiet after) : after.PendingShort := by
  rw [PendingShort, quiet.out, quiet.sent]
  exact holds

theorem PendingShort.send {s : Session} (holds : s.PendingShort) (lzo : Lzo) {framed : Bytes}
    (nonempty : framed ≠ []) (fits : framed.length < 2 ^ 32) :
    (s.send lzo framed).1.PendingShort := by
  have positive := List.length_pos_iff.mpr nonempty
  have longer : (∀ other ∈ s.sent ++ [framed], compressPacketSize ≤ other.length) ↔
      s.out.pending = [] ∧ compressPacketSize ≤ framed.length := by
    rw [holds.iff]
    constructor
    · intro long
      exact ⟨fun other member => long other (List.mem_append_left _ member),
        long framed (List.mem_append_right _ List.mem_cons_self)⟩
    · rintro ⟨earlier, last⟩ other member
      rcases List.mem_append.mp member with before | here
      · exact earlier other before
      · rwa [List.mem_singleton.mp here]
  rw [PendingShort, send_sent, longer]
  by_cases small : framed.length ≤ netDataBufsize
  · rcases (s.send_of_small lzo small).2 with ⟨short, pending, _⟩ | ⟨empty, full, pending, _⟩ |
      ⟨waits, pending, _⟩
    · rw [pending]
      constructor
      · intro empty
        exact absurd (List.append_eq_nil_iff.mp empty).2 nonempty
      · intro given
        rcases given with ⟨_empty, full⟩
        omega
    · rw [pending]
      exact ⟨fun _empty => ⟨empty, full⟩, fun _both => rfl⟩
    · rw [pending]
      exact ⟨fun empty => absurd empty nonempty, fun both => absurd both.1 waits⟩
  · have large : netDataBufsize < framed.length := Nat.not_le.mp small
    have bound : compressPacketSize ≤ framed.length :=
      Nat.le_trans (by decide) (Nat.le_of_lt large)
    rw [(s.send_of_large lzo large fits).2.1]
    exact ⟨fun empty => ⟨empty, bound⟩, fun both => both.1⟩

end Session

end RanOnline.Net
