/-
SendMsgBuffer (net/send_msg_buffer.h, net/send_msg_buffer.cpp).

The batching buffer of a session.  Every memcpy is a bounds-checked write into a
block of NET_DATA_MSG_BUFSIZE bytes and the 32-bit and 16-bit counters wrap as
they do in the source.  `OutBuffer` is the buffer in a state that the class can
reach; none of its operations can fault.
-/
import RanOnline.Net.MinLzo
import RanOnline.Net.Packet

namespace RanOnline.Net

open Memory

def netDataBufsize : Nat := 2048
def netDataMsgBufsize : Nat := 4096
def compressPacketSize : Nat := 1000
def netCompressSize : Nat := 12

inductive BufferResult
  | bufferSend
  | bufferAdded
  | bufferSendAdd
  | bufferError
  deriving DecidableEq, Repr

structure SendMsgBuffer where
  dwPos : Nat
  usCount : Nat
  buffer : Block
  sendBuffer : Block

namespace SendMsgBuffer

def new : SendMsgBuffer :=
  { dwPos := 0
    usCount := 0
    buffer := .zeroed netDataMsgBufsize
    sendBuffer := .zeroed netDataMsgBufsize }

def reset (b : SendMsgBuffer) : SendMsgBuffer :=
  { b with dwPos := 0, usCount := 0 }

def addMsg (b : SendMsgBuffer) (msg : Bytes) (dwSize : Nat) :
    Checked (SendMsgBuffer × BufferResult) :=
  if netDataBufsize < dwSize then pure (b, .bufferError)
  else if (b.dwPos + dwSize) % 2 ^ 32 < compressPacketSize then do
    let source ← (Block.ofBytes msg).readRange 0 dwSize
    let buffer ← b.buffer.write b.dwPos source
    pure ({ b with
      buffer := buffer
      dwPos := (b.dwPos + dwSize) % 2 ^ 32
      usCount := (b.usCount + 1) % 2 ^ 16 }, .bufferAdded)
  else if b.dwPos = 0 then do
    let source ← (Block.ofBytes msg).readRange 0 dwSize
    let buffer ← b.buffer.write 0 source
    pure ({ b with
      buffer := buffer
      dwPos := dwSize
      usCount := (b.usCount + 1) % 2 ^ 16 }, .bufferSend)
  else pure (b, .bufferSendAdd)

/-- struct NET_COMPRESS as it lies in memory. -/
def netCompress (dwSize : Nat) (bCompress : UInt8) : Bytes :=
  writeLE32 (UInt32.ofNat dwSize) ++ (writeLE32 netMsgCompress ++ [bCompress, 0, 0, 0])

@[simp] theorem netCompress_length (dwSize : Nat) (bCompress : UInt8) :
    (netCompress dwSize bCompress).length = netCompressSize := rfl

theorem netCompress_wordAt {dwSize : Nat} (small : dwSize < 2 ^ 32) (bCompress : UInt8)
    (body : Bytes) :
    (wordAt (netCompress dwSize bCompress ++ body) 0).toNat = dwSize ∧
      wordAt (netCompress dwSize bCompress ++ body) 4 = netMsgCompress := by
  have first := wordAt_writeLE32 (UInt32.ofNat dwSize)
    (writeLE32 netMsgCompress ++ [bCompress, 0, 0, 0] ++ body)
  have second := wordAt_append_right (writeLE32 (UInt32.ofNat dwSize))
    (writeLE32 netMsgCompress ++ ([bCompress, 0, 0, 0] ++ body)) 0
  rw [wordAt_writeLE32] at second
  constructor
  · simp only [netCompress, List.append_assoc] at first ⊢
    rw [first, UInt32.toNat_ofNat', Nat.mod_eq_of_lt small]
  · simp only [netCompress, List.append_assoc]
    exact second

def getSendSize (lzo : LzoApi) (b : SendMsgBuffer) : Checked (SendMsgBuffer × Nat) :=
  if b.dwPos = 0 then pure (b, 0)
  else do
    let source ← b.buffer.readRange 0 b.dwPos
    let (compressResult, output) ← lzoCompress lzo source
    -- LZO has written its output even where the result is not used
    let sendBuffer ← b.sendBuffer.write netCompressSize output
    if compressResult = .success then
      let dwSendSize := netCompressSize + output.length
      let sendBuffer ← sendBuffer.write 0 (netCompress dwSendSize 1)
      pure ({ b with sendBuffer := sendBuffer, dwPos := 0, usCount := 0 }, dwSendSize)
    else
      let sendBuffer ← sendBuffer.write netCompressSize source
      let dwSendSize := netCompressSize + b.dwPos
      let sendBuffer ← sendBuffer.write 0 (netCompress dwSendSize 0)
      pure ({ b with sendBuffer := sendBuffer, dwPos := 0, usCount := 0 }, dwSendSize)

/-- The bytes added since the buffer was last emptied. -/
def pending (b : SendMsgBuffer) : Bytes := (List.range b.dwPos).map b.buffer.byteAt

@[simp] theorem pending_length (b : SendMsgBuffer) : b.pending.length = b.dwPos := by
  simp [pending]

structure Inv (b : SendMsgBuffer) : Prop where
  bufferSize : b.buffer.size = netDataMsgBufsize
  sendBufferSize : b.sendBuffer.size = netDataMsgBufsize
  filled : b.dwPos ≤ netDataBufsize

theorem inv_new : new.Inv :=
  { bufferSize := rfl
    sendBufferSize := rfl
    filled := Nat.zero_le _ }

theorem Inv.shows_pending {b : SendMsgBuffer} (inv : b.Inv) : b.buffer.Shows 0 b.pending := by
  have size := inv.bufferSize
  have filled := inv.filled
  unfold netDataMsgBufsize at size
  unfold netDataBufsize at filled
  constructor
  · rw [pending_length]
    omega
  · intro index bound
    rw [pending_length] at bound
    simp [pending, bound]

/-- What a block shows from its start on is what a buffer filled so far holds. -/
theorem pending_eq_of_shows {b : SendMsgBuffer} {bytes : Bytes} (shown : b.buffer.Shows 0 bytes)
    (filled : b.dwPos = bytes.length) : b.pending = bytes := by
  apply List.ext_getElem
  · rw [pending_length, filled]
  · intro index left right
    have shownAt := shown.agrees index right
    rw [Nat.zero_add] at shownAt
    simp only [pending, List.getElem_map, List.getElem_range, shownAt, List.getD_eq_getElem?_getD]
    rw [List.getElem?_eq_getElem right, Option.getD_some]

/-! ### What the operations do to the pending bytes -/

/-- The pending bytes after adding a message, and the result code. -/
def addOutcome (pending msg : Bytes) : Bytes × BufferResult :=
  if netDataBufsize < msg.length then (pending, .bufferError)
  else if pending.length + msg.length < compressPacketSize then (pending ++ msg, .bufferAdded)
  else if pending.length = 0 then (msg, .bufferSend)
  else (pending, .bufferSendAdd)

/-- The packet that carries the pending bytes. -/
def envelope (lzo : LzoApi) (pending : Bytes) : Bytes :=
  match lzo.compress pending with
  | some output =>
      if pending.length ≤ output.length then
        netCompress (netCompressSize + pending.length) 0 ++ pending
      else netCompress (netCompressSize + output.length) 1 ++ output
  | none => netCompress (netCompressSize + pending.length) 0 ++ pending

theorem envelope_compressed {lzo : LzoApi} {pending output : Bytes}
    (found : lzo.compress pending = some output) (shorter : output.length < pending.length) :
    envelope lzo pending = netCompress (netCompressSize + output.length) 1 ++ output := by
  simp only [envelope, found, if_neg (Nat.not_le.mpr shorter)]

theorem envelope_plain {lzo : LzoApi} {pending : Bytes}
    (longer : ∀ output, lzo.compress pending = some output → pending.length ≤ output.length) :
    envelope lzo pending = netCompress (netCompressSize + pending.length) 0 ++ pending := by
  unfold envelope
  cases found : lzo.compress pending with
  | none => rfl
  | some output => exact if_pos (longer output found)

theorem addMsg_error {b : SendMsgBuffer} {msg : Bytes} {dwSize : Nat}
    (large : netDataBufsize < dwSize) : b.addMsg msg dwSize = .ok (b, .bufferError) := by
  simp only [addMsg, if_pos large, pure_eq_ok]

/-- A message of dwSize bytes read from the start of what pMsg points to. -/
private theorem readRange_source {memory : Bytes} {dwSize : Nat}
    (inside : dwSize ≤ memory.length) :
    (Block.ofBytes memory).readRange 0 dwSize = .ok (memory.take dwSize) :=
  (Block.shows_ofBytes memory).readRange inside

theorem addMsg_spec {b : SendMsgBuffer} (inv : b.Inv) {memory : Bytes} {dwSize : Nat}
    (inside : dwSize ≤ memory.length) :
    ∃ next, b.addMsg memory dwSize = .ok next ∧
      next.1.Inv ∧ (next.1.pending, next.2) = addOutcome b.pending (memory.take dwSize) := by
  have size : b.buffer.size = 4096 := inv.bufferSize
  have filled : b.dwPos ≤ 2048 := inv.filled
  have source := readRange_source inside
  generalize msgTaken : memory.take dwSize = msg at source ⊢
  have length : msg.length = dwSize := by
    rw [← msgTaken, List.length_take, Nat.min_eq_left inside]
  subst length
  by_cases large : netDataBufsize < msg.length
  · refine ⟨(b, .bufferError), addMsg_error large, inv, ?_⟩
    simp only [addOutcome, if_pos large]
  · have small : msg.length ≤ 2048 := Nat.le_of_not_lt large
    have total : (b.dwPos + msg.length) % 2 ^ 32 = b.dwPos + msg.length :=
      Nat.mod_eq_of_lt (by omega)
    simp only [addMsg, addOutcome, if_neg large, source, total, pending_length, ok_bind]
    by_cases batched : b.dwPos + msg.length < compressPacketSize
    · simp only [if_pos batched]
      rw [Block.write_ok _ _ _ (by omega), ok_bind]
      have limit : b.dwPos + msg.length < 1000 := batched
      refine ⟨_, rfl, { inv with filled := show b.dwPos + msg.length ≤ 2048 by omega }, ?_⟩
      have shown : (b.buffer.splice b.dwPos msg).Shows 0 (b.pending ++ msg) := by
        apply Block.Shows.append
        · exact inv.shows_pending.splice (by rw [pending_length]; omega) msg
        · rw [pending_length, Nat.zero_add]
          exact Block.shows_splice _ _ _ (by omega)
      exact congrArg (·, BufferResult.bufferAdded) (pending_eq_of_shows shown (by simp))
    · simp only [if_neg batched]
      by_cases empty : b.dwPos = 0
      · simp only [if_pos empty]
        rw [Block.write_ok _ _ _ (by omega), ok_bind]
        refine ⟨_, rfl, { inv with filled := show msg.length ≤ 2048 from small }, ?_⟩
        exact congrArg (·, BufferResult.bufferSend)
          (pending_eq_of_shows (Block.shows_splice _ _ _ (by omega)) rfl)
      · simp only [if_neg empty]
        exact ⟨_, rfl, inv, rfl⟩

theorem getSendSize_empty (lzo : LzoApi) {b : SendMsgBuffer} (empty : b.dwPos = 0) :
    getSendSize lzo b = .ok (b, 0) := by
  simp only [getSendSize, if_pos empty, pure_eq_ok]

/-- What `getSendSize` leaves behind: an empty buffer and the packet, from the
start of the send buffer on. -/
structure Drained (b : SendMsgBuffer) (packet : Bytes) : Prop where
  inv : b.Inv
  empty : b.dwPos = 0
  count : b.usCount = 0
  shown : b.sendBuffer.Shows 0 packet

private theorem shows_netCompress (sendBuffer : Block) (size : sendBuffer.size = 4096)
    (dwSize : Nat) (bCompress : UInt8) {body : Bytes}
    (shown : sendBuffer.Shows netCompressSize body) :
    (sendBuffer.splice 0 (netCompress dwSize bCompress)).Shows 0
      (netCompress dwSize bCompress ++ body) := by
  apply Block.Shows.append
  · apply Block.shows_splice
    rw [netCompress_length, size]
    decide
  · rw [netCompress_length, Nat.zero_add]
    constructor
    · exact shown.inside
    · intro index bound
      have outside : ¬(0 ≤ netCompressSize + index ∧
          netCompressSize + index < 0 + (netCompress dwSize bCompress).length) := by
        rw [netCompress_length]
        omega
      simp only [Block.splice, if_neg outside]
      exact shown.agrees index bound

theorem getSendSize_spec {lzo : LzoApi} (initialised : lzo.ready = true)
    (limited : lzo.CompressFits) {b : SendMsgBuffer} (inv : b.Inv) (nonempty : b.dwPos ≠ 0) :
    ∃ next, getSendSize lzo b = .ok (next, (envelope lzo b.pending).length) ∧
      next.Drained (envelope lzo b.pending) := by
  have sendSize : b.sendBuffer.size = 4096 := inv.sendBufferSize
  have filled : b.dwPos ≤ 2048 := inv.filled
  have source := inv.shows_pending.readRange (Nat.le_refl _)
  rw [List.take_length, pending_length] at source
  have pendingNonempty : b.pending ≠ [] := by
    intro empty
    have length := congrArg List.length empty
    rw [pending_length] at length
    exact nonempty length
  have small : b.pending.length ≤ 2048 := by rwa [pending_length]
  obtain ⟨code, output, compressed, fits, outcome⟩ :=
    lzoCompress_cases initialised limited pendingNonempty small
  have outputFits : netCompressSize + output.length ≤ b.sendBuffer.size := by
    rw [sendSize]
    unfold netCompressSize
    omega
  simp only [getSendSize, if_neg nonempty, source, compressed, ok_bind]
  rw [Block.write_ok _ _ _ outputFits, ok_bind]
  rcases outcome with ⟨success, found, shorter⟩ | ⟨failure, longer⟩
  · rw [if_pos success, Block.write_ok _ _ _ (by simp [sendSize, netCompressSize]), ok_bind,
      envelope_compressed found shorter, List.length_append, netCompress_length]
    refine ⟨_, rfl, ?_⟩
    have shown := Block.shows_splice b.sendBuffer netCompressSize output outputFits
    exact
      { inv := { inv with filled := Nat.zero_le _ }
        empty := rfl
        count := rfl
        shown := shows_netCompress (b.sendBuffer.splice _ _) sendSize _ 1 shown }
  · have pendingFits : netCompressSize + b.pending.length ≤
        (b.sendBuffer.splice netCompressSize output).size := by
      rw [Block.splice_size, sendSize]
      unfold netCompressSize
      omega
    rw [if_neg failure, Block.write_ok _ _ _ pendingFits, ok_bind,
      Block.write_ok _ _ _ (by simp [sendSize, netCompressSize]), ok_bind,
      envelope_plain longer, List.length_append, netCompress_length, pending_length]
    refine ⟨_, rfl, ?_⟩
    have shown := Block.shows_splice _ netCompressSize b.pending pendingFits
    exact
      { inv := { inv with filled := Nat.zero_le _ }
        empty := rfl
        count := rfl
        shown := shows_netCompress ((b.sendBuffer.splice _ _).splice _ _) sendSize _ 0 shown }

/-- The size that `getSendSize` reports and the packet copied out of the send
buffer, as Session::Send and Session::Flush take it. -/
def takePacket (lzo : LzoApi) (b : SendMsgBuffer) : Checked (SendMsgBuffer × Option Bytes) := do
  let (next, dwSendSize) ← getSendSize lzo b
  if 0 < dwSendSize then
    let packet ← next.sendBuffer.readRange 0 dwSendSize
    pure (next, some packet)
  else pure (next, none)

def drainOutcome (lzo : LzoApi) (pending : Bytes) : Option Bytes :=
  if pending = [] then none else some (envelope lzo pending)

theorem envelope_length_pos (lzo : LzoApi) (pending : Bytes) :
    0 < (envelope lzo pending).length := by
  unfold envelope
  split
  · split <;>
    · rw [List.length_append, netCompress_length]
      exact Nat.add_pos_left (by decide) _
  · rw [List.length_append, netCompress_length]
    exact Nat.add_pos_left (by decide) _

theorem pending_eq_nil_iff (b : SendMsgBuffer) : b.pending = [] ↔ b.dwPos = 0 := by
  rw [← pending_length, List.length_eq_zero_iff]

theorem takePacket_spec (lzo : Lzo) {b : SendMsgBuffer} (inv : b.Inv) :
    ∃ next, takePacket lzo.toLzoApi b = .ok next ∧
      next.1.Inv ∧ next.1.pending = [] ∧ next.2 = drainOutcome lzo.toLzoApi b.pending := by
  by_cases empty : b.dwPos = 0
  · have nothing := (pending_eq_nil_iff b).mpr empty
    refine ⟨(b, none), ?_, inv, nothing, ?_⟩
    · simp only [takePacket, getSendSize_empty lzo.toLzoApi empty, ok_bind, pure_eq_ok,
        Nat.lt_irrefl, if_false]
    · rw [drainOutcome, if_pos nothing]
  · obtain ⟨next, sent, drained⟩ := getSendSize_spec lzo.ready_eq lzo.compressFits inv empty
    have copied := drained.shown.readRange (Nat.le_refl _)
    rw [List.take_length] at copied
    refine ⟨(next, some (envelope lzo.toLzoApi b.pending)), ?_, drained.inv, ?_, ?_⟩
    · simp only [takePacket, sent, ok_bind, if_pos (envelope_length_pos lzo.toLzoApi b.pending),
        copied, pure_eq_ok]
    · exact (pending_eq_nil_iff next).mpr drained.empty
    · rw [drainOutcome, if_neg]
      intro nothing
      exact empty ((pending_eq_nil_iff b).mp nothing)

end SendMsgBuffer

/-! ### Buffers that the class can reach -/

abbrev OutBuffer := { b : SendMsgBuffer // b.Inv }

namespace OutBuffer

def new : OutBuffer := ⟨.new, SendMsgBuffer.inv_new⟩

def pending (out : OutBuffer) : Bytes := out.val.pending

@[simp] theorem pending_new : new.pending = [] := rfl

theorem pending_length_le (out : OutBuffer) : out.pending.length ≤ netDataBufsize := by
  rw [pending, SendMsgBuffer.pending_length]
  exact out.property.filled

/-- The size_t size of the vector becomes the 32-bit dwSize of `addMsg`. -/
def dwSizeOf (framed : Bytes) : Nat := framed.length % 2 ^ 32

private theorem addMsg_known (out : OutBuffer) (framed : Bytes) :
    ∃ next, out.val.addMsg framed (dwSizeOf framed) = .ok next ∧
      (next.1.Inv ∧ (next.1.pending, next.2) =
        SendMsgBuffer.addOutcome out.pending (framed.take (dwSizeOf framed))) :=
  SendMsgBuffer.addMsg_spec out.property (Nat.mod_le _ _)

def addMsg (out : OutBuffer) (framed : Bytes) : OutBuffer × BufferResult :=
  let next := extract (out.val.addMsg framed (dwSizeOf framed)) (addMsg_known out framed)
  (⟨next.val.1, next.property.1⟩, next.val.2)

theorem addMsg_eq (out : OutBuffer) (framed : Bytes) :
    out.val.addMsg framed (dwSizeOf framed) =
      .ok ((out.addMsg framed).1.val, (out.addMsg framed).2) :=
  ok_extract (addMsg_known out framed)

theorem addMsg_pending (out : OutBuffer) (framed : Bytes) :
    ((out.addMsg framed).1.pending, (out.addMsg framed).2) =
      SendMsgBuffer.addOutcome out.pending (framed.take (dwSizeOf framed)) :=
  (extract (out.val.addMsg framed (dwSizeOf framed)) (addMsg_known out framed)).property.2

private theorem takePacket_known (lzo : Lzo) (out : OutBuffer) :
    ∃ next, SendMsgBuffer.takePacket lzo.toLzoApi out.val = .ok next ∧
      (next.1.Inv ∧ next.1.pending = [] ∧
        next.2 = SendMsgBuffer.drainOutcome lzo.toLzoApi out.pending) :=
  SendMsgBuffer.takePacket_spec lzo out.property

def takePacket (lzo : Lzo) (out : OutBuffer) : OutBuffer × Option Bytes :=
  let next := extract (SendMsgBuffer.takePacket lzo.toLzoApi out.val) (takePacket_known lzo out)
  (⟨next.val.1, next.property.1⟩, next.val.2)

theorem takePacket_eq (lzo : Lzo) (out : OutBuffer) :
    SendMsgBuffer.takePacket lzo.toLzoApi out.val =
      .ok ((out.takePacket lzo).1.val, (out.takePacket lzo).2) :=
  ok_extract (takePacket_known lzo out)

@[simp] theorem takePacket_pending (lzo : Lzo) (out : OutBuffer) :
    (out.takePacket lzo).1.pending = [] :=
  (extract (SendMsgBuffer.takePacket lzo.toLzoApi out.val)
    (takePacket_known lzo out)).property.2.1

@[simp] theorem takePacket_packet (lzo : Lzo) (out : OutBuffer) :
    (out.takePacket lzo).2 = SendMsgBuffer.drainOutcome lzo.toLzoApi out.pending :=
  (extract (SendMsgBuffer.takePacket lzo.toLzoApi out.val)
    (takePacket_known lzo out)).property.2.2

end OutBuffer

end RanOnline.Net
