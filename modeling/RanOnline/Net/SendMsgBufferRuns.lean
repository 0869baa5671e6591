/-
SendMsgBuffer over any order of calls.

How full the buffer can be decides whether the compressor, which does not look at
the capacity it is given, stays inside m_pSendBuffer.  Here the three calls come
in any order, with messages of any size.
-/
import RanOnline.Net.FramerWire
import RanOnline.Net.SendMsgBuffer

namespace RanOnline.Net

open Memory

namespace SendMsgBuffer

inductive Call
  | addMsg (memory : Bytes) (dwSize : Nat)
  | getSendSize
  | reset

/-- pMsg points to dwSize bytes, where addMsg gets to read them. -/
def Call.Readable : Call → Prop
  | .addMsg memory dwSize => dwSize ≤ netDataBufsize → dwSize ≤ memory.length
  | .getSendSize => True
  | .reset => True

/-- A message has at least its header. -/
def Call.Sized : Call → Prop
  | .addMsg _memory dwSize => kHeaderSize ≤ dwSize
  | .getSendSize => True
  | .reset => True

def call (lzo : LzoApi) (b : SendMsgBuffer) : Call → Checked SendMsgBuffer
  | .addMsg memory dwSize => do
      let (next, _result) ← b.addMsg memory dwSize
      pure next
  | .getSendSize => do
      let (next, _dwSendSize) ← getSendSize lzo b
      pure next
  | .reset => pure b.reset

def runCalls (lzo : LzoApi) : SendMsgBuffer → List Call → Checked SendMsgBuffer
  | b, [] => pure b
  | b, next :: calls => do
      let b ← b.call lzo next
      runCalls lzo b calls

/-! ### One call -/

/-- What addMsg can do. -/
theorem addMsg_cases {b next : SendMsgBuffer} {memory : Bytes} {dwSize : Nat}
    {result : BufferResult} (inv : b.Inv) (added : b.addMsg memory dwSize = .ok (next, result)) :
    (next = b ∧ (result = .bufferError ∨ result = .bufferSendAdd)) ∨
    (result = .bufferAdded ∧ next.dwPos = b.dwPos + dwSize ∧ next.dwPos < compressPacketSize ∧
      next.usCount = (b.usCount + 1) % 2 ^ 16) ∨
    (result = .bufferSend ∧ b.dwPos = 0 ∧ next.dwPos = dwSize ∧ dwSize ≤ netDataBufsize ∧
      next.usCount = (b.usCount + 1) % 2 ^ 16) := by
  have filled : b.dwPos ≤ 2048 := inv.filled
  unfold addMsg at added
  by_cases large : netDataBufsize < dwSize
  · rw [if_pos large] at added
    cases added
    exact Or.inl ⟨rfl, Or.inl rfl⟩
  · have small : dwSize ≤ 2048 := Nat.le_of_not_lt large
    have total : (b.dwPos + dwSize) % 2 ^ 32 = b.dwPos + dwSize :=
      Nat.mod_eq_of_lt (by omega)
    rw [if_neg large, total] at added
    by_cases batched : b.dwPos + dwSize < compressPacketSize
    · rw [if_pos batched] at added
      cases source : (Block.ofBytes memory).readRange 0 dwSize with
      | error fault =>
          rw [source] at added
          cases added
      | ok bytes =>
          cases written : b.buffer.write b.dwPos bytes with
          | error fault =>
              rw [source, ok_bind, written] at added
              cases added
          | ok buffer =>
              rw [source, ok_bind, written] at added
              cases added
              exact Or.inr (Or.inl ⟨rfl, rfl, batched, rfl⟩)
    · rw [if_neg batched] at added
      by_cases empty : b.dwPos = 0
      · rw [if_pos empty] at added
        cases source : (Block.ofBytes memory).readRange 0 dwSize with
        | error fault =>
            rw [source] at added
            cases added
        | ok bytes =>
            cases written : b.buffer.write 0 bytes with
            | error fault =>
                rw [source, ok_bind, written] at added
                cases added
            | ok buffer =>
                rw [source, ok_bind, written] at added
                cases added
                exact Or.inr (Or.inr ⟨rfl, empty, rfl, small, rfl⟩)
      · rw [if_neg empty] at added
        cases added
        exact Or.inl ⟨rfl, Or.inr rfl⟩

theorem addMsg_total {b : SendMsgBuffer} (inv : b.Inv) {memory : Bytes} {dwSize : Nat}
    (readable : (Call.addMsg memory dwSize).Readable) :
    ∃ next result, b.addMsg memory dwSize = .ok (next, result) ∧ next.Inv := by
  by_cases large : netDataBufsize < dwSize
  · exact ⟨b, .bufferError, addMsg_error large, inv⟩
  · obtain ⟨next, added, kept, _pending⟩ :=
      addMsg_spec inv (readable (Nat.le_of_not_lt large))
    exact ⟨next.1, next.2, added, kept⟩

theorem getSendSize_uninitialised {lzo : LzoApi} (failed : lzo.ready = false)
    {b : SendMsgBuffer} (inv : b.Inv) (nonempty : b.dwPos ≠ 0) :
    getSendSize lzo b = .error .notInitialised := by
  have source := inv.shows_pending.readRange (Nat.le_refl _)
  rw [List.take_length, pending_length] at source
  have some : ¬b.pending.length = 0 := by
    rw [pending_length]
    exact nonempty
  rw [getSendSize, if_neg nonempty, source, ok_bind, lzoCompress, if_neg some, if_pos failed]
  rfl

theorem getSendSize_total {lzo : LzoApi} (bounded : lzo.CompressBounded) {b : SendMsgBuffer}
    (inv : b.Inv) :
    (lzo.ready = false ∧ getSendSize lzo b = .error .notInitialised) ∨
      ∃ next dwSendSize, getSendSize lzo b = .ok (next, dwSendSize) ∧ next.Inv ∧
        (next = b ∨ next.dwPos = 0 ∧ next.usCount = 0) := by
  by_cases empty : b.dwPos = 0
  · exact Or.inr ⟨b, 0, getSendSize_empty lzo empty, inv, Or.inl rfl⟩
  · cases initialised : lzo.ready with
    | false => exact Or.inl ⟨rfl, getSendSize_uninitialised initialised inv empty⟩
    | true =>
        obtain ⟨next, sent, drained⟩ := getSendSize_spec initialised bounded.fits inv empty
        exact Or.inr ⟨next, _, sent, drained.inv, Or.inr ⟨drained.empty, drained.count⟩⟩

/-- How the count goes with the fill level when no message is empty: one large
message stands alone. -/
structure Counted (b : SendMsgBuffer) : Prop where
  empty : b.dwPos = 0 → b.usCount = 0
  batched : b.dwPos < compressPacketSize ∨ b.usCount = 1

theorem counted_empty {b : SendMsgBuffer} (empty : b.dwPos = 0) (none : b.usCount = 0) :
    b.Counted := by
  constructor
  · intro _empty
    exact none
  · rw [empty]
    exact Or.inl (by decide)

theorem Counted.addMsg {b next : SendMsgBuffer} (counted : b.Counted) (inv : b.Inv)
    {memory : Bytes} {dwSize : Nat} (sized : kHeaderSize ≤ dwSize) {result : BufferResult}
    (added : b.addMsg memory dwSize = .ok (next, result)) : next.Counted := by
  have header : 8 ≤ dwSize := sized
  rcases addMsg_cases inv added with
    ⟨rfl, _refused⟩ | ⟨_result, filled, batched, _count⟩ | ⟨_result, empty, filled, _small, count⟩
  · exact counted
  · constructor
    · intro nothing
      omega
    · exact Or.inl batched
  · constructor
    · intro nothing
      omega
    · rw [counted.empty empty] at count
      exact Or.inr count

/-- One call keeps the buffer within its bounds, and the count with the fill level. -/
theorem call_total {lzo : LzoApi} (bounded : lzo.CompressBounded) {b : SendMsgBuffer}
    (inv : b.Inv) {next : Call} (readable : next.Readable) :
    (lzo.ready = false ∧ b.call lzo next = .error .notInitialised) ∨
      ∃ after, b.call lzo next = .ok after ∧ after.Inv ∧
        (b.Counted → next.Sized → after.Counted) := by
  cases next with
  | addMsg memory dwSize =>
      obtain ⟨after, result, added, kept⟩ := addMsg_total inv readable
      refine Or.inr ⟨after, ?_, kept, ?_⟩
      · simp only [call, added, ok_bind, pure_eq_ok]
      · intro counted sized
        exact counted.addMsg inv sized added
  | getSendSize =>
      rcases getSendSize_total bounded inv with
        ⟨failed, fault⟩ | ⟨after, dwSendSize, sent, kept, same | ⟨empty, none⟩⟩
      · refine Or.inl ⟨failed, ?_⟩
        simp only [call, fault, error_bind]
      · refine Or.inr ⟨after, ?_, kept, ?_⟩
        · simp only [call, sent, ok_bind, pure_eq_ok]
        · intro counted _sized
          rw [same]
          exact counted
      · refine Or.inr ⟨after, ?_, kept, ?_⟩
        · simp only [call, sent, ok_bind, pure_eq_ok]
        · intro _counted _sized
          exact counted_empty empty none
  | reset =>
      refine Or.inr ⟨b.reset, rfl, ?_, ?_⟩
      · exact { inv with filled := Nat.zero_le _ }
      · intro _counted _sized
        exact counted_empty rfl rfl

theorem runCalls_total {lzo : LzoApi} (bounded : lzo.CompressBounded) (calls : List Call)
    {b : SendMsgBuffer} (inv : b.Inv) (readable : ∀ next ∈ calls, next.Readable) :
    (lzo.ready = false ∧ runCalls lzo b calls = .error .notInitialised) ∨
      ∃ after, runCalls lzo b calls = .ok after ∧ after.Inv ∧
        (b.Counted → (∀ next ∈ calls, next.Sized) → after.Counted) := by
  induction calls generalizing b with
  | nil => exact Or.inr ⟨b, rfl, inv, fun counted _sized => counted⟩
  | cons next calls ih =>
      rcases call_total bounded inv (readable next List.mem_cons_self) with
        ⟨failed, fault⟩ | ⟨between, called, kept, counts⟩
      · refine Or.inl ⟨failed, ?_⟩
        simp only [runCalls, fault, error_bind]
      · have later := ih kept (fun other member => readable other (List.mem_cons_of_mem next member))
        simp only [runCalls, called, ok_bind]
        rcases later with fault | ⟨after, ran, keptAfter, countsAfter⟩
        · exact Or.inl fault
        · refine Or.inr ⟨after, ran, keptAfter, ?_⟩
          intro counted sized
          apply countsAfter
          · exact counts counted (sized next List.mem_cons_self)
          · intro other member
            exact sized other (List.mem_cons_of_mem next member)

/-! ### The packet -/

theorem envelope_wire {lzo : LzoApi} {pending : Bytes} (small : pending.length ≤ netDataBufsize) :
    Envelope (envelope lzo pending) ∧ (envelope lzo pending).length ≤ 2060 := by
  have formed : ∀ (bCompress : UInt8) (body : Bytes), body.length ≤ netDataBufsize →
      Envelope (netCompress (netCompressSize + body.length) bCompress ++ body) ∧
        (netCompress (netCompressSize + body.length) bCompress ++ body).length ≤ 2060 := by
    intro bCompress body fits
    have bound : body.length ≤ 2048 := fits
    have length : (netCompress (netCompressSize + body.length) bCompress ++ body).length =
        12 + body.length := by
      rw [List.length_append, netCompress_length]
      rfl
    have words := netCompress_wordAt
      (show netCompressSize + body.length < 2 ^ 32 by unfold netCompressSize; omega) bCompress body
    generalize netCompress (netCompressSize + body.length) bCompress ++ body = packet at *
    constructor
    · constructor
      · constructor
        · constructor
          · unfold kHeaderSize
            omega
          · rw [words.1, length]
            rfl
        · unfold kMaxMessageSize
          omega
      · exact words.2
      · unfold envelopeHeaderSize
        omega
    · omega
  unfold envelope
  cases lzo.compress pending with
  | none => exact formed 0 pending small
  | some output =>
      by_cases longer : pending.length ≤ output.length
      · simp only [if_pos longer]
        exact formed 0 pending small
      · simp only [if_neg longer]
        exact formed 1 output (by omega)

/-- What holds of a buffer that has not overrun: its sums stay below 2^32, there is
room for the worst that the compressor writes, no call faults, a refused message
changes nothing, and the packet passes the size tests of a framer. -/
structure WithinBounds (lzo : LzoApi) (b : SendMsgBuffer) : Prop where
  filled : b.dwPos ≤ netDataBufsize
  total : ∀ dwSize, dwSize ≤ netDataBufsize → b.dwPos + dwSize < 2 ^ 32
  transient : netCompressSize + (b.dwPos + b.dwPos / 16 + 67) ≤ b.sendBuffer.size
  adds : ∀ memory dwSize, (Call.addMsg memory dwSize).Readable →
    ∃ next result, b.addMsg memory dwSize = .ok (next, result) ∧
      (result = .bufferError ∨ result = .bufferSendAdd → next = b)
  sends : lzo.ready = true → b.dwPos ≠ 0 →
    ∃ next packet, getSendSize lzo b = .ok (next, packet.length) ∧
      next.sendBuffer.Shows 0 packet ∧ Envelope packet ∧
      netCompressSize ≤ packet.length ∧ packet.length ≤ 2060 ∧
      ∀ (peer : LzoApi) (more : Bytes), frameCut peer (packet ++ more) = frameVerdict peer packet

theorem Inv.withinBounds {lzo : LzoApi} (bounded : lzo.CompressBounded) {b : SendMsgBuffer}
    (inv : b.Inv) : b.WithinBounds lzo := by
  have filled : b.dwPos ≤ 2048 := inv.filled
  constructor
  · exact inv.filled
  · intro dwSize small
    unfold netDataBufsize at small
    omega
  · rw [inv.sendBufferSize]
    unfold netCompressSize netDataMsgBufsize
    omega
  · intro memory dwSize readable
    obtain ⟨next, result, added, _kept⟩ := addMsg_total inv readable
    refine ⟨next, result, added, ?_⟩
    intro refused
    rcases addMsg_cases inv added with ⟨same, _refused⟩ | ⟨rfl, _⟩ | ⟨rfl, _⟩
    · exact same
    · rcases refused with impossible | impossible <;> cases impossible
    · rcases refused with impossible | impossible <;> cases impossible
  · intro initialised nonempty
    obtain ⟨next, sent, drained⟩ := getSendSize_spec initialised bounded.fits inv nonempty
    have small : b.pending.length ≤ netDataBufsize := by
      rw [pending_length]
      exact inv.filled
    obtain ⟨packet, limit⟩ := @envelope_wire lzo b.pending small
    refine ⟨next, envelope lzo b.pending, sent, drained.shown, packet, packet.room, limit, ?_⟩
    intro peer more
    exact frameCut_of_wireFrame peer packet.toWireFrame more

/-- After any calls in any order the buffer is within its bounds.  If every message
has a header, more than COMPRESS_PACKET_SIZE bytes are those of a single one. -/
theorem never_overruns (lzo : LzoApi) (bounded : lzo.CompressBounded) (calls : List Call)
    (readable : ∀ next ∈ calls, next.Readable) :
    (lzo.ready = false ∧ runCalls lzo new calls = .error .notInitialised) ∨
      ∃ b, runCalls lzo new calls = .ok b ∧ b.WithinBounds lzo ∧
        ((∀ next ∈ calls, next.Sized) →
          b.dwPos < compressPacketSize ∨ (b.usCount = 1 ∧ b.dwPos ≤ netDataBufsize)) := by
  rcases runCalls_total bounded calls inv_new readable with fault | ⟨b, ran, inv, counts⟩
  · exact Or.inl fault
  · refine Or.inr ⟨b, ran, inv.withinBounds bounded, ?_⟩
    intro sized
    have counted := counts (counted_empty rfl rfl) sized
    rcases counted.batched with batched | single
    · exact Or.inl batched
    · exact Or.inr ⟨single, inv.filled⟩

theorem never_overruns_mixed :
    (literalLzo.ready = false ∧
      runCalls literalLzo.toLzoApi new
        [.addMsg (encodeMessage 7 []) 8, .addMsg [] 4096, .getSendSize, .reset] =
          .error .notInitialised) ∨
      ∃ b, runCalls literalLzo.toLzoApi new
          [.addMsg (encodeMessage 7 []) 8, .addMsg [] 4096, .getSendSize, .reset] = .ok b ∧
        b.WithinBounds literalLzo.toLzoApi ∧
        ((∀ next ∈ [Call.addMsg (encodeMessage 7 []) 8, .addMsg [] 4096, .getSendSize, .reset],
            next.Sized) →
          b.dwPos < compressPacketSize ∨ (b.usCount = 1 ∧ b.dwPos ≤ netDataBufsize)) := by
  apply never_overruns literalLzo.toLzoApi literalLzo_compressBounded
  intro next member
  simp only [List.mem_cons, List.not_mem_nil, or_false] at member
  rcases member with rfl | rfl | rfl | rfl
  · intro _small
    exact Nat.le_refl 8
  · intro small
    exact absurd small (by decide)
  · trivial
  · trivial

end SendMsgBuffer

end RanOnline.Net
