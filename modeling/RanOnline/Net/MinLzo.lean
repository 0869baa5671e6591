/-
CMinLzo (net/minlzo.cpp) over liblzo.

The library itself is not part of the repository.  `LzoApi` is what the wrapper
calls, `Lzo` adds what its documentation promises about lengths, and
`LzoApi.RoundTrip` that decompression inverts compression.
-/
import RanOnline.Lib.Memory

namespace RanOnline.Net

open Memory

/-- `ready` says whether lzo_init and the allocation of the work memory succeed.
`none` stands for any result code other than LZO_E_OK. -/
structure LzoApi where
  ready : Bool
  compress : Bytes → Option Bytes
  decompressSafe : Bytes → Nat → Option Bytes

inductive MinLzo
  | success
  | error
  | inputDataError
  | internalError
  | canNotCompress
  deriving DecidableEq, Repr

/-- The result code, and the bytes that lzo1x_1_compress wrote into pOutBuffer. -/
def lzoCompress (lzo : LzoApi) (inBuffer : Bytes) : Checked (MinLzo × Bytes) :=
  if inBuffer.length = 0 then .ok (.inputDataError, [])
  -- the callers drop the result of init(), a failed one leaves m_pWorkmem null
  else if lzo.ready = false then .error .notInitialised
  else match lzo.compress inBuffer with
    | some output =>
        if inBuffer.length ≤ output.length then .ok (.canNotCompress, output)
        else .ok (.success, output)
    | none => .ok (.internalError, [])

def lzoDeCompress (lzo : LzoApi) (outBuffer : Bytes) (capacity : Nat) : MinLzo × Bytes :=
  if outBuffer.length = 0 then (.inputDataError, [])
  else match lzo.decompressSafe outBuffer capacity with
    | some output =>
        if outBuffer.length ≤ output.length then (.success, output) else (.error, output)
    | none => (.error, [])

/-- The liblzo contract on initialisation and lengths. -/
structure Lzo extends LzoApi where
  ready_eq : ready = true
  compress_fits : ∀ {input output : Bytes}, input.length ≤ 2048 →
    compress input = some output → output.length ≤ 4084
  decompress_le : ∀ {input output : Bytes} {capacity : Nat},
    decompressSafe input capacity = some output → output.length ≤ capacity

/-- The part of the contract that holds on hostile input too. -/
def LzoApi.DecompressBounded (lzo : LzoApi) : Prop :=
  ∀ {input output : Bytes} {capacity : Nat},
    lzo.decompressSafe input capacity = some output → output.length ≤ capacity

theorem Lzo.decompressBounded (lzo : Lzo) : lzo.toLzoApi.DecompressBounded :=
  lzo.decompress_le

/-- A batch of at most NET_DATA_BUFSIZE bytes leaves its envelope inside the send
buffer, whatever LZO makes of it. -/
def LzoApi.CompressFits (lzo : LzoApi) : Prop :=
  ∀ {input output : Bytes}, input.length ≤ 2048 →
    lzo.compress input = some output → output.length ≤ 4084

theorem Lzo.compressFits (lzo : Lzo) : lzo.toLzoApi.CompressFits :=
  lzo.compress_fits

/-- The worst expansion that the documentation of lzo1x_1_compress names.  The
function does not look at the capacity that it is given. -/
def LzoApi.CompressBounded (lzo : LzoApi) : Prop :=
  ∀ {input output : Bytes}, lzo.compress input = some output →
    output.length ≤ input.length + input.length / 16 + 67

theorem LzoApi.CompressBounded.fits {lzo : LzoApi} (bounded : lzo.CompressBounded) :
    lzo.CompressFits := by
  intro input output small compressed
  have expansion := bounded compressed
  omega

structure LzoApi.RoundTrip (lzo : LzoApi) : Prop where
  compress_ne_nil : ∀ {input output : Bytes}, input ≠ [] →
    lzo.compress input = some output → output ≠ []
  decompress_compress : ∀ {input output : Bytes} {capacity : Nat}, input ≠ [] →
    lzo.compress input = some output → input.length ≤ capacity →
      lzo.decompressSafe output capacity = some input

theorem lzoDeCompress_length_le {lzo : LzoApi} (bounded : lzo.DecompressBounded)
    (outBuffer : Bytes) (capacity : Nat) :
    (lzoDeCompress lzo outBuffer capacity).2.length ≤ capacity := by
  unfold lzoDeCompress
  split
  · exact Nat.zero_le _
  · cases found : lzo.decompressSafe outBuffer capacity with
    | none => exact Nat.zero_le _
    | some output =>
        have bound := bounded found
        simp only
        split <;> exact bound

/-- The two outcomes that the sender tells apart: a result shorter than the
input, or none that is worth sending. -/
theorem lzoCompress_cases {lzo : LzoApi} (initialised : lzo.ready = true)
    (limited : lzo.CompressFits) {inBuffer : Bytes} (nonempty : inBuffer ≠ [])
    (small : inBuffer.length ≤ 2048) :
    ∃ code output, lzoCompress lzo inBuffer = .ok (code, output) ∧
      output.length ≤ 4084 ∧
      ((code = .success ∧ lzo.compress inBuffer = some output ∧
          output.length < inBuffer.length) ∨
        (code ≠ .success ∧ ∀ other, lzo.compress inBuffer = some other →
          inBuffer.length ≤ other.length)) := by
  have positive : ¬inBuffer.length = 0 := by
    intro empty
    exact nonempty (List.eq_nil_of_length_eq_zero empty)
  have ready : ¬lzo.ready = false := by
    rw [initialised]
    decide
  unfold lzoCompress
  rw [if_neg positive, if_neg ready]
  cases found : lzo.compress inBuffer with
  | none =>
      refine ⟨.internalError, [], rfl, Nat.zero_le _, Or.inr ⟨by decide, ?_⟩⟩
      intro other impossible
      cases impossible
  | some output =>
      have fits := limited small found
      by_cases longer : inBuffer.length ≤ output.length
      · refine ⟨.canNotCompress, output, by simp only [if_pos longer], fits,
          Or.inr ⟨by decide, ?_⟩⟩
        intro other same
        cases same
        exact longer
      · exact ⟨.success, output, by simp only [if_neg longer], fits,
          Or.inl ⟨rfl, rfl, Nat.lt_of_not_le longer⟩⟩

/-! ### Literal runs

What lzo1x_1_compress emits for an input without a match: the run length, the
bytes themselves and the end-of-stream marker. -/

def literalHeader (length : Nat) : Bytes :=
  if length ≤ 238 then [UInt8.ofNat (17 + length)]
  else List.replicate ((length - 19) / 255 + 1) 0 ++ [UInt8.ofNat ((length - 19) % 255 + 1)]

def endMarker : Bytes := [17, 0, 0]

def literalCompress (input : Bytes) : Bytes :=
  literalHeader input.length ++ (input ++ endMarker)

def literalHeaderSize (stream : Bytes) : Nat :=
  (stream.takeWhile (· = 0)).length + 1

def literalDecompress (stream : Bytes) (capacity : Nat) : Option Bytes :=
  let run := (stream.drop (literalHeaderSize stream)).take
    (stream.length - literalHeaderSize stream - endMarker.length)
  if literalCompress run = stream ∧ run.length ≤ capacity then some run else none

private theorem literalHeader_length (length : Nat) :
    (literalHeader length).length ≤ length / 255 + 2 := by
  unfold literalHeader
  split
  · simp
  · rw [List.length_append, List.length_replicate, List.length_singleton]
    omega

private theorem zeros_before {first : UInt8} (nonzero : ¬first = 0) (rest : Bytes) :
    (first :: rest).takeWhile (· = 0) = [] :=
  List.takeWhile_cons_of_neg (by rw [decide_eq_true_eq]; exact nonzero)

private theorem literalHeaderSize_header (length : Nat) (rest : Bytes) :
    literalHeaderSize (literalHeader length ++ rest) = (literalHeader length).length := by
  unfold literalHeader literalHeaderSize
  split
  · rename_i short
    have nonzero : ¬(UInt8.ofNat (17 + length) = 0) := by
      intro zero
      have value := congrArg UInt8.toNat zero
      rw [UInt8.toNat_ofNat'] at value
      change (17 + length) % 256 = 0 at value
      omega
    rw [List.singleton_append, zeros_before nonzero]
    rfl
  · have nonzero : ¬(UInt8.ofNat ((length - 19) % 255 + 1) = 0) := by
      intro zero
      have value := congrArg UInt8.toNat zero
      rw [UInt8.toNat_ofNat'] at value
      change ((length - 19) % 255 + 1) % 256 = 0 at value
      omega
    rw [List.append_assoc, List.takeWhile_append_of_pos (by simp), List.singleton_append,
      zeros_before nonzero, List.append_nil, List.length_append]
    rfl

private theorem literalDecompress_compress (input : Bytes) {capacity : Nat}
    (fits : input.length ≤ capacity) :
    literalDecompress (literalCompress input) capacity = some input := by
  have size : literalHeaderSize (literalCompress input) = (literalHeader input.length).length :=
    literalHeaderSize_header input.length _
  have run : ((literalCompress input).drop (literalHeaderSize (literalCompress input))).take
      ((literalCompress input).length - literalHeaderSize (literalCompress input) -
        endMarker.length) = input := by
    rw [size]
    simp only [literalCompress, List.drop_left, List.length_append]
    have count : (literalHeader input.length).length + (input.length + endMarker.length) -
        (literalHeader input.length).length - endMarker.length = input.length := by omega
    rw [count, List.take_left]
  simp only [literalDecompress, run, and_true, fits, if_true]

/-- A library that never finds a match. -/
def literalLzo : Lzo where
  ready := true
  compress := fun input => some (literalCompress input)
  decompressSafe := literalDecompress
  ready_eq := rfl
  compress_fits := by
    intro input output small compressed
    cases compressed
    have header := literalHeader_length input.length
    rw [literalCompress, List.length_append, List.length_append]
    simp only [endMarker, List.length_cons, List.length_nil]
    omega
  decompress_le := by
    intro input output capacity decompressed
    simp only [literalDecompress] at decompressed
    split at decompressed
    · rename_i accepted
      cases decompressed
      exact accepted.2
    · cases decompressed

theorem literalLzo_compressBounded : literalLzo.toLzoApi.CompressBounded := by
  intro input output compressed
  cases compressed
  have header := literalHeader_length input.length
  rw [literalCompress, List.length_append, List.length_append]
  simp only [endMarker, List.length_cons, List.length_nil]
  omega

theorem literalLzo_roundTrip : literalLzo.toLzoApi.RoundTrip where
  compress_ne_nil := by
    intro input output _nonempty compressed
    cases compressed
    simp [literalCompress, endMarker]
  decompress_compress := by
    intro input output capacity _nonempty compressed fits
    cases compressed
    exact literalDecompress_compress input fits

end RanOnline.Net
