/-
32-bit words: their four bytes in little-endian order, and their rotations.
-/
import Mathlib.Data.Nat.Bitwise

namespace RanOnline.Word32

def joinLE32 (p0 p1 p2 p3 : UInt8) : UInt32 :=
  p0.toUInt32 ||| (p1.toUInt32 <<< 8) ||| (p2.toUInt32 <<< 16) ||| (p3.toUInt32 <<< 24)

private theorem or_shiftLeft {low : Nat} (high : Nat) {width : Nat} (small : low < 2 ^ width) :
    low ||| high <<< width = low + 2 ^ width * high := by
  rw [Nat.or_comm, ← Nat.shiftLeft_add_eq_or_of_lt small, Nat.shiftLeft_eq]
  rw [Nat.add_comm, Nat.mul_comm]

private theorem shifted_byte (p : UInt8) {width : Nat} (fits : width ≤ 24) :
    p.toNat <<< (width % 32) % 2 ^ 32 = p.toNat <<< width := by
  have small := p.toNat_lt
  rw [Nat.mod_eq_of_lt (show width < 32 by omega), Nat.shiftLeft_eq, Nat.mod_eq_of_lt]
  calc
    p.toNat * 2 ^ width < 2 ^ 8 * 2 ^ width :=
      Nat.mul_lt_mul_of_pos_right small (Nat.pos_of_ne_zero (by simp))
    _ = 2 ^ (8 + width) := (Nat.pow_add 2 8 width).symm
    _ ≤ 2 ^ 32 := Nat.pow_le_pow_right (by omega) (by omega)

theorem joinLE32_toNat (p0 p1 p2 p3 : UInt8) :
    (joinLE32 p0 p1 p2 p3).toNat =
      p0.toNat + 2 ^ 8 * p1.toNat + 2 ^ 16 * p2.toNat + 2 ^ 24 * p3.toNat := by
  have h0 := p0.toNat_lt
  have h1 := p1.toNat_lt
  have h2 := p2.toNat_lt
  simp only [joinLE32, UInt32.toNat_or, UInt32.toNat_shiftLeft, UInt8.toNat_toUInt32]
  change ((p0.toNat ||| p1.toNat <<< (8 % 32) % 2 ^ 32) ||| p2.toNat <<< (16 % 32) % 2 ^ 32) |||
    p3.toNat <<< (24 % 32) % 2 ^ 32 = _
  rw [shifted_byte p1 (by omega), shifted_byte p2 (by omega), shifted_byte p3 (by omega)]
  rw [or_shiftLeft p1.toNat (by omega), or_shiftLeft p2.toNat (by omega),
    or_shiftLeft p3.toNat (by omega)]

private theorem lowByte_toNat (v : UInt32) : (v &&& 0xFF).toUInt8.toNat = v.toNat % 256 := by
  simp only [UInt32.toNat_toUInt8, UInt32.toNat_and]
  change (v.toNat &&& 2 ^ 8 - 1) % 256 = _
  rw [Nat.and_two_pow_sub_one_eq_mod]
  omega

private theorem shiftedByte_toNat (v shift : UInt32) (small : shift.toNat < 32) :
    ((v >>> shift) &&& 0xFF).toUInt8.toNat = v.toNat / 2 ^ shift.toNat % 256 := by
  rw [lowByte_toNat, UInt32.toNat_shiftRight, Nat.mod_eq_of_lt small, Nat.shiftRight_eq_div_pow]

theorem joinLE32_split (v : UInt32) :
    joinLE32 (v &&& 0xFF).toUInt8 ((v >>> 8) &&& 0xFF).toUInt8
      ((v >>> 16) &&& 0xFF).toUInt8 ((v >>> 24) &&& 0xFF).toUInt8 = v := by
  apply UInt32.toNat_inj.mp
  rw [joinLE32_toNat, lowByte_toNat, shiftedByte_toNat v 8 (by decide),
    shiftedByte_toNat v 16 (by decide), shiftedByte_toNat v 24 (by decide)]
  have bound := v.toNat_lt
  change v.toNat % 256 + 2 ^ 8 * (v.toNat / 2 ^ 8 % 256) + 2 ^ 16 * (v.toNat / 2 ^ 16 % 256) +
    2 ^ 24 * (v.toNat / 2 ^ 24 % 256) = v.toNat
  omega

theorem joinLE32_byte0 (p0 p1 p2 p3 : UInt8) : (joinLE32 p0 p1 p2 p3 &&& 0xFF).toUInt8 = p0 := by
  apply UInt8.toNat_inj.mp
  have h0 := p0.toNat_lt
  rw [lowByte_toNat, joinLE32_toNat]
  omega

theorem joinLE32_byte1 (p0 p1 p2 p3 : UInt8) :
    ((joinLE32 p0 p1 p2 p3 >>> 8) &&& 0xFF).toUInt8 = p1 := by
  apply UInt8.toNat_inj.mp
  have h0 := p0.toNat_lt
  have h1 := p1.toNat_lt
  rw [shiftedByte_toNat _ 8 (by decide), joinLE32_toNat]
  change _ / 2 ^ 8 % 256 = p1.toNat
  omega

theorem joinLE32_byte2 (p0 p1 p2 p3 : UInt8) :
    ((joinLE32 p0 p1 p2 p3 >>> 16) &&& 0xFF).toUInt8 = p2 := by
  apply UInt8.toNat_inj.mp
  have h0 := p0.toNat_lt
  have h1 := p1.toNat_lt
  have h2 := p2.toNat_lt
  rw [shiftedByte_toNat _ 16 (by decide), joinLE32_toNat]
  change _ / 2 ^ 16 % 256 = p2.toNat
  omega

theorem joinLE32_byte3 (p0 p1 p2 p3 : UInt8) :
    ((joinLE32 p0 p1 p2 p3 >>> 24) &&& 0xFF).toUInt8 = p3 := by
  apply UInt8.toNat_inj.mp
  have h0 := p0.toNat_lt
  have h1 := p1.toNat_lt
  have h2 := p2.toNat_lt
  have h3 := p3.toNat_lt
  rw [shiftedByte_toNat _ 24 (by decide), joinLE32_toNat]
  change _ / 2 ^ 24 % 256 = p3.toNat
  omega

/-! ### Rotations -/

theorem rotateRight_rotateLeft {width : Nat} (x : BitVec width) (count : Nat) :
    (x.rotateLeft count).rotateRight count = x := by
  apply BitVec.eq_of_getElem_eq
  intro index bound
  have small := Nat.mod_lt count (Nat.zero_lt_of_lt bound)
  rw [BitVec.getElem_rotateRight]
  split
  · rw [BitVec.getElem_rotateLeft, dif_neg (by omega)]
    congr 1
    omega
  · rw [BitVec.getElem_rotateLeft, dif_pos (by omega)]
    congr 1
    omega

theorem rotateLeft_rotateRight {width : Nat} (x : BitVec width) (count : Nat) :
    (x.rotateRight count).rotateLeft count = x := by
  apply BitVec.eq_of_getElem_eq
  intro index bound
  have small := Nat.mod_lt count (Nat.zero_lt_of_lt bound)
  rw [BitVec.getElem_rotateLeft]
  split
  · rw [BitVec.getElem_rotateRight, dif_neg (by omega)]
    congr 1
    omega
  · rw [BitVec.getElem_rotateRight, dif_pos (by omega)]
    congr 1
    omega

/-- A shift by 32 bits counts modulo 32, as the shift instruction does: rotating
by nothing is the identity. -/
def rotl (val shift : UInt32) : UInt32 :=
  (val <<< (shift &&& 31)) ||| (val >>> (32 - (shift &&& 31)))

def rotr (val shift : UInt32) : UInt32 :=
  (val >>> (shift &&& 31)) ||| (val <<< (32 - (shift &&& 31)))

private theorem maskedShift_toNat (shift : UInt32) :
    (shift &&& 31).toNat = shift.toNat % 32 := by
  rw [UInt32.toNat_and]
  exact Nat.and_two_pow_sub_one_eq_mod shift.toNat 5

private theorem complement_toNat (shift : UInt32) :
    (32 - (shift &&& 31)).toNat % 32 = (32 - shift.toNat % 32) % 32 := by
  have masked := maskedShift_toNat shift
  have small := Nat.mod_lt shift.toNat (show 0 < 32 by decide)
  rw [UInt32.toNat_sub_of_le _ _ (by rw [UInt32.le_iff_toNat_le, masked]; exact small.le), masked]
  rfl

theorem rotl_toBitVec (val shift : UInt32) :
    (rotl val shift).toBitVec = val.toBitVec.rotateLeft shift.toNat := by
  have small := Nat.mod_lt shift.toNat (show 0 < 32 by decide)
  simp only [rotl, UInt32.toBitVec_or, UInt32.toBitVec_shiftLeft, UInt32.toBitVec_shiftRight,
    BitVec.rotateLeft_def, BitVec.shiftLeft_eq', BitVec.ushiftRight_eq', BitVec.toNat_umod,
    UInt32.toNat_toBitVec]
  change val.toBitVec <<< ((shift &&& 31).toNat % 32) |||
    val.toBitVec >>> ((32 - (shift &&& 31)).toNat % 32) = _
  rw [maskedShift_toNat, complement_toNat, Nat.mod_mod]
  by_cases still : shift.toNat % 32 = 0
  · rw [still, BitVec.ushiftRight_eq_zero (Nat.le_refl 32)]
    simp
  · rw [Nat.mod_eq_of_lt (show 32 - shift.toNat % 32 < 32 by omega)]

theorem rotr_toBitVec (val shift : UInt32) :
    (rotr val shift).toBitVec = val.toBitVec.rotateRight shift.toNat := by
  have small := Nat.mod_lt shift.toNat (show 0 < 32 by decide)
  simp only [rotr, UInt32.toBitVec_or, UInt32.toBitVec_shiftLeft, UInt32.toBitVec_shiftRight,
    BitVec.rotateRight_def, BitVec.shiftLeft_eq', BitVec.ushiftRight_eq', BitVec.toNat_umod,
    UInt32.toNat_toBitVec]
  change val.toBitVec >>> ((shift &&& 31).toNat % 32) |||
    val.toBitVec <<< ((32 - (shift &&& 31)).toNat % 32) = _
  rw [maskedShift_toNat, complement_toNat, Nat.mod_mod]
  by_cases still : shift.toNat % 32 = 0
  · simp [still]
  · rw [Nat.mod_eq_of_lt (show 32 - shift.toNat % 32 < 32 by omega)]

@[simp] theorem rotr_rotl (val shift : UInt32) : rotr (rotl val shift) shift = val := by
  apply UInt32.toBitVec_inj.mp
  rw [rotr_toBitVec, rotl_toBitVec, rotateRight_rotateLeft]

@[simp] theorem rotl_rotr (val shift : UInt32) : rotl (rotr val shift) shift = val := by
  apply UInt32.toBitVec_inj.mp
  rw [rotl_toBitVec, rotr_toBitVec, rotateLeft_rotateRight]

/-- Only the shift modulo 32 counts. -/
theorem rotl_of_dvd (val : UInt32) {shift : UInt32} (multiple : 32 ∣ shift.toNat) :
    rotl val shift = val := by
  apply UInt32.toBitVec_inj.mp
  rw [rotl_toBitVec, BitVec.rotateLeft_def, Nat.mod_eq_zero_of_dvd multiple, Nat.sub_zero,
    BitVec.ushiftRight_eq_zero (Nat.le_refl 32), BitVec.or_zero]
  exact BitVec.shiftLeft_zero val.toBitVec

theorem rotr_of_dvd (val : UInt32) {shift : UInt32} (multiple : 32 ∣ shift.toNat) :
    rotr val shift = val := by
  rw [← rotl_of_dvd val multiple, rotr_rotl, rotl_of_dvd val multiple]

end RanOnline.Word32
