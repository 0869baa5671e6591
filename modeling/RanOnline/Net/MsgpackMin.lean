/-
The MessagePack encoder (net/msgpack_min.h, net/msgpack_min.cpp).

Each operation of Packer is the bytes that it appends to its output, and every one
of them is read back by the decoder of the format.
-/
import RanOnline.Lib.MessagePack

namespace RanOnline.Net.Packer

open Memory MessagePack

/-- The low `bytes` bytes of `v`, the most significant first. -/
def be (v : UInt64) (bytes : Nat) : Bytes :=
  (List.range bytes).reverse.map fun i => ((v >>> UInt64.ofNat (8 * i)) &&& 0xFF).toUInt8

def array (n : UInt32) : Bytes :=
  if n ≤ 15 then [(0x90 ||| n).toUInt8]
  else if n ≤ 0xFFFF then 0xdc :: be n.toUInt64 2
  else 0xdd :: be n.toUInt64 4

def uint (v : UInt64) : Bytes :=
  if v ≤ 0x7F then [v.toUInt8]
  else if v ≤ 0xFF then [0xcc, v.toUInt8]
  else if v ≤ 0xFFFF then 0xcd :: be v 2
  else if v ≤ 0xFFFFFFFF then 0xce :: be v 4
  else 0xcf :: be v 8

def int (v : Int64) : Bytes :=
  if 0 ≤ v then uint v.toUInt64
  else if -32 ≤ v then [(0xE0 ||| (v.toUInt64 &&& 0x1F)).toUInt8]
  else if -128 ≤ v then [0xd0, (v.toUInt64 &&& 0xFF).toUInt8]
  else if -32768 ≤ v then 0xd1 :: be v.toUInt64 2
  else if -2147483648 ≤ v then 0xd2 :: be v.toUInt64 4
  else 0xd3 :: be v.toUInt64 8

def str (s : Bytes) : Bytes :=
  let n := s.length
  (if n ≤ 31 then [(0xA0 ||| UInt64.ofNat n).toUInt8]
    else if n ≤ 0xFF then [0xd9, UInt8.ofNat n]
    else if n ≤ 0xFFFF then 0xda :: be (UInt64.ofNat n) 2
    else 0xdb :: be (UInt64.ofNat n) 4) ++ s

def bool (b : Bool) : Bytes := [if b then 0xc3 else 0xc2]

/-! ### Big-endian numbers -/

theorem be_succ (v : UInt64) (bytes : Nat) :
    be v (bytes + 1) = ((v >>> UInt64.ofNat (8 * bytes)) &&& 0xFF).toUInt8 :: be v bytes := by
  rw [be, List.range_succ, List.reverse_append, List.reverse_singleton, List.singleton_append,
    List.map_cons]
  rfl

theorem be_length (v : UInt64) (bytes : Nat) : (be v bytes).length = bytes := by
  rw [be, List.length_map, List.length_reverse, List.length_range]

theorem byteAt_toNat (v : UInt64) {index : Nat} (inside : index < 8) :
    ((v >>> UInt64.ofNat (8 * index)) &&& 0xFF).toUInt8.toNat = v.toNat / 256 ^ index % 256 := by
  have mask : (0xFF : UInt64).toNat = 2 ^ 8 - 1 := rfl
  have shift : (UInt64.ofNat (8 * index)).toNat % 64 = 8 * index := by
    rw [UInt64.toNat_ofNat']
    omega
  rw [UInt64.toNat_toUInt8, UInt64.toNat_and, UInt64.toNat_shiftRight, shift,
    Nat.shiftRight_eq_div_pow, mask, Nat.and_two_pow_sub_one_eq_mod, Nat.pow_mul, Nat.mod_mod]

theorem beNat_be (v : UInt64) {bytes : Nat} (most : bytes ≤ 8) :
    beNat (be v bytes) = v.toNat % 256 ^ bytes := by
  induction bytes with
  | zero => exact (Nat.mod_one _).symm
  | succ bytes ih =>
      rw [be_succ, beNat, be_length, ih (by omega), byteAt_toNat v (by omega), Nat.pow_succ,
        Nat.mod_mul, Nat.mul_comm, Nat.add_comm]

theorem beNat_be_of_lt {v : UInt64} {bytes : Nat} (most : bytes ≤ 8)
    (fits : v.toNat < 256 ^ bytes) : beNat (be v bytes) = v.toNat := by
  rw [beNat_be v most, Nat.mod_eq_of_lt fits]

/-! ### What the decoder reads -/

/-- A number behind a code that announces its width. -/
theorem scalar_append (v : UInt64) {width : Nat} (most : width ≤ 8)
    (value : Nat → Value) (rest : Bytes) :
    ((takeBytes width (be v width ++ rest)).map
        fun taken => (Head.value (value (beNat taken.1)), taken.2)) =
      some (.value (value (v.toNat % 256 ^ width)), rest) := by
  have read := takeBytes_append (be v width) rest
  rw [be_length] at read
  rw [read, Option.map_some, beNat_be v most]

theorem uint_append {v : UInt64} {width : Nat} (most : width ≤ 8) (fits : v.toNat < 256 ^ width)
    (rest : Bytes) :
    ((takeBytes width (be v width ++ rest)).map
        fun taken => (Head.value (.int (beNat taken.1)), taken.2)) =
      some (.value (.int v.toNat), rest) := by
  have read := scalar_append v most (fun number => .int number) rest
  rwa [Nat.mod_eq_of_lt fits] at read

theorem counted_append {v : UInt64} {width : Nat} (most : width ≤ 8)
    (fits : v.toNat < 256 ^ width) (head : Nat → Head) (rest : Bytes) :
    ((takeNat width (be v width ++ rest)).map fun taken => (head taken.1, taken.2)) =
      some (head v.toNat, rest) := by
  rw [takeNat_append (be_length v width), Option.map_some, beNat_be_of_lt most fits]

theorem headAs_array (n : UInt32) : HeadAs (.array n.toNat) (array n) := by
  intro rest
  unfold array
  have wide : n.toUInt64.toNat = n.toNat := rfl
  have bound := n.toNat_lt
  split
  · rename_i small
    have fix : ∀ count < 16, (0x90 ||| UInt32.ofNat count).toUInt8.toNat = 0x90 + count := by
      decide
    have code := fix n.toNat (Nat.lt_succ_of_le (UInt32.le_iff_toNat_le.mp small))
    rw [UInt32.ofNat_toNat] at code
    have limit : n.toNat ≤ 15 := UInt32.le_iff_toNat_le.mp small
    rw [List.singleton_append, readHead]
    simp only [code]
    rw [if_neg (by omega), if_neg (by omega), if_pos (by omega), Nat.add_sub_cancel_left]
  · split
    · rename_i medium
      have limit : n.toNat ≤ 0xFFFF := UInt32.le_iff_toNat_le.mp medium
      have fits : n.toUInt64.toNat < 256 ^ 2 := by omega
      exact counted_append (Nat.le_of_ble_eq_true rfl) fits Head.array rest
    · have fits : n.toUInt64.toNat < 256 ^ 4 := by omega
      exact counted_append (Nat.le_of_ble_eq_true rfl) fits Head.array rest

theorem headAs_uint (v : UInt64) : HeadAs (.value (.int v.toNat)) (uint v) := by
  intro rest
  unfold uint
  have bound := v.toNat_lt
  split
  · rename_i small
    have limit : v.toNat ≤ 0x7F := UInt64.le_iff_toNat_le.mp small
    have code : v.toUInt8.toNat = v.toNat := by
      rw [UInt64.toNat_toUInt8]
      omega
    rw [List.singleton_append, readHead]
    simp only [code]
    rw [if_pos (by omega)]
  · split
    · rename_i small
      have limit : v.toNat ≤ 0xFF := UInt64.le_iff_toNat_le.mp small
      have one : [v.toUInt8] = be v 1 := by
        rw [be_succ]
        congr 1
        apply UInt8.toNat_inj.mp
        rw [byteAt_toNat v (by decide), UInt64.toNat_toUInt8]
        omega
      have read := uint_append (Nat.le_of_ble_eq_true rfl) (show v.toNat < 256 ^ 1 by omega) rest
      rw [← one] at read
      exact read
    · split
      · rename_i small
        have limit : v.toNat ≤ 0xFFFF := UInt64.le_iff_toNat_le.mp small
        exact uint_append (Nat.le_of_ble_eq_true rfl) (show v.toNat < 256 ^ 2 by omega) rest
      · split
        · rename_i small
          have limit : v.toNat ≤ 0xFFFFFFFF := UInt64.le_iff_toNat_le.mp small
          exact uint_append (Nat.le_of_ble_eq_true rfl) (show v.toNat < 256 ^ 4 by omega) rest
        · exact uint_append (Nat.le_refl 8) (show v.toNat < 256 ^ 8 by omega) rest

/-- The word of a negative number, in two's complement. -/
theorem toUInt64_of_neg {v : Int64} (negative : v.toInt < 0) :
    (v.toUInt64.toNat : Int) = v.toInt + 2 ^ 64 := by
  have value := BitVec.toInt_eq_toNat_cond v.toBitVec
  change v.toInt = _ at value
  change (v.toBitVec.toNat : Int) = _
  have bound := v.toBitVec.isLt
  split at value
  · omega
  · omega

theorem toUInt64_of_nonneg {v : Int64} (nonneg : 0 ≤ v.toInt) : (v.toUInt64.toNat : Int) = v.toInt := by
  have value := BitVec.toInt_eq_toNat_cond v.toBitVec
  change v.toInt = _ at value
  change (v.toBitVec.toNat : Int) = _
  have bound := v.toBitVec.isLt
  split at value
  · omega
  · omega

/-- The low bytes of a negative number that they have room for. -/
theorem signed_low {v : Int64} {width : Nat} (negative : v.toInt < 0)
    (known : width = 1 ∨ width = 2 ∨ width = 4 ∨ width = 8)
    (fits : -2 ^ (8 * width - 1) ≤ v.toInt) :
    signed width (v.toUInt64.toNat % 256 ^ width) = v.toInt := by
  have word := toUInt64_of_neg negative
  unfold signed
  rcases known with rfl | rfl | rfl | rfl
  · split <;> omega
  · split <;> omega
  · split <;> omega
  · split <;> omega

theorem int_append {v : Int64} {width : Nat} (negative : v.toInt < 0)
    (known : width = 1 ∨ width = 2 ∨ width = 4 ∨ width = 8)
    (fits : -2 ^ (8 * width - 1) ≤ v.toInt) (rest : Bytes) :
    ((takeBytes width (be v.toUInt64 width ++ rest)).map
        fun taken => (Head.value (.int (signed width (beNat taken.1))), taken.2)) =
      some (.value (.int v.toInt), rest) := by
  have most : width ≤ 8 := by omega
  have read := scalar_append v.toUInt64 most (fun number => .int (signed width number)) rest
  rwa [signed_low negative known fits] at read

theorem headAs_int (v : Int64) : HeadAs (.value (.int v.toInt)) (int v) := by
  intro rest
  unfold int
  split
  · rename_i nonneg
    have value := toUInt64_of_nonneg (Int64.le_iff_toInt_le.mp nonneg)
    have read := headAs_uint v.toUInt64 rest
    rwa [value] at read
  · rename_i other
    have negative : v.toInt < 0 := Int64.lt_iff_toInt_lt.mp (Int64.not_le.mp other)
    have word := toUInt64_of_neg negative
    split
    · rename_i small
      have limit : -32 ≤ v.toInt := Int64.le_iff_toInt_le.mp small
      have fix : ∀ count < 32,
          (0xE0 ||| (UInt64.ofNat (18446744073709551584 + count) &&& 0x1F)).toUInt8.toNat =
            0xE0 + count := by decide +kernel
      have code := fix (v.toUInt64.toNat - 18446744073709551584) (by omega)
      have whole : 18446744073709551584 + (v.toUInt64.toNat - 18446744073709551584) =
          v.toUInt64.toNat := by omega
      rw [whole, UInt64.ofNat_toNat] at code
      have value : ((0xE0 + (v.toUInt64.toNat - 18446744073709551584) : Nat) : Int) - 0x100 =
          v.toInt := by omega
      rw [List.singleton_append, readHead]
      simp only [code]
      rw [if_neg (by omega), if_neg (by omega), if_neg (by omega), if_neg (by omega),
        if_pos (by omega), value]
    · split
      · rename_i small
        have limit : -128 ≤ v.toInt := Int64.le_iff_toInt_le.mp small
        exact int_append negative (Or.inl rfl) limit rest
      · split
        · rename_i small
          have limit : -32768 ≤ v.toInt := Int64.le_iff_toInt_le.mp small
          exact int_append negative (Or.inr (Or.inl rfl)) limit rest
        · split
          · rename_i small
            have limit : -2147483648 ≤ v.toInt := Int64.le_iff_toInt_le.mp small
            exact int_append negative (Or.inr (Or.inr (Or.inl rfl))) limit rest
          · exact int_append negative (Or.inr (Or.inr (Or.inr rfl))) v.le_toInt rest

theorem headAs_str {s : Bytes} (fits : s.length < 2 ^ 32) :
    HeadAs (.value (.str s)) (str s) := by
  intro rest
  have wide : (UInt64.ofNat s.length).toNat = s.length := by
    rw [UInt64.toNat_ofNat']
    omega
  simp only [str, List.append_assoc]
  split
  · rename_i small
    have fix : ∀ count < 32, (0xA0 ||| UInt64.ofNat count).toUInt8.toNat = 0xA0 + count := by
      decide
    have code := fix s.length (by omega)
    rw [List.singleton_append, readHead]
    simp only [code]
    rw [if_neg (by omega), if_neg (by omega), if_neg (by omega), if_pos (by omega),
      Nat.add_sub_cancel_left, takeBytes_append]
    rfl
  · split
    · rename_i small
      have length : beNat [UInt8.ofNat s.length] = s.length := by
        change (UInt8.ofNat s.length).toNat * 1 + 0 = _
        rw [UInt8.toNat_ofNat']
        omega
      have read : takeSized 1 ([UInt8.ofNat s.length] ++ (s ++ rest)) = some (s, rest) :=
        takeSized_append rfl length rest
      exact congrArg (Option.map fun taken => (Head.value (.str taken.1), taken.2)) read
    · split
      · have length := beNat_be_of_lt (show 2 ≤ 8 by decide)
          (show (UInt64.ofNat s.length).toNat < 256 ^ 2 by omega)
        change (takeSized 2 (be (UInt64.ofNat s.length) 2 ++ (s ++ rest))).map _ = _
        rw [takeSized_append (be_length _ _) (length.trans wide)]
        rfl
      · have length := beNat_be_of_lt (show 4 ≤ 8 by decide)
          (show (UInt64.ofNat s.length).toNat < 256 ^ 4 by omega)
        change (takeSized 4 (be (UInt64.ofNat s.length) 4 ++ (s ++ rest))).map _ = _
        rw [takeSized_append (be_length _ _) (length.trans wide)]
        rfl

theorem headAs_bool (b : Bool) : HeadAs (.value (.bool b)) (bool b) := by
  intro rest
  cases b <;> rfl

end RanOnline.Net.Packer
