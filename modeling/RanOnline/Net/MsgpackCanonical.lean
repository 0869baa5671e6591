/-
Everything that Packer writes is canonical (net/msgpack_min.cpp).

A packer is driven by calls, one head of the format each.  The decoder reads back the
calls in their order and nothing else, and no call is written in more bytes than any
encoding of its head has.
-/
import RanOnline.Net.MsgpackMin

namespace RanOnline.Net.Packer

open Memory MessagePack

/-- One operation on a packer.  A string is shorter than the largest length of the format. -/
inductive Call
  | array (n : UInt32)
  | uint (v : UInt64)
  | int (v : Int64)
  | str (s : Bytes) (short : s.length < 2 ^ 32)
  | bool (b : Bool)

namespace Call

/-- The bytes that the operation appends. -/
def bytes : Call → Bytes
  | .array n => Packer.array n
  | .uint v => Packer.uint v
  | .int v => Packer.int v
  | .str s _ => Packer.str s
  | .bool b => Packer.bool b

/-- The head that a reader of the format is to find. -/
def head : Call → Head
  | .array n => .array n.toNat
  | .uint v => .value (.int v.toNat)
  | .int v => .value (.int v.toInt)
  | .str s _ => .value (.str s)
  | .bool b => .value (.bool b)

theorem headAs (call : Call) : HeadAs call.head call.bytes := by
  cases call with
  | array n => exact headAs_array n
  | uint v => exact headAs_uint v
  | int v => exact headAs_int v
  | str s short => exact headAs_str short
  | bool b => exact headAs_bool b

end Call

/-- The output of a packer after these operations. -/
def packed (calls : List Call) : Bytes := (calls.map Call.bytes).flatten

/-! ### Sizes -/

theorem array_length (n : UInt32) : (array n).length = (Head.array n.toNat).leastSize := by
  unfold array
  split
  · rename_i small
    have limit : n.toNat ≤ 15 := UInt32.le_iff_toNat_le.mp small
    simp only [Head.leastSize]
    rw [if_pos (by omega)]
    rfl
  · rename_i large
    have exceeds : ¬n.toNat ≤ 15 := fun small => large (UInt32.le_iff_toNat_le.mpr small)
    split
    · rename_i small
      have limit : n.toNat ≤ 0xFFFF := UInt32.le_iff_toNat_le.mp small
      simp only [Head.leastSize]
      rw [if_neg (by omega), if_pos (by omega), List.length_cons, be_length]
    · rename_i large
      have exceeds : ¬n.toNat ≤ 0xFFFF := fun small => large (UInt32.le_iff_toNat_le.mpr small)
      simp only [Head.leastSize]
      rw [if_neg (by omega), if_neg (by omega), List.length_cons, be_length]

theorem uint_length (v : UInt64) :
    (uint v).length = (Head.value (.int v.toNat)).leastSize := by
  unfold uint
  split
  · rename_i small
    have limit : v.toNat ≤ 0x7F := UInt64.le_iff_toNat_le.mp small
    simp only [Head.leastSize]
    rw [if_pos (by omega)]
    rfl
  · rename_i large
    have exceeds : ¬v.toNat ≤ 0x7F := fun small => large (UInt64.le_iff_toNat_le.mpr small)
    split
    · rename_i small
      have limit : v.toNat ≤ 0xFF := UInt64.le_iff_toNat_le.mp small
      simp only [Head.leastSize]
      rw [if_neg (by omega), if_pos (by omega)]
      rfl
    · rename_i large
      have exceeds : ¬v.toNat ≤ 0xFF := fun small => large (UInt64.le_iff_toNat_le.mpr small)
      split
      · rename_i small
        have limit : v.toNat ≤ 0xFFFF := UInt64.le_iff_toNat_le.mp small
        simp only [Head.leastSize]
        rw [if_neg (by omega), if_neg (by omega), if_pos (by omega), List.length_cons, be_length]
      · rename_i large
        have exceeds : ¬v.toNat ≤ 0xFFFF := fun small => large (UInt64.le_iff_toNat_le.mpr small)
        split
        · rename_i small
          have limit : v.toNat ≤ 0xFFFFFFFF := UInt64.le_iff_toNat_le.mp small
          simp only [Head.leastSize]
          rw [if_neg (by omega), if_neg (by omega), if_neg (by omega), if_pos (by omega),
            List.length_cons, be_length]
        · rename_i large
          have exceeds : ¬v.toNat ≤ 0xFFFFFFFF := fun small => large (UInt64.le_iff_toNat_le.mpr small)
          simp only [Head.leastSize]
          rw [if_neg (by omega), if_neg (by omega), if_neg (by omega), if_neg (by omega),
            List.length_cons, be_length]

theorem int_length (v : Int64) : (int v).length = (Head.value (.int v.toInt)).leastSize := by
  unfold int
  split
  · rename_i nonneg
    rw [uint_length, toUInt64_of_nonneg (Int64.le_iff_toInt_le.mp nonneg)]
  · rename_i other
    have negative : v.toInt < 0 := Int64.lt_iff_toInt_lt.mp (Int64.not_le.mp other)
    split
    · rename_i small
      have limit : -32 ≤ v.toInt := Int64.le_iff_toInt_le.mp small
      simp only [Head.leastSize]
      rw [if_pos (by omega)]
      rfl
    · rename_i large
      have exceeds : ¬-32 ≤ v.toInt := fun small => large (Int64.le_iff_toInt_le.mpr small)
      split
      · rename_i small
        have limit : -128 ≤ v.toInt := Int64.le_iff_toInt_le.mp small
        simp only [Head.leastSize]
        rw [if_neg (by omega), if_pos (by omega)]
        rfl
      · rename_i large
        have exceeds : ¬-128 ≤ v.toInt := fun small => large (Int64.le_iff_toInt_le.mpr small)
        split
        · rename_i small
          have limit : -32768 ≤ v.toInt := Int64.le_iff_toInt_le.mp small
          simp only [Head.leastSize]
          rw [if_neg (by omega), if_neg (by omega), if_pos (by omega), List.length_cons, be_length]
        · rename_i large
          have exceeds : ¬-32768 ≤ v.toInt := fun small => large (Int64.le_iff_toInt_le.mpr small)
          split
          · rename_i small
            have limit : -2147483648 ≤ v.toInt := Int64.le_iff_toInt_le.mp small
            simp only [Head.leastSize]
            rw [if_neg (by omega), if_neg (by omega), if_neg (by omega), if_pos (by omega),
              List.length_cons, be_length]
          · rename_i large
            have exceeds : ¬-2147483648 ≤ v.toInt :=
              fun small => large (Int64.le_iff_toInt_le.mpr small)
            simp only [Head.leastSize]
            rw [if_neg (by omega), if_neg (by omega), if_neg (by omega), if_neg (by omega),
              List.length_cons, be_length]

theorem str_length (s : Bytes) : (str s).length = (Head.value (.str s)).leastSize := by
  simp only [str, Head.leastSize, List.length_append, Nat.add_comm _ s.length]
  congr 1
  by_cases fix : s.length ≤ 31
  · rw [if_pos fix, if_pos (Nat.lt_succ_of_le fix)]
    rfl
  · rw [if_neg fix, if_neg (mt Nat.le_of_lt_succ fix)]
    by_cases one : s.length ≤ 0xFF
    · rw [if_pos one, if_pos (Nat.lt_succ_of_le one)]
      rfl
    · rw [if_neg one, if_neg (mt Nat.le_of_lt_succ one)]
      by_cases two : s.length ≤ 0xFFFF
      · rw [if_pos two, if_pos (Nat.lt_succ_of_le two), List.length_cons, be_length]
      · rw [if_neg two, if_neg (mt Nat.le_of_lt_succ two), List.length_cons, be_length]

theorem Call.bytes_length (call : Call) : call.bytes.length = call.head.leastSize := by
  cases call with
  | array n => exact array_length n
  | uint v => exact uint_length v
  | int v => exact int_length v
  | str s short => exact str_length s
  | bool b => rfl

/-! ### What a reader finds -/

theorem forall₂_headAs (calls : List Call) :
    List.Forall₂ HeadAs (calls.map Call.head) (calls.map Call.bytes) := by
  induction calls with
  | nil => exact List.Forall₂.nil
  | cons call calls ih => exact List.Forall₂.cons call.headAs ih

/-- A reader that takes one head after another recovers the calls and uses up the bytes,
and each call is written in the fewest bytes that are read as its head. -/
theorem packed_canonical (calls : List Call) :
    readHeads (packed calls) = some (calls.map Call.head) ∧
      ∀ call ∈ calls, ∀ other rest, readHead (other ++ rest) = some (call.head, rest) →
        call.bytes.length ≤ other.length := by
  constructor
  · exact readHeads_flatten (forall₂_headAs calls)
  · intro call _member other rest read
    have least := leastSize_readHead read
    rw [List.length_append] at least
    rw [call.bytes_length]
    exact Nat.le_of_add_le_add_right least

end RanOnline.Net.Packer
