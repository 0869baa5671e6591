/-
Strings of ASCII characters as bytes, and the text of a number.
-/
import Mathlib.Data.List.Basic
import RanOnline.Lib.Memory

namespace RanOnline.Text

open Memory

private theorem toList_loop_eq (bytes : ByteArray) (index : Nat) (reversed : List UInt8) :
    ByteArray.toList.loop bytes index reversed =
      reversed.reverse ++ bytes.data.toList.drop index := by
  fun_induction ByteArray.toList.loop bytes index reversed with
  | case1 index reversed inside ih =>
      have bound : index < bytes.data.toList.length := by simpa using inside
      have here : bytes.get! index = bytes.data.toList[index] := by
        change bytes.data[index]! = _
        rw [getElem!_pos bytes.data index inside, Array.getElem_toList]
      rw [ih, List.drop_eq_getElem_cons bound, here, List.reverse_cons, List.append_assoc,
        List.singleton_append]
  | case2 index reversed outside =>
      rw [List.drop_eq_nil_of_le (by simpa using outside), List.append_nil]

theorem toList_eq_data (bytes : ByteArray) : bytes.toList = bytes.data.toList := by
  rw [ByteArray.toList, toList_loop_eq, List.drop_zero]
  rfl

/-- One byte for each character below 128. -/
theorem toUTF8_of_ascii {chars : List Char} (ascii : ∀ c ∈ chars, c.toNat < 128) :
    (String.ofList chars).toUTF8.toList = chars.map fun c => UInt8.ofNat c.toNat := by
  rw [toList_eq_data, String.toUTF8, String.toByteArray_ofList, List.utf8Encode,
    List.toList_data_toByteArray]
  induction chars with
  | nil => rfl
  | cons c chars ih =>
      have small := ascii c List.mem_cons_self
      have one : String.utf8EncodeChar c = [UInt8.ofNat c.toNat] := by
        rw [String.utf8EncodeChar]
        exact if_pos (Nat.le_of_lt_succ small)
      rw [List.flatMap_cons, one, List.map_cons,
        ih fun other member => ascii other (List.mem_cons_of_mem _ member)]
      rfl

/-- The bytes of a number in decimal: a minus sign and digits. -/
def isDecimal (b : UInt8) : Bool := b = 45 || (48 ≤ b && b ≤ 57)

private theorem digit_bounds {c : Char} (digit : c.isDigit = true) :
    48 ≤ c.toNat ∧ c.toNat ≤ 57 := by
  simp only [Char.isDigit, Bool.and_eq_true, decide_eq_true_eq] at digit
  exact ⟨UInt32.le_iff_toNat_le.mp digit.1, UInt32.le_iff_toNat_le.mp digit.2⟩

private theorem isDecimal_of_bounds {value : Nat} (least : 48 ≤ value) (most : value ≤ 57) :
    isDecimal (UInt8.ofNat value) = true := by
  have every : ∀ offset < 10, isDecimal (UInt8.ofNat (48 + offset)) = true := by decide
  have here := every (value - 48) (by omega)
  rwa [Nat.add_sub_cancel' least] at here

theorem toString_nat_isDecimal (value : Nat) :
    ∀ b ∈ (toString value).toUTF8.toList, isDecimal b = true := by
  have digits : ∀ c ∈ Nat.toDigits 10 value, 48 ≤ c.toNat ∧ c.toNat ≤ 57 :=
    fun c member => digit_bounds (Nat.isDigit_of_mem_toDigits (by decide) (by decide) member)
  change ∀ b ∈ (String.ofList (Nat.toDigits 10 value)).toUTF8.toList, isDecimal b = true
  rw [toUTF8_of_ascii fun c member => by have bounds := digits c member; omega]
  intro b member
  obtain ⟨c, present, same⟩ := List.mem_map.mp member
  rw [← same]
  exact isDecimal_of_bounds (digits c present).1 (digits c present).2

theorem toString_isDecimal (value : Int) :
    ∀ b ∈ (toString value).toUTF8.toList, isDecimal b = true := by
  cases value with
  | ofNat value => exact toString_nat_isDecimal value
  | negSucc value =>
      have split : (toString (Int.negSucc value)).toUTF8.toList =
          45 :: (toString (value + 1)).toUTF8.toList := by
        change ("-" ++ toString (value + 1)).toUTF8.toList = _
        rw [toList_eq_data, toList_eq_data, String.toUTF8, String.toByteArray_append,
          ByteArray.toList_data_append]
        rfl
      rw [split]
      intro b member
      rcases List.mem_cons.mp member with sign | digit
      · rw [sign]
        rfl
      · exact toString_nat_isDecimal (value + 1) b digit

end RanOnline.Text
