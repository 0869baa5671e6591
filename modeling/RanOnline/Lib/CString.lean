/-
Byte strings as the C library reads them.

`strtol` follows the documented grammar: white space, a sign, for base 16 an
optional prefix, then digits up to the first byte that is none.  The terminating
NUL is such a byte, so a string ends where its bytes do.
-/
import Mathlib.Algebra.Group.Nat.Defs
import Mathlib.Algebra.Ring.Int.Defs
import RanOnline.Lib.Memory

namespace RanOnline.CString

open Memory

def isSpace (c : UInt8) : Bool := c = 32 || (9 ≤ c && c ≤ 13)

def digitValue (c : UInt8) : Option Nat :=
  if 48 ≤ c ∧ c ≤ 57 then some (c.toNat - 48)
  else if 97 ≤ c ∧ c ≤ 122 then some (c.toNat - 97 + 10)
  else if 65 ≤ c ∧ c ≤ 90 then some (c.toNat - 65 + 10)
  else none

def isDigit (base : Nat) (c : UInt8) : Bool :=
  match digitValue c with
  | some value => value < base
  | none => false

def digitsValue (base : Nat) : Nat → Bytes → Nat
  | value, [] => value
  | value, c :: rest =>
      match digitValue c with
      | some digit => if digit < base then digitsValue base (value * base + digit) rest else value
      | none => value

def dropHexPrefix : Bytes → Bytes
  | 48 :: x :: digit :: rest =>
      if (x = 120 ∨ x = 88) ∧ isDigit 16 digit then digit :: rest else 48 :: x :: digit :: rest
  | bytes => bytes

/-- The sign of a number and what follows it; 45 and 43 are minus and plus. -/
def splitSign : Bytes → Bool × Bytes
  | 45 :: rest => (true, rest)
  | 43 :: rest => (false, rest)
  | bytes => (false, bytes)

def longMax : Int := 2 ^ 63 - 1
def longMin : Int := -2 ^ 63

def strtol (s : Bytes) (base : Nat) : Int :=
  let signed := splitSign (s.dropWhile isSpace)
  let digits := if base = 16 then dropHexPrefix signed.2 else signed.2
  let magnitude : Int := digitsValue base 0 digits
  max longMin (min longMax (if signed.1 then -magnitude else magnitude))

/-- The low 32 bits of a number, as a signed int. -/
def toInt32 (value : Int) : Int := Int.bmod value (2 ^ 32)

def atoi (s : Bytes) : Int := toInt32 (strtol s 10)

/-! ### The length of a string in memory -/

/-- A scan for the NUL that has `remaining` bytes of the block before it. -/
def scanNul (block : Block) : Nat → Nat → Checked Nat
  | 0, _offset => .error .outOfBounds
  | remaining + 1, offset => do
      let c ← block.read offset
      if c = 0 then .ok 0
      else
        let rest ← scanNul block remaining (offset + 1)
        .ok (rest + 1)

def strlen (block : Block) (offset : Nat) : Checked Nat :=
  scanNul block (block.size - offset) offset

private theorem read_ofBytes {bytes rest : Bytes} {offset : Nat} {c : UInt8}
    (suffix : bytes.drop offset = c :: rest) : (Block.ofBytes bytes).read offset = .ok c := by
  have inside : offset < bytes.length := by
    by_contra past
    rw [List.drop_eq_nil_of_le (Nat.not_lt.mp past)] at suffix
    cases suffix
  have shown := (Block.shows_ofBytes bytes).read inside
  rw [Nat.zero_add] at shown
  rw [shown, List.getD_eq_getElem?_getD]
  have head : bytes[offset]? = some c := by
    rw [← List.head?_drop, suffix, List.head?_cons]
  rw [head, Option.getD_some]

/-- The scan reads the bytes up to the first NUL, and runs out of the block where
none is left. -/
theorem scanNul_ofBytes {bytes rest : Bytes} {offset : Nat} (suffix : bytes.drop offset = rest) :
    scanNul (Block.ofBytes bytes) rest.length offset =
      if 0 ∈ rest then .ok (rest.takeWhile (· ≠ 0)).length else .error .outOfBounds := by
  induction rest generalizing offset with
  | nil => rfl
  | cons c rest ih =>
      have next : bytes.drop (offset + 1) = rest := by
        rw [← List.drop_drop, suffix, List.drop_one, List.tail_cons]
      rw [List.length_cons, scanNul, read_ofBytes suffix, ok_bind]
      by_cases nul : c = 0
      · rw [if_pos nul, if_pos (by rw [nul]; exact List.mem_cons_self), nul]
        rfl
      · have present : 0 ∈ c :: rest ↔ 0 ∈ rest := by
          rw [List.mem_cons]
          exact or_iff_right fun same => nul same.symm
        rw [if_neg nul, ih next, List.takeWhile_cons_of_pos (by simpa using nul), List.length_cons]
        by_cases more : 0 ∈ rest
        · rw [if_pos more, if_pos (present.mpr more)]
          rfl
        · rw [if_neg more, if_neg (fun here => more (present.mp here))]
          rfl

theorem strlen_ofBytes (bytes : Bytes) (offset : Nat) :
    strlen (Block.ofBytes bytes) offset =
      if 0 ∈ bytes.drop offset then .ok ((bytes.drop offset).takeWhile (· ≠ 0)).length
      else .error .outOfBounds := by
  rw [← scanNul_ofBytes rfl, List.length_drop]
  rfl

/-- A std::string made from a `char*`. -/
def readCString (block : Block) (offset : Nat) : Checked Bytes := do
  let length ← strlen block offset
  block.readRange offset length

/-- A std::string of at most `limit` of the characters before the NUL. -/
def readString (block : Block) (offset limit : Nat) : Checked Bytes := do
  let length ← strlen block offset
  block.readRange offset (min length limit)

private theorem readRange_front {bytes : Bytes} {offset : Nat} (nul : 0 ∈ bytes.drop offset)
    {count : Nat} (bound : count ≤ ((bytes.drop offset).takeWhile (· ≠ 0)).length) :
    (Block.ofBytes bytes).readRange offset count =
      .ok (((bytes.drop offset).takeWhile (· ≠ 0)).take count) := by
  have inside : offset ≤ bytes.length := by
    by_contra past
    rw [List.drop_eq_nil_of_le (by omega)] at nul
    cases nul
  have shown := (Block.shows_ofBytes bytes).drop inside
  rw [Nat.zero_add] at shown
  have front : (bytes.drop offset).takeWhile (· ≠ 0) <+: bytes.drop offset :=
    List.takeWhile_prefix _
  have whole := front.length_le
  have same := List.prefix_iff_eq_take.mp front
  rw [shown.readRange (by omega), same, List.take_take, Nat.min_eq_left bound]

theorem readCString_ofBytes (bytes : Bytes) (offset : Nat) :
    readCString (Block.ofBytes bytes) offset =
      if 0 ∈ bytes.drop offset then .ok ((bytes.drop offset).takeWhile (· ≠ 0))
      else .error .outOfBounds := by
  unfold readCString
  rw [strlen_ofBytes]
  by_cases nul : 0 ∈ bytes.drop offset
  · rw [if_pos nul, if_pos nul, ok_bind, readRange_front nul (Nat.le_refl _), List.take_length]
  · rw [if_neg nul, if_neg nul]
    rfl

theorem readString_ofBytes (bytes : Bytes) (offset limit : Nat) :
    readString (Block.ofBytes bytes) offset limit =
      if 0 ∈ bytes.drop offset then
        .ok (((bytes.drop offset).takeWhile (· ≠ 0)).take limit)
      else .error .outOfBounds := by
  unfold readString
  rw [strlen_ofBytes]
  by_cases nul : 0 ∈ bytes.drop offset
  · rw [if_pos nul, if_pos nul, ok_bind, readRange_front nul (Nat.min_le_left _ _), Nat.min_comm,
      ← List.take_take, List.take_length]
  · rw [if_neg nul, if_neg nul]
    rfl

/-! ### Two hexadecimal digits -/

def hexDigit (value : Nat) : UInt8 :=
  if value < 10 then UInt8.ofNat (48 + value) else UInt8.ofNat (97 + value - 10)

/-- What a stream writes for a byte with std::hex, setw(2) and setfill('0'). -/
def hexByte (b : UInt8) : Bytes := [hexDigit (b.toNat / 16), hexDigit (b.toNat % 16)]

theorem digitValue_hexDigit :
    ∀ value : Nat, value < 16 → digitValue (hexDigit value) = some value := by
  decide

/-- The digit as std::hex writes it: letters in lower case. -/
def lowerHex (c : UInt8) : UInt8 := if 65 ≤ c ∧ c ≤ 70 then c + 32 else c

private theorem byte_cases {property : UInt8 → Prop}
    (checked : ∀ value : Nat, value < 256 → property (UInt8.ofNat value)) (c : UInt8) :
    property c := by
  have holds := checked c.toNat c.toNat_lt
  rw [UInt8.ofNat_toNat] at holds
  exact holds

/-- A hexadecimal digit is no white space and no sign, and stands for its value in
either case. -/
theorem isDigit_hex (c : UInt8) :
    isDigit 16 c = true → isSpace c = false ∧ c ≠ 45 ∧ c ≠ 43 ∧
      ∃ value, value < 16 ∧ digitValue c = some value ∧ lowerHex c = hexDigit value := by
  apply @byte_cases (fun c => isDigit 16 c = true → isSpace c = false ∧ c ≠ 45 ∧ c ≠ 43 ∧
    ∃ value, value < 16 ∧ digitValue c = some value ∧ lowerHex c = hexDigit value)
  decide +kernel

theorem isDigit_lowerHex (c : UInt8) : isDigit 16 (lowerHex c) = isDigit 16 c := by
  apply @byte_cases (fun c => isDigit 16 (lowerHex c) = isDigit 16 c)
  decide +kernel

theorem hexDigit_isDigit : ∀ value : Nat, value < 16 →
    isDigit 16 (hexDigit value) = true ∧ lowerHex (hexDigit value) = hexDigit value := by
  decide

theorem strtol_hexDigits {first second : UInt8} {high low : Nat}
    (firstDigit : isDigit 16 first = true) (firstValue : digitValue first = some high)
    (highSmall : high < 16) (secondValue : digitValue second = some low) (lowSmall : low < 16) :
    strtol [first, second] 16 = (high * 16 + low : Nat) := by
  obtain ⟨noSpace, noMinus, noPlus, _value⟩ := isDigit_hex first firstDigit
  have signed : splitSign ([first, second].dropWhile isSpace) = (false, [first, second]) := by
    simp only [List.dropWhile_cons, noSpace, Bool.false_eq_true, if_false]
    unfold splitSign
    split
    · rename_i same
      exact absurd (List.cons.inj same).1 noMinus
    · rename_i same
      exact absurd (List.cons.inj same).1 noPlus
    · rfl
  have digits : dropHexPrefix [first, second] = [first, second] := by
    unfold dropHexPrefix
    split
    · rename_i same
      exact absurd (congrArg List.length same) (by simp)
    · rfl
  have value : digitsValue 16 0 [first, second] = high * 16 + low := by
    simp only [digitsValue, firstValue, secondValue, highSmall, lowSmall, if_true, Nat.zero_mul,
      Nat.zero_add]
  simp only [strtol, signed, if_true, digits, value, Bool.false_eq_true, if_false, longMin, longMax]
  omega

theorem strtol_hexByte (b : UInt8) : strtol (hexByte b) 16 = b.toNat := by
  have bound := b.toNat_lt
  have high : b.toNat / 16 < 16 := by omega
  have low : b.toNat % 16 < 16 := by omega
  have value := strtol_hexDigits (hexDigit_isDigit _ high).1 (digitValue_hexDigit _ high) high
    (digitValue_hexDigit _ low) low
  rw [hexByte, value]
  omega

/-- The byte that two digits stand for is written with them again, in lower case. -/
theorem hexByte_strtol {first second : UInt8} (firstDigit : isDigit 16 first = true)
    (secondDigit : isDigit 16 second = true) :
    hexByte (UInt8.ofInt (strtol [first, second] 16)) = [lowerHex first, lowerHex second] := by
  obtain ⟨_space, _minus, _plus, high, highSmall, firstValue, firstLower⟩ :=
    isDigit_hex first firstDigit
  obtain ⟨_space, _minus, _plus, low, lowSmall, secondValue, secondLower⟩ :=
    isDigit_hex second secondDigit
  have byte : (UInt8.ofInt ((high * 16 + low : Nat) : Int)).toNat = high * 16 + low := by
    have small : (((high * 16 + low : Nat) : Int) % 2 ^ 8).toNat = high * 16 + low := by omega
    rw [UInt8.ofInt, small, UInt8.toNat_ofNat']
    exact Nat.mod_eq_of_lt (by omega)
  rw [strtol_hexDigits firstDigit firstValue highSmall secondValue lowSmall, hexByte, byte,
    firstLower, secondLower]
  have quotient : (high * 16 + low) / 16 = high := by omega
  have remainder : (high * 16 + low) % 16 = low := by omega
  rw [quotient, remainder]

end RanOnline.CString
