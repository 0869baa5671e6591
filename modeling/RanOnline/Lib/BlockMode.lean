/-
Cipher block chaining and PKCS#7 padding.

Blocks are of any type with a masking operation that undoes itself; the cipher
is any pair of functions of which one inverts the other.
-/
import RanOnline.Lib.Memory

namespace RanOnline.BlockMode

open Memory

/-! ### Rounds and their inverses -/

/-- Rounds undone one by one, last round first, give back where they started. -/
theorem foldl_reverse_of_inverse {ι β : Type} {forward backward : β → ι → β}
    (inverse : ∀ state round, backward (forward state round) round = state)
    (rounds : List ι) (state : β) :
    rounds.reverse.foldl backward (rounds.foldl forward state) = state := by
  induction rounds generalizing state with
  | nil => rfl
  | cons round rounds ih =>
      rw [List.reverse_cons, List.foldl_append]
      change backward (rounds.reverse.foldl backward
        (rounds.foldl forward (forward state round))) round = state
      rw [ih, inverse]

/-! ### Chaining -/

structure Chaining (β : Type) where
  encrypt : β → β
  decrypt : β → β
  mask : β → β → β
  mask_mask : ∀ block chained, mask (mask block chained) chained = block

variable {β : Type} (cipher : Chaining β)

def cbcEncrypt : β → List β → List β
  | _, [] => []
  | iv, block :: blocks =>
      let sealed := cipher.encrypt (cipher.mask block iv)
      sealed :: cbcEncrypt sealed blocks

def cbcDecrypt : β → List β → List β
  | _, [] => []
  | iv, block :: blocks =>
      cipher.mask (cipher.decrypt block) iv :: cbcDecrypt block blocks

theorem cbcEncrypt_length (iv : β) (blocks : List β) :
    (cbcEncrypt cipher iv blocks).length = blocks.length := by
  induction blocks generalizing iv with
  | nil => rfl
  | cons block blocks ih => simp only [cbcEncrypt, List.length_cons, ih]

theorem cbcDecrypt_encrypt (inverse : ∀ block, cipher.decrypt (cipher.encrypt block) = block)
    (iv : β) (blocks : List β) :
    cbcDecrypt cipher iv (cbcEncrypt cipher iv blocks) = blocks := by
  induction blocks generalizing iv with
  | nil => rfl
  | cons block blocks ih =>
      simp only [cbcEncrypt, cbcDecrypt, inverse, cipher.mask_mask, ih]

/-- Where encryption inverts decryption too, every list of blocks is the ciphertext
of what it decrypts to. -/
theorem cbcEncrypt_decrypt (inverse : ∀ block, cipher.encrypt (cipher.decrypt block) = block)
    (iv : β) (blocks : List β) :
    cbcEncrypt cipher iv (cbcDecrypt cipher iv blocks) = blocks := by
  induction blocks generalizing iv with
  | nil => rfl
  | cons block blocks ih =>
      simp only [cbcDecrypt, cbcEncrypt, cipher.mask_mask, inverse, ih]

/-! ### Padding -/

/-- The number of bytes missing to the next multiple of `size`, never none. -/
def padCount (size length : Nat) : Nat := size - length % size

def pad (size : Nat) (bytes : Bytes) : Bytes :=
  bytes ++ List.replicate (padCount size bytes.length) (UInt8.ofNat (padCount size bytes.length))

/-- The bytes before the padding; `none` where there is no padding of a whole
block at most. -/
def unpad (size : Nat) (padded : Bytes) : Option Bytes :=
  match padded.getLast? with
  | none => none
  | some padLen =>
      if size < padLen.toNat ∨ padLen = 0 then none
      else if (padded.drop (padded.length - padLen.toNat)).all (· = padLen) then
        some (padded.take (padded.length - padLen.toNat))
      else none

theorem padCount_bounds {size : Nat} (positive : 0 < size) (length : Nat) :
    0 < padCount size length ∧ padCount size length ≤ size := by
  have remainder := Nat.mod_lt length positive
  unfold padCount
  omega

theorem pad_length_dvd {size : Nat} (positive : 0 < size) (bytes : Bytes) :
    size ∣ (pad size bytes).length := by
  have remainder := Nat.mod_lt bytes.length positive
  have division := Nat.div_add_mod bytes.length size
  refine ⟨bytes.length / size + 1, ?_⟩
  rw [pad, List.length_append, List.length_replicate, padCount, Nat.mul_add, Nat.mul_one]
  omega

theorem unpad_pad {size : Nat} (positive : 0 < size) (small : size < 256) (bytes : Bytes) :
    unpad size (pad size bytes) = some bytes := by
  have bounds := padCount_bounds positive bytes.length
  have value : (UInt8.ofNat (padCount size bytes.length)).toNat = padCount size bytes.length := by
    rw [UInt8.toNat_ofNat']
    exact Nat.mod_eq_of_lt (by omega)
  have last : (pad size bytes).getLast? = some (UInt8.ofNat (padCount size bytes.length)) := by
    rw [pad, List.getLast?_append, List.getLast?_replicate, if_neg (by omega)]
    rfl
  have nonzero : ¬UInt8.ofNat (padCount size bytes.length) = 0 := by
    intro zero
    have zeroValue := congrArg UInt8.toNat zero
    rw [value] at zeroValue
    change _ = 0 at zeroValue
    omega
  have start : (pad size bytes).length - padCount size bytes.length = bytes.length := by
    rw [pad, List.length_append, List.length_replicate, Nat.add_sub_cancel]
  simp only [unpad, last, value, start]
  have accepted : ¬(size < padCount size bytes.length ∨
      UInt8.ofNat (padCount size bytes.length) = 0) := by
    rintro (long | zero)
    · omega
    · exact nonzero zero
  rw [if_neg accepted, pad, List.drop_left, List.take_left, if_pos]
  rw [List.all_replicate]
  simp

/-- What unpads is the padding of what it unpads to. -/
theorem pad_unpad {size : Nat} {padded bytes : Bytes} (whole : size ∣ padded.length)
    (unpadded : unpad size padded = some bytes) : pad size bytes = padded := by
  unfold unpad at unpadded
  cases last : padded.getLast? with
  | none =>
      rw [last] at unpadded
      cases unpadded
  | some padLen =>
      simp only [last] at unpadded
      by_cases refused : size < padLen.toNat ∨ padLen = 0
      · rw [if_pos refused] at unpadded
        cases unpadded
      · rw [if_neg refused] at unpadded
        by_cases filled : (padded.drop (padded.length - padLen.toNat)).all (· = padLen) = true
        · rw [if_pos filled] at unpadded
          have start := Option.some.inj unpadded
          have positive : 0 < padLen.toNat := by
            apply Nat.pos_of_ne_zero
            intro zero
            exact refused (Or.inr (UInt8.toNat_inj.mp zero))
          have limit : padLen.toNat ≤ size := Nat.le_of_not_lt fun long => refused (Or.inl long)
          have nonempty : 0 < padded.length := by
            apply List.length_pos_of_ne_nil
            intro empty
            rw [empty] at last
            cases last
          have room : size ≤ padded.length := Nat.le_of_dvd nonempty whole
          have length : bytes.length = padded.length - padLen.toNat := by
            rw [← start, List.length_take]
            omega
          have count : padCount size bytes.length = padLen.toNat := by
            obtain ⟨blocks, blocksLength⟩ := whole
            unfold padCount
            have remainder : (padded.length - padLen.toNat) % size = size - padLen.toNat := by
              have split : padded.length - padLen.toNat =
                  (size - padLen.toNat) + size * (blocks - 1) := by
                cases blocks with
                | zero =>
                    rw [Nat.mul_zero] at blocksLength
                    omega
                | succ blocks =>
                    rw [Nat.mul_succ] at blocksLength
                    rw [Nat.add_sub_cancel]
                    omega
              rw [split, Nat.add_mul_mod_self_left, Nat.mod_eq_of_lt (by omega)]
            rw [length, remainder]
            omega
          have tail : padded.drop (padded.length - padLen.toNat) =
              List.replicate padLen.toNat padLen := by
            apply List.eq_replicate_iff.mpr
            constructor
            · rw [List.length_drop]
              omega
            · intro byte member
              exact of_decide_eq_true (List.all_eq_true.mp filled byte member)
          rw [pad, count, UInt8.ofNat_toNat, ← tail, ← start, List.take_append_drop]
        · rw [if_neg filled] at unpadded
          cases unpadded

/-! ### Splitting into blocks of eight bytes -/

abbrev Block8 := Vector UInt8 8

/-- The whole blocks of a byte string; a shorter rest is left out. -/
def toBlocks : Bytes → List Block8
  | b0 :: b1 :: b2 :: b3 :: b4 :: b5 :: b6 :: b7 :: rest =>
      #v[b0, b1, b2, b3, b4, b5, b6, b7] :: toBlocks rest
  | _ => []

def ofBlocks (blocks : List Block8) : Bytes := blocks.flatMap Vector.toList

theorem toBlocks_ofBlocks (blocks : List Block8) : toBlocks (ofBlocks blocks) = blocks := by
  induction blocks with
  | nil => rfl
  | cons block blocks ih =>
      obtain ⟨bytes, size⟩ := block
      obtain ⟨items⟩ := bytes
      match items, size with
      | [b0, b1, b2, b3, b4, b5, b6, b7], _size =>
          change #v[b0, b1, b2, b3, b4, b5, b6, b7] :: toBlocks (ofBlocks blocks) = _
          rw [ih]

theorem ofBlocks_toBlocks (bytes : Bytes) (whole : 8 ∣ bytes.length) :
    ofBlocks (toBlocks bytes) = bytes := by
  fun_induction toBlocks bytes with
  | case1 b0 b1 b2 b3 b4 b5 b6 b7 rest ih =>
      simp only [List.length_cons] at whole
      have shorter := ih (by omega)
      simp only [ofBlocks, List.flatMap_cons] at shorter ⊢
      rw [shorter]
      rfl
  | case2 bytes short =>
      match bytes, short, whole with
      | [], _short, _whole => rfl
      | [_], _short, whole | [_, _], _short, whole | [_, _, _], _short, whole
      | [_, _, _, _], _short, whole | [_, _, _, _, _], _short, whole
      | [_, _, _, _, _, _], _short, whole | [_, _, _, _, _, _, _], _short, whole =>
          simp only [List.length_cons, List.length_nil] at whole
          omega
      | b0 :: b1 :: b2 :: b3 :: b4 :: b5 :: b6 :: b7 :: rest, short, _whole =>
          exact absurd rfl (short b0 b1 b2 b3 b4 b5 b6 b7 rest)

theorem ofBlocks_length (blocks : List Block8) :
    (ofBlocks blocks).length = 8 * blocks.length := by
  induction blocks with
  | nil => rfl
  | cons block blocks ih =>
      simp only [ofBlocks, List.flatMap_cons, List.length_append, Vector.length_toList,
        List.length_cons] at ih ⊢
      omega

end RanOnline.BlockMode
