/-
Which texts DecryptAuthData takes for a ciphertext.

Behind the hexadecimal text every stage can be run backwards, so a plaintext has
one ciphertext only.  HexDecode is more generous: strtol reads a sign, white space
and anything that is no digit.
-/
import RanOnline.Servers.AuthCrypto

namespace RanOnline.Servers

open BlockMode CString Word32 Memory

/-! ### Every stage in the other direction -/

theorem encryptRound_decryptRound (sTable : KeyTable) (halves : Halves) (i : Fin 16) :
    encryptRound sTable (decryptRound sTable halves i) i = halves := by
  have first : 2 * (i.val + 1) = 2 * i.val + 2 := by omega
  simp only [encryptRound, decryptRound, first, xor_cancel_right, rotl_rotr, UInt32.sub_add_cancel]
  rw [UInt32.xor_comm halves.a, xor_cancel_right, rotl_rotr, UInt32.sub_add_cancel]

theorem whiten_unwhiten (sTable : KeyTable) (halves : Halves) :
    whiten sTable (unwhiten sTable halves) = halves := by
  simp only [whiten, unwhiten, UInt32.sub_add_cancel]

theorem encryptBlock_decryptBlock (sTable : KeyTable) (block : Block8) :
    encryptBlock sTable (decryptBlock sTable block) = block := by
  have rounds := foldl_reverse_of_inverse (encryptRound_decryptRound sTable)
    (List.finRange 16).reverse (Halves.load block)
  rw [List.reverse_reverse] at rounds
  simp only [decryptBlock, encryptBlock, load_store, whiten_unwhiten]
  rw [rounds, store_load]

/-- For every key table the blocks are permuted, and either function undoes the other;
the rotations in their rounds take their amounts modulo 32. -/
theorem rc5_block_bijective (sTable : KeyTable) :
    (∀ block, decryptBlock sTable (encryptBlock sTable block) = block) ∧
    (∀ block, encryptBlock sTable (decryptBlock sTable block) = block) ∧
    Function.Bijective (encryptBlock sTable) ∧ Function.Bijective (decryptBlock sTable) ∧
    (∀ val shift : UInt32, rotr (rotl val shift) shift = val ∧ rotl (rotr val shift) shift = val) ∧
    ∀ val shift : UInt32, 32 ∣ shift.toNat → rotl val shift = val ∧ rotr val shift = val := by
  have undoes := decryptBlock_encryptBlock sTable
  have redoes := encryptBlock_decryptBlock sTable
  refine ⟨undoes, redoes, ?_, ?_, ?_, ?_⟩
  · exact Function.bijective_iff_has_inverse.mpr ⟨decryptBlock sTable, undoes, redoes⟩
  · exact Function.bijective_iff_has_inverse.mpr ⟨encryptBlock sTable, redoes, undoes⟩
  · intro val shift
    exact ⟨rotr_rotl val shift, rotl_rotr val shift⟩
  · intro val shift multiple
    exact ⟨rotl_of_dvd val multiple, rotr_of_dvd val multiple⟩

theorem encrypt_decrypt_blocks (sTable : KeyTable) (bytes : Bytes) (whole : 8 ∣ bytes.length) :
    ofBlocks (cbcEncrypt (rc5 sTable) initialIv (toBlocks
      (ofBlocks (cbcDecrypt (rc5 sTable) initialIv (toBlocks bytes))))) = bytes := by
  rw [toBlocks_ofBlocks, cbcEncrypt_decrypt (rc5 sTable) (encryptBlock_decryptBlock sTable),
    ofBlocks_toBlocks bytes whole]

theorem cbcDecrypt_bytes_dvd (sTable : KeyTable) (blocks : List Block8) :
    8 ∣ (ofBlocks (cbcDecrypt (rc5 sTable) initialIv blocks)).length := by
  rw [ofBlocks_length]
  exact Nat.dvd_mul_right 8 _

/-- Only the ciphertext of a plaintext decrypts to it. -/
theorem hexDecode_of_decryptAuthData {hex : Bytes} (accepted : decryptAuthData hex ≠ []) :
    hexDecode hex = cipherText (decryptAuthData hex) := by
  unfold decryptAuthData at accepted ⊢
  by_cases refused : hexDecode hex = [] ∨ (hexDecode hex).length % 8 ≠ 0
  · simp only [if_pos refused] at accepted
    exact absurd rfl accepted
  · simp only [if_neg refused] at accepted ⊢
    have whole : 8 ∣ (hexDecode hex).length := by
      apply Nat.dvd_of_mod_eq_zero
      by_contra ragged
      exact refused (Or.inr ragged)
    cases unpadded : unpad 8 (ofBlocks (cbcDecrypt (rc5 (keyExpand keyStr)) initialIv
        (toBlocks (hexDecode hex)))) with
    | none =>
        rw [unpadded] at accepted
        exact absurd rfl accepted
    | some plaintext =>
        have padded := pad_unpad (cbcDecrypt_bytes_dvd (keyExpand keyStr) _) unpadded
        rw [Option.getD_some, cipherText, padded, encrypt_decrypt_blocks _ _ whole]

/-! ### The text -/

theorem hexEncode_hexPairs (hex : Bytes) (even : hex.length % 2 = 0)
    (digits : ∀ c ∈ hex, isDigit 16 c = true) :
    hexEncode (hexPairs hex) = hex.map lowerHex := by
  fun_induction hexPairs hex with
  | case1 first second rest ih =>
      rw [List.length_cons, List.length_cons] at even
      have later := ih (by omega) (fun c member =>
        digits c (List.mem_cons_of_mem first (List.mem_cons_of_mem second member)))
      have byte := hexByte_strtol (digits first List.mem_cons_self)
        (digits second (List.mem_cons_of_mem first List.mem_cons_self))
      rw [hexEncode, List.flatMap_cons, byte]
      change [lowerHex first, lowerHex second] ++ hexEncode (hexPairs rest) = _
      rw [later]
      rfl
  | case2 hex short =>
      cases hex with
      | nil => rfl
      | cons first rest =>
          cases rest with
          | nil =>
              rw [List.length_singleton] at even
              omega
          | cons second rest => exact absurd rfl (short first second rest)

theorem hexEncode_digits (bytes : Bytes) :
    ∀ c ∈ hexEncode bytes, isDigit 16 c = true ∧ lowerHex c = c := by
  intro c member
  obtain ⟨byte, _present, inside⟩ := List.mem_flatMap.mp member
  have bound := byte.toNat_lt
  simp only [hexByte, List.mem_cons, List.not_mem_nil, or_false] at inside
  rcases inside with rfl | rfl
  · exact hexDigit_isDigit _ (by omega)
  · exact hexDigit_isDigit _ (by omega)

theorem hexEncode_lower (bytes : Bytes) : (hexEncode bytes).map lowerHex = hexEncode bytes := by
  rw [List.map_congr_left (fun c member => (hexEncode_digits bytes c member).2)]
  exact List.map_id' _

/-- Of the texts that decrypt to something, those made of hexadecimal digits are the
encrypted plaintext up to the case of the digits, and no others.  The bytes behind
the text are the ciphertext in any case. -/
theorem decryptAuthData_canonical_iff (hex : Bytes) (accepted : decryptAuthData hex ≠ []) :
    ((encryptAuthData (decryptAuthData hex)).map lowerHex = hex.map lowerHex ↔
      ∀ c ∈ hex, isDigit 16 c = true) ∧
    hexDecode hex = cipherText (decryptAuthData hex) ∧
    hex.length = 16 * ((decryptAuthData hex).length / 8 + 1) := by
  have decoded := hexDecode_of_decryptAuthData accepted
  have even : hex.length % 2 = 0 := by
    by_contra odd
    rw [hexDecode, if_pos odd] at decoded
    have length := cipherText_length (decryptAuthData hex)
    rw [← decoded, List.length_nil] at length
    omega
  have pairs : hexPairs hex = cipherText (decryptAuthData hex) := by
    rw [hexDecode, if_neg (not_not_intro even)] at decoded
    exact decoded
  have written : encryptAuthData (decryptAuthData hex) = hexEncode (hexPairs hex) := by
    rw [pairs]
    rfl
  constructor
  · rw [written, hexEncode_lower]
    constructor
    · intro same c member
      have lower : lowerHex c ∈ hexEncode (hexPairs hex) := by
        rw [same]
        exact List.mem_map_of_mem member
      rw [← isDigit_lowerHex]
      exact (hexEncode_digits _ _ lower).1
    · exact hexEncode_hexPairs hex even
  · refine ⟨decoded, ?_⟩
    have length := hexPairs_length hex
    rw [pairs, cipherText_length] at length
    omega

/-- Eight bytes, of which a sign stands for a zero and two letters for 0x00. -/
def looseHex : Bytes := "+6zze8a0372c6880".toUTF8.toList

theorem decryptAuthData_loose :
    decryptAuthData looseHex = [110] ∧
      (encryptAuthData (decryptAuthData looseHex)).map lowerHex ≠ looseHex.map lowerHex := by
  decide +kernel

theorem decryptAuthData_canonical_iff_loose :
    ((encryptAuthData (decryptAuthData looseHex)).map lowerHex = looseHex.map lowerHex ↔
      ∀ c ∈ looseHex, isDigit 16 c = true) ∧
    hexDecode looseHex = cipherText (decryptAuthData looseHex) ∧
    looseHex.length = 16 * ((decryptAuthData looseHex).length / 8 + 1) :=
  decryptAuthData_canonical_iff looseHex (by decide +kernel)

end RanOnline.Servers
