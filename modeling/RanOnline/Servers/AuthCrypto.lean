/-
RC5-32/16 in CBC mode for szAuthData (servers/authserver/auth_crypto.cpp).
-/
import RanOnline.Lib.BlockMode
import RanOnline.Lib.CString
import RanOnline.Lib.Word32

namespace RanOnline.Servers

open BlockMode CString Word32 Memory

/-! ### RC5 -/

def magicP : UInt32 := 0xb7e15163
def magicQ : UInt32 := 0x9e3779b9

/-- `2 * (r + 1)` words for the 16 rounds. -/
abbrev KeyTable := Vector UInt32 34

def magicTable : KeyTable :=
  (List.finRange 33).foldl
    (fun sTable j => sTable.set (j.val + 1) (sTable[j.val] + magicQ))
    ((Vector.replicate 34 0).set 0 magicP)

structure KeyMix (c : Nat) where
  a : UInt32
  b : UInt32
  i : Fin 34
  j : Fin c
  sTable : KeyTable
  l : Vector UInt32 c

def KeyMix.step {c : Nat} (mix : KeyMix c) : KeyMix c :=
  let a := rotl (mix.sTable[mix.i] + mix.a + mix.b) 3
  let b := rotl (mix.l[mix.j] + a + mix.b) (a + mix.b)
  { a := a
    b := b
    i := ⟨(mix.i + 1) % 34, Nat.mod_lt _ (by decide)⟩
    j := ⟨(mix.j + 1) % c, Nat.mod_lt _ (Fin.pos mix.j)⟩
    sTable := mix.sTable.set mix.i a
    l := mix.l.set mix.j b }

/-- The key in words, its last bytes padded with zero. -/
def keyWords (key : Bytes) : Vector UInt32 (max ((key.length + 3) / 4) 1) :=
  Vector.ofFn fun word => joinLE32 (key.getD (4 * word) 0) (key.getD (4 * word + 1) 0)
    (key.getD (4 * word + 2) 0) (key.getD (4 * word + 3) 0)

def keyExpand (key : Bytes) : KeyTable :=
  let c := max ((key.length + 3) / 4) 1
  let start : KeyMix c :=
    { a := 0
      b := 0
      i := 0
      j := ⟨0, Nat.lt_of_lt_of_le Nat.one_pos (Nat.le_max_right _ _)⟩
      sTable := magicTable
      l := keyWords key }
  (Nat.iterate KeyMix.step (3 * max 34 c) start).sTable

structure Halves where
  a : UInt32
  b : UInt32
  deriving DecidableEq, Repr

def Halves.load (inBlock : Block8) : Halves :=
  { a := joinLE32 inBlock[0] inBlock[1] inBlock[2] inBlock[3]
    b := joinLE32 inBlock[4] inBlock[5] inBlock[6] inBlock[7] }

def Halves.store (halves : Halves) : Block8 :=
  #v[(halves.a &&& 0xFF).toUInt8, ((halves.a >>> 8) &&& 0xFF).toUInt8,
    ((halves.a >>> 16) &&& 0xFF).toUInt8, ((halves.a >>> 24) &&& 0xFF).toUInt8,
    (halves.b &&& 0xFF).toUInt8, ((halves.b >>> 8) &&& 0xFF).toUInt8,
    ((halves.b >>> 16) &&& 0xFF).toUInt8, ((halves.b >>> 24) &&& 0xFF).toUInt8]

def encryptRound (sTable : KeyTable) (halves : Halves) (i : Fin 16) : Halves :=
  let a := rotl (halves.a ^^^ halves.b) halves.b + sTable[2 * i.val + 2]
  let b := rotl (a ^^^ halves.b) a + sTable[2 * i.val + 3]
  { a := a
    b := b }

/-- The source counts the rounds of decryption from 16 down to 1. -/
def decryptRound (sTable : KeyTable) (halves : Halves) (i : Fin 16) : Halves :=
  let b := rotr (halves.b - sTable[2 * (i.val + 1) + 1]) halves.a ^^^ halves.a
  let a := rotr (halves.a - sTable[2 * (i.val + 1)]) b ^^^ b
  { a := a
    b := b }

def whiten (sTable : KeyTable) (halves : Halves) : Halves :=
  { a := halves.a + sTable[0]
    b := halves.b + sTable[1] }

def unwhiten (sTable : KeyTable) (halves : Halves) : Halves :=
  { a := halves.a - sTable[0]
    b := halves.b - sTable[1] }

def encryptBlock (sTable : KeyTable) (inBlock : Block8) : Block8 :=
  ((List.finRange 16).foldl (encryptRound sTable) (whiten sTable (Halves.load inBlock))).store

def decryptBlock (sTable : KeyTable) (inBlock : Block8) : Block8 :=
  (unwhiten sTable
    ((List.finRange 16).reverse.foldl (decryptRound sTable) (Halves.load inBlock))).store

/-! ### Hexadecimal text -/

def hexEncode (bytes : Bytes) : Bytes := bytes.flatMap hexByte

def hexPairs : Bytes → Bytes
  | first :: second :: rest =>
      UInt8.ofInt (strtol [first, second] 16) :: hexPairs rest
  | _ => []

/-- Two hexadecimal digits for each byte. -/
theorem hexPairs_length (hex : Bytes) : (hexPairs hex).length = hex.length / 2 := by
  induction hex using hexPairs.induct with
  | case1 first second rest ih =>
      rw [hexPairs, List.length_cons, ih, List.length_cons, List.length_cons]
      omega
  | case2 rest short =>
      have few : rest.length < 2 := by
        match rest, short with
        | [], _short => exact Nat.two_pos
        | [_], _short => exact Nat.one_lt_two
        | first :: second :: more, short => exact absurd rfl (short first second more)
      rw [hexPairs, List.length_nil]
      · omega
      · exact short

def hexDecode (hex : Bytes) : Bytes :=
  if hex.length % 2 ≠ 0 then [] else hexPairs hex

/-! ### EncryptAuthData and DecryptAuthData -/

/-- The first 16 characters of the lowercase hexadecimal MD5 of "mincoms". -/
def keyStr : Bytes := "0e0aa086965047fb".toUTF8.toList

def initialIv : Block8 := Vector.replicate 8 1

def xorBlock (block currentIv : Block8) : Block8 := Vector.zipWith (· ^^^ ·) block currentIv

theorem xorBlock_xorBlock (block chained : Block8) :
    xorBlock (xorBlock block chained) chained = block := by
  ext index bound
  simp [xorBlock]

def rc5 (sTable : KeyTable) : Chaining Block8 where
  encrypt := encryptBlock sTable
  decrypt := decryptBlock sTable
  mask := xorBlock
  mask_mask := xorBlock_xorBlock

def encryptAuthData (plaintext : Bytes) : Bytes :=
  let sTable := keyExpand keyStr
  let padded := pad 8 plaintext
  hexEncode (ofBlocks (cbcEncrypt (rc5 sTable) initialIv (toBlocks padded)))

def decryptAuthData (encryptedHex : Bytes) : Bytes :=
  let cipherBytes := hexDecode encryptedHex
  if cipherBytes = [] ∨ cipherBytes.length % 8 ≠ 0 then []
  else
    let sTable := keyExpand keyStr
    let plaintext := ofBlocks (cbcDecrypt (rc5 sTable) initialIv (toBlocks cipherBytes))
    (unpad 8 plaintext).getD []

/-! ### Every stage has its inverse -/

theorem load_store (halves : Halves) : Halves.load halves.store = halves := by
  have a := joinLE32_split halves.a
  have b := joinLE32_split halves.b
  simp only [Halves.load, Halves.store]
  exact congrArg₂ Halves.mk a b

theorem store_load (block : Block8) : (Halves.load block).store = block := by
  ext index bound
  simp only [Halves.load, Halves.store, joinLE32_byte0, joinLE32_byte1, joinLE32_byte2,
    joinLE32_byte3]
  match index, bound with
  | 0, _bound | 1, _bound | 2, _bound | 3, _bound
  | 4, _bound | 5, _bound | 6, _bound | 7, _bound => rfl

theorem xor_cancel_right (value other : UInt32) : value ^^^ other ^^^ other = value := by
  rw [UInt32.xor_assoc, UInt32.xor_self, UInt32.xor_zero]

theorem xor_cancel_left (value other : UInt32) : value ^^^ other ^^^ value = other := by
  rw [UInt32.xor_comm value other, xor_cancel_right]

theorem decryptRound_encryptRound (sTable : KeyTable) (halves : Halves) (i : Fin 16) :
    decryptRound sTable (encryptRound sTable halves i) i = halves := by
  have first : 2 * (i.val + 1) = 2 * i.val + 2 := by omega
  simp only [encryptRound, decryptRound, first, UInt32.add_sub_cancel, rotr_rotl,
    xor_cancel_left, xor_cancel_right]

theorem unwhiten_whiten (sTable : KeyTable) (halves : Halves) :
    unwhiten sTable (whiten sTable halves) = halves := by
  simp only [whiten, unwhiten, UInt32.add_sub_cancel]

theorem decryptBlock_encryptBlock (sTable : KeyTable) (block : Block8) :
    decryptBlock sTable (encryptBlock sTable block) = block := by
  simp only [decryptBlock, encryptBlock, load_store]
  rw [foldl_reverse_of_inverse (decryptRound_encryptRound sTable), unwhiten_whiten, store_load]

theorem hexEncode_length (bytes : Bytes) : (hexEncode bytes).length = 2 * bytes.length := by
  induction bytes with
  | nil => rfl
  | cons byte bytes ih =>
      simp only [hexEncode, List.flatMap_cons, List.length_append, List.length_cons] at ih ⊢
      rw [ih]
      simp only [hexByte, List.length_cons, List.length_nil]
      omega

theorem hexPairs_hexEncode (bytes : Bytes) : hexPairs (hexEncode bytes) = bytes := by
  induction bytes with
  | nil => rfl
  | cons byte bytes ih =>
      have value : UInt8.ofInt (strtol (hexByte byte) 16) = byte := by
        have bound := byte.toNat_lt
        have small : ((byte.toNat : Int) % 2 ^ 8).toNat = byte.toNat := by omega
        rw [strtol_hexByte, UInt8.ofInt, small, UInt8.ofNat_toNat]
      change UInt8.ofInt (strtol (hexByte byte) 16) :: hexPairs (hexEncode bytes) = byte :: bytes
      rw [value, ih]

theorem hexDecode_hexEncode (bytes : Bytes) : hexDecode (hexEncode bytes) = bytes := by
  have even : ¬(hexEncode bytes).length % 2 ≠ 0 := by
    rw [hexEncode_length]
    omega
  rw [hexDecode, if_neg even, hexPairs_hexEncode]

/-- Chaining over the bytes of whole blocks, and back. -/
theorem decrypt_encrypt_blocks (sTable : KeyTable) (bytes : Bytes) (whole : 8 ∣ bytes.length) :
    ofBlocks (cbcDecrypt (rc5 sTable) initialIv (toBlocks
      (ofBlocks (cbcEncrypt (rc5 sTable) initialIv (toBlocks bytes))))) = bytes := by
  rw [toBlocks_ofBlocks, cbcDecrypt_encrypt (rc5 sTable) (decryptBlock_encryptBlock sTable),
    ofBlocks_toBlocks bytes whole]

theorem cbcEncrypt_bytes_length (sTable : KeyTable) (bytes : Bytes) (whole : 8 ∣ bytes.length) :
    (ofBlocks (cbcEncrypt (rc5 sTable) initialIv (toBlocks bytes))).length = bytes.length := by
  rw [ofBlocks_length, cbcEncrypt_length, ← ofBlocks_length, ofBlocks_toBlocks bytes whole]

/-- What EncryptAuthData writes in hexadecimal. -/
def cipherText (plaintext : Bytes) : Bytes :=
  ofBlocks (cbcEncrypt (rc5 (keyExpand keyStr)) initialIv (toBlocks (pad 8 plaintext)))

theorem cipherText_length (plaintext : Bytes) :
    (cipherText plaintext).length = 8 * (plaintext.length / 8 + 1) := by
  have whole : 8 ∣ (pad 8 plaintext).length := pad_length_dvd (by decide) plaintext
  rw [cipherText, cbcEncrypt_bytes_length (keyExpand keyStr) _ whole, pad, List.length_append,
    List.length_replicate, padCount]
  omega

theorem hexDecode_encryptAuthData (plaintext : Bytes) :
    hexDecode (encryptAuthData plaintext) = cipherText plaintext :=
  hexDecode_hexEncode (cipherText plaintext)

theorem encryptAuthData_length (plaintext : Bytes) :
    (encryptAuthData plaintext).length = 16 * (plaintext.length / 8 + 1) := by
  change (hexEncode (cipherText plaintext)).length = _
  rw [hexEncode_length, cipherText_length]
  omega

/-- Any text that stands for the ciphertext decrypts: hex text, chaining, rounds and
padding are undone in turn. -/
theorem decryptAuthData_of_hexDecode {plaintext hex : Bytes}
    (decoded : hexDecode hex = cipherText plaintext) : decryptAuthData hex = plaintext := by
  have length := cipherText_length plaintext
  have decrypted := decrypt_encrypt_blocks (keyExpand keyStr) (pad 8 plaintext)
    (pad_length_dvd (by decide) plaintext)
  have accepted : ¬(cipherText plaintext = [] ∨ (cipherText plaintext).length % 8 ≠ 0) := by
    rintro (empty | ragged)
    · rw [empty, List.length_nil] at length
      omega
    · omega
  simp only [decryptAuthData, decoded]
  rw [if_neg accepted, cipherText, decrypted, unpad_pad (by decide) (by decide), Option.getD_some]

/-- What is encrypted decrypts to itself. -/
theorem decryptAuthData_encryptAuthData (plaintext : Bytes) :
    decryptAuthData (encryptAuthData plaintext) = plaintext :=
  decryptAuthData_of_hexDecode (hexDecode_encryptAuthData plaintext)

end RanOnline.Servers
