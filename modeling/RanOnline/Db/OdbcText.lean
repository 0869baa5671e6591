/-
Texts of any length in a buffer of 4096 bytes (db/odbc_db.cpp, GetCollect into a string).

SQLGetData terminates what it writes and cuts a longer value off behind 4095 bytes, but
its indicator keeps the whole length.  GetCollect copies as many bytes as the indicator
says.
-/
import RanOnline.Db.OdbcRows

namespace RanOnline.Db

open Memory Methods

/-- How SQLGetData answers for a column that holds this value, or NULL. -/
inductive TextAnswer : SqlReturn × Int × (Nat → UInt8) → Option Bytes → Prop
  | failed {r : SqlReturn} (ind : Int) (byteAt : Nat → UInt8) (value : Option Bytes)
      (failed : r.ok = false) : TextAnswer (r, ind, byteAt) value
  | null {r : SqlReturn} (byteAt : Nat → UInt8) (succeeded : r.ok = true) :
      TextAnswer (r, sqlNullData, byteAt) none
  | whole {r : SqlReturn} {byteAt : Nat → UInt8} {value : Bytes} (succeeded : r.ok = true)
      (short : value.length < 4096)
      (bytes : ∀ index, index < value.length → byteAt index = value.getD index 0)
      (terminated : byteAt value.length = 0) :
      TextAnswer (r, value.length, byteAt) (some value)
  | truncated {ind : Int} {byteAt : Nat → UInt8} {value : Bytes} (long : 4096 ≤ value.length)
      (size : ind = value.length ∨ ind = sqlNoTotal)
      (bytes : ∀ index, index < 4095 → byteAt index = value.getD index 0)
      (terminated : byteAt 4095 = 0) :
      TextAnswer (.successWithInfo, ind, byteAt) (some value)

/-- The bytes of the buffer that SQLGetData wrote: what fits of the value and a NUL. -/
def writtenBuffer (byteAt : Nat → UInt8) (value : Bytes) : Block :=
  { size := min value.length 4095 + 1
    byteAt := byteAt }

/-- The value, or a first part of one that does not fit. -/
def ValueOrPrefix (value copied : Bytes) : Prop :=
  copied = value ∨ (4096 ≤ value.length ∧ copied.length ≤ 4095 ∧ copied <+: value)

/-- GetCollect gives a text of the value that it copies from written bytes only, or none. -/
def TextRead (answer : SqlReturn × Int × (Nat → UInt8)) (value : Option Bytes)
    (result : Checked (Option Bytes)) : Prop :=
  result = .ok none ∨
    ∃ held copied : Bytes, value = some held ∧ result = .ok (some copied) ∧
      copyText (writtenBuffer answer.2.2 held) answer.2.1 = .ok copied ∧
      ValueOrPrefix held copied

/-- The value is shorter than the buffer, or its length is not told.  One of 4096 bytes whose
last byte is NUL comes out right as well. -/
def Copyable (answer : SqlReturn × Int × (Nat → UInt8)) (value : Option Bytes) : Prop :=
  ∀ held : Bytes, value = some held → answer.1.ok = true →
    held.length < 4096 ∨ answer.2.1 = sqlNoTotal ∨ (held.length = 4096 ∧ held.getD 4095 0 = 0)

/-! ### Copies -/

/-- Without a length the copy ends before the NUL. -/
theorem copyText_terminated {buf : Block} {last : Nat} (size : buf.size = last + 1)
    (terminated : buf.byteAt last = 0) :
    ∃ length, length ≤ last ∧
      copyText buf sqlNoTotal = .ok ((List.range length).map buf.byteAt) := by
  have unknown : sqlNoTotal = sqlNts ∨ sqlNoTotal < 0 := Or.inr (by decide)
  have starts : 0 + buf.size = buf.size := Nat.zero_add _
  obtain ⟨length, scanned⟩ :=
    (scanNul_ok_iff buf buf.size 0 starts).mpr ⟨last, Nat.zero_le _, by omega, terminated⟩
  have inside := scanNul_inside starts scanned
  have measured : CString.strlen buf 0 = .ok length := scanned
  have fits : length ≤ buf.size := by omega
  refine ⟨length, by omega, ?_⟩
  simp only [copyText, if_pos unknown, measured, ok_bind, Block.readRange, Nat.zero_add,
    if_pos fits]

/-- What GetCollect makes of an answer of SQLGetData. -/
def textResult (answer : SqlReturn × Int × (Nat → UInt8)) : Checked (Option Bytes) :=
  if answer.1.ok = true ∧ answer.2.1 ≠ sqlNullData then
    (copyText { size := 4096, byteAt := answer.2.2 } answer.2.1).map some
  else .ok none

theorem textResult_whole {r : SqlReturn} {byteAt : Nat → UInt8} {value : Bytes}
    (succeeded : r.ok = true) (short : value.length < 4096)
    (bytes : ∀ index, index < value.length → byteAt index = value.getD index 0) :
    TextRead (r, value.length, byteAt) (some value) (textResult (r, value.length, byteAt)) := by
  have told : r.ok = true ∧ (value.length : Int) ≠ sqlNullData := by
    refine ⟨succeeded, ?_⟩
    unfold sqlNullData
    omega
  have all : (List.range value.length).map byteAt = value := by
    rw [map_range_eq_take (Nat.le_refl _) bytes, List.take_length]
  have inside : value.length ≤ (writtenBuffer byteAt value).size := by
    change value.length ≤ min value.length 4095 + 1
    omega
  refine Or.inr ⟨value, value, rfl, ?_, ?_, Or.inl rfl⟩
  · rw [textResult, if_pos told, copyText_known (Nat.le_of_lt short), all]
    rfl
  · exact (copyText_known inside).trans (congrArg Except.ok all)

theorem textResult_noTotal {byteAt : Nat → UInt8} {value : Bytes} (long : 4096 ≤ value.length)
    (bytes : ∀ index, index < 4095 → byteAt index = value.getD index 0)
    (terminated : byteAt 4095 = 0) :
    TextRead (.successWithInfo, sqlNoTotal, byteAt) (some value)
      (textResult (.successWithInfo, sqlNoTotal, byteAt)) := by
  have told : SqlReturn.successWithInfo.ok = true ∧ sqlNoTotal ≠ sqlNullData := ⟨rfl, by decide⟩
  have whole : writtenBuffer byteAt value = { size := 4096, byteAt := byteAt } := by
    rw [writtenBuffer, Nat.min_eq_right (by omega)]
  obtain ⟨length, inside, copied⟩ :=
    @copyText_terminated { size := 4096, byteAt := byteAt } 4095 rfl terminated
  have first := map_range_eq_take (by omega : length ≤ value.length)
    fun index within => bytes index (by omega)
  refine Or.inr ⟨value, value.take length, rfl, ?_, ?_, Or.inr ⟨long, ?_, List.take_prefix _ _⟩⟩
  · rw [textResult, if_pos told, copied, first]
    rfl
  · rw [whole, copied, first]
  · rw [List.length_take]
    omega

/-- A value of 4096 bytes comes with the NUL in the place of its last byte. -/
theorem textResult_full {byteAt : Nat → UInt8} {value : Bytes} (full : value.length = 4096)
    (bytes : ∀ index, index < 4095 → byteAt index = value.getD index 0)
    (terminated : byteAt 4095 = 0) :
    TextRead (.successWithInfo, value.length, byteAt) (some value)
        (textResult (.successWithInfo, value.length, byteAt)) ↔
      value.getD 4095 0 = 0 := by
  have told : SqlReturn.successWithInfo.ok = true ∧ (value.length : Int) ≠ sqlNullData := by
    refine ⟨rfl, ?_⟩
    unfold sqlNullData
    omega
  have copied : textResult (.successWithInfo, value.length, byteAt) =
      .ok (some ((List.range 4096).map byteAt)) := by
    rw [textResult, if_pos told, full]
    exact congrArg (Except.map some) (copyText_known (Nat.le_refl 4096))
  rw [copied]
  constructor
  · intro read
    rcases read with none | ⟨held, text, same, result, _written, fitting⟩
    · cases none
    · cases same
      have texts : (List.range 4096).map byteAt = text := Option.some.inj (Except.ok.inj result)
      have size : text.length = 4096 := by
        rw [← texts, List.length_map, List.length_range]
      rcases fitting with whole | ⟨_long, most, _first⟩
      · rw [← whole, ← texts, List.getD_eq_getElem?_getD, List.getElem?_map,
          List.getElem?_range (by omega), Option.map_some, Option.getD_some]
        exact terminated
      · omega
  · intro last
    have all : (List.range 4096).map byteAt = value := by
      rw [map_range_eq_take full.ge, ← full, List.take_length]
      intro index within
      by_cases early : index < 4095
      · exact bytes index early
      · have here : index = 4095 := by omega
        rw [here, last, terminated]
    rw [all]
    refine Or.inr ⟨value, value, rfl, rfl, ?_, Or.inl rfl⟩
    have whole : writtenBuffer byteAt value = { size := 4096, byteAt := byteAt } := by
      rw [writtenBuffer, full]
      rfl
    have read := @copyText_known { size := 4096, byteAt := byteAt } 4096 (Nat.le_refl 4096)
    rw [all] at read
    change copyText (writtenBuffer byteAt value) value.length = _
    rw [whole, full]
    exact read

/-- A longer value is copied from behind the buffer. -/
theorem textResult_past {byteAt : Nat → UInt8} {value : Bytes} (long : 4096 < value.length) :
    ¬TextRead (.successWithInfo, value.length, byteAt) (some value)
      (textResult (.successWithInfo, value.length, byteAt)) := by
  have told : SqlReturn.successWithInfo.ok = true ∧ (value.length : Int) ≠ sqlNullData := by
    refine ⟨rfl, ?_⟩
    unfold sqlNullData
    omega
  intro read
  rw [textResult, if_pos told, copyText_past long] at read
  rcases read with none | ⟨held, text, same, result, _written, _fitting⟩
  · cases none
  · cases result

theorem textRead_iff {answer : SqlReturn × Int × (Nat → UInt8)} {value : Option Bytes}
    (answered : TextAnswer answer value) :
    TextRead answer value (textResult answer) ↔ Copyable answer value := by
  cases answered with
  | @failed r ind byteAt value failed =>
      have unread : ¬(r.ok = true ∧ ind ≠ sqlNullData) := by
        rw [failed]
        exact fun told => Bool.false_ne_true told.1
      apply iff_of_true
      · exact Or.inl (if_neg unread)
      · intro held _same succeeded
        rw [failed] at succeeded
        cases succeeded
  | @null r byteAt succeeded =>
      apply iff_of_true
      · exact Or.inl (if_neg fun told => told.2 rfl)
      · intro held impossible
        cases impossible
  | @whole r byteAt value succeeded short bytes terminated =>
      apply iff_of_true
      · exact textResult_whole succeeded short bytes
      · intro held same _succeeded
        cases same
        exact Or.inl short
  | @truncated ind byteAt value long size bytes terminated =>
      rcases size with known | unknown
      · subst known
        by_cases full : value.length = 4096
        · rw [textResult_full full bytes terminated]
          constructor
          · intro last held same _succeeded
            cases same
            exact Or.inr (Or.inr ⟨full, last⟩)
          · intro copyable
            rcases copyable value rfl rfl with short | unknown | ⟨_full, last⟩
            · omega
            · unfold sqlNoTotal at unknown
              change (value.length : Int) = -4 at unknown
              omega
            · exact last
        · apply iff_of_false
          · exact textResult_past (by omega)
          · intro copyable
            rcases copyable value rfl rfl with short | unknown | ⟨exact4096, _last⟩
            · omega
            · unfold sqlNoTotal at unknown
              change (value.length : Int) = -4 at unknown
              omega
            · exact full exact4096
      · subst unknown
        apply iff_of_true
        · exact textResult_noTotal long bytes terminated
        · intro held _same _succeeded
          exact Or.inr (Or.inl rfl)

namespace Object

variable {W : Type} {driver : Driver W}

/-- GetCollect reads a column value safely exactly where the value fits or comes without its
length. -/
theorem getCollectString_read_iff {db : Object W} {column : String} {idx : Nat}
    (found : colIndex db column = some idx) {value : Option Bytes}
    (answered : TextAnswer (driver.getDataChar idx 4096 db.driver).1 value) :
    TextRead (driver.getDataChar idx 4096 db.driver).1 value
        (getCollectString driver column db).1 ↔
      Copyable (driver.getDataChar idx 4096 db.driver).1 value := by
  rw [getCollectString_some found]
  exact textRead_iff answered

/-- A row with a column UniqKey, and what SQLGetData says of it. -/
def keyDriver (ind : Int) (byteAt : Nat → UInt8) : Driver Bool :=
  oneRowDriver [] (text "UniqKey") ind byteAt

def keyRow : Object Bool := { Object.new true with cols := [(lower (text "UniqKey"), 1)] }

theorem keyRow_found : colIndex keyRow "UniqKey" = some 1 := List.lookup_cons_self

/-- A key of one byte. -/
def shortKey (index : Nat) : UInt8 := if index = 0 then 107 else 0

theorem getCollectString_read_iff_shortKey :
    TextRead ((keyDriver 1 shortKey).getDataChar 1 4096 keyRow.driver).1 (some [107])
        (getCollectString (keyDriver 1 shortKey) "UniqKey" keyRow).1 ↔
      Copyable ((keyDriver 1 shortKey).getDataChar 1 4096 keyRow.driver).1 (some [107]) := by
  apply getCollectString_read_iff keyRow_found
  apply @TextAnswer.whole .successWithInfo shortKey [107] rfl
  · decide
  · decide
  · decide

/-- The first 4095 bytes of a key of 5000, and a NUL. -/
def cutKey (index : Nat) : UInt8 := if index < 4095 then 65 else 0

/-- The copy of a truncated value does not end with the buffer. -/
theorem truncated_read_past :
    TextAnswer ((keyDriver 5000 cutKey).getDataChar 1 4096 keyRow.driver).1
        (some (List.replicate 5000 65)) ∧
      ¬TextRead ((keyDriver 5000 cutKey).getDataChar 1 4096 keyRow.driver).1
        (some (List.replicate 5000 65))
        (getCollectString (keyDriver 5000 cutKey) "UniqKey" keyRow).1 := by
  constructor
  · apply TextAnswer.truncated
    · rw [List.length_replicate]
      omega
    · rw [List.length_replicate]
      exact Or.inl rfl
    · intro index early
      rw [cutKey, if_pos early, List.getD_eq_getElem?_getD,
        List.getElem?_replicate_of_lt (by omega), Option.getD_some]
    · exact if_neg (Nat.lt_irrefl 4095)
  · rw [getCollectString_some keyRow_found]
    have past := @textResult_past cutKey (List.replicate 5000 65) (by
      rw [List.length_replicate]
      omega)
    rw [List.length_replicate] at past
    exact past

end Object

end RanOnline.Db
