/-
The rows of a result set, from the driver's answers to GetCollect.

A row begins where SQLFetch succeeds and has what SQLGetData answered until the
next one.  GetCollect gives the value of a column, zero or nothing where the row
has none.
-/
import Mathlib.Data.List.Nodup
import RanOnline.Db.DriverLog

namespace RanOnline.Db

open Memory Methods

/-! ### What a log says of its rows -/

namespace Answer

def begins : Answer → Bool
  | .fetched r => r.ok
  | .gotLong _ _ _ | .gotChar _ _ _ _ => false

def longAt (idx : Nat) : Answer → Option Int
  | .gotLong col r value => if col = idx ∧ r.ok = true then value else none
  | .fetched _ | .gotChar _ _ _ _ => none

/-- The indicator and the buffer of a text that is not NULL. -/
def textAt (idx : Nat) : Answer → Option (Int × (Nat → UInt8))
  | .gotChar col r ind byteAt =>
      if col = idx ∧ r.ok = true ∧ ind ≠ sqlNullData then some (ind, byteAt) else none
  | .fetched _ | .gotLong _ _ _ => none

end Answer

/-- The answers since the last row was fetched; none where no row was. -/
def lastRow : List Answer → Option (List Answer)
  | [] => none
  | answer :: answers =>
      match lastRow answers with
      | some row => some row
      | none => if answer.begins then some answers else none

theorem lastRow_none {answers : List Answer}
    (quiet : ∀ answer ∈ answers, answer.begins = false) : lastRow answers = none := by
  induction answers with
  | nil => rfl
  | cons answer answers ih =>
      rw [lastRow, ih (fun other member => quiet other (List.mem_cons_of_mem answer member)),
        quiet answer List.mem_cons_self]
      rfl

theorem lastRow_append (before row : List Answer) {first : Answer} (begun : first.begins = true)
    (quiet : ∀ answer ∈ row, answer.begins = false) :
    lastRow (before ++ first :: row) = some row := by
  induction before with
  | nil =>
      rw [List.nil_append, lastRow, lastRow_none quiet, begun]
      rfl
  | cons answer before ih => rw [List.cons_append, lastRow, ih]

/-! ### A text in its buffer -/

/-- SQL_NO_TOTAL. -/
def sqlNoTotal : Int := -4

/-- How SQLGetData answers for a column value: the indicator has its whole length,
or says that it is not known, and the buffer has its first 4095 bytes. -/
def ColumnText (answer : Int × (Nat → UInt8)) (value : Bytes) : Prop :=
  (answer.1 = value.length ∨ (answer.1 = sqlNoTotal ∧ 4096 ≤ value.length)) ∧
    ∀ index, index < value.length → index < 4095 → answer.2 index = value.getD index 0

/-- What GetCollect copies out of its buffer. -/
def bufferText (answer : Int × (Nat → UInt8)) : Checked Bytes :=
  copyText { size := 4096, byteAt := answer.2 } answer.1

/-- The indicator points into the buffer, or a NUL is found there. -/
def InBuffer (answer : Int × (Nat → UInt8)) : Prop :=
  answer.1 ≤ 4096 ∧ (answer.1 < 0 → ∃ index, index < 4096 ∧ answer.2 index = 0)

theorem scanNul_inside {block : Block} {remaining offset length : Nat}
    (ends : offset + remaining = block.size)
    (scanned : CString.scanNul block remaining offset = .ok length) :
    offset + length < block.size := by
  induction remaining generalizing offset length with
  | zero => cases scanned
  | succ remaining ih =>
      have read : block.read offset = .ok (block.byteAt offset) := if_pos (by omega)
      rw [CString.scanNul, read, ok_bind] at scanned
      by_cases zero : block.byteAt offset = 0
      · rw [if_pos zero] at scanned
        cases scanned
        omega
      · rw [if_neg zero] at scanned
        cases later : CString.scanNul block remaining (offset + 1) with
        | error fault =>
            rw [later] at scanned
            cases scanned
        | ok rest =>
            rw [later] at scanned
            cases scanned
            have inside := ih (by omega) later
            omega

theorem scanNul_ok_iff (block : Block) (remaining offset : Nat)
    (ends : offset + remaining = block.size) :
    (∃ length, CString.scanNul block remaining offset = .ok length) ↔
      ∃ index, offset ≤ index ∧ index < block.size ∧ block.byteAt index = 0 := by
  induction remaining generalizing offset with
  | zero =>
      constructor
      · intro holds
        rcases holds with ⟨length, impossible⟩
        cases impossible
      · intro holds
        rcases holds with ⟨index, after, inside, _zero⟩
        omega
  | succ remaining ih =>
      have read : block.read offset = .ok (block.byteAt offset) := if_pos (by omega)
      have later := ih (offset + 1) (by omega)
      rw [CString.scanNul, read, ok_bind]
      by_cases zero : block.byteAt offset = 0
      · rw [if_pos zero]
        constructor
        · intro _found
          exact ⟨offset, Nat.le_refl _, by omega, zero⟩
        · intro _present
          exact ⟨0, rfl⟩
      · rw [if_neg zero]
        constructor
        · intro holds
          rcases holds with ⟨length, found⟩
          cases scanned : CString.scanNul block remaining (offset + 1) with
          | error fault =>
              rw [scanned] at found
              cases found
          | ok rest =>
              obtain ⟨index, after, within, nul⟩ := later.mp ⟨rest, scanned⟩
              exact ⟨index, by omega, within, nul⟩
        · intro holds
          rcases holds with ⟨index, after, within, nul⟩
          have different : index ≠ offset := by
            intro same
            rw [same] at nul
            exact zero nul
          obtain ⟨rest, scanned⟩ := later.mpr ⟨index, by omega, within, nul⟩
          rw [scanned]
          exact ⟨_, rfl⟩

theorem copyText_known {buf : Block} {length : Nat} (inside : length ≤ buf.size) :
    copyText buf length = .ok ((List.range length).map buf.byteAt) := by
  have known : ¬((length : Int) = sqlNts ∨ (length : Int) < 0) := by
    unfold sqlNts
    omega
  simp only [copyText, if_neg known, ok_bind, Int.toNat_natCast, Block.readRange, Nat.zero_add,
    if_pos inside]

theorem copyText_past {buf : Block} {length : Nat} (past : buf.size < length) :
    copyText buf length = .error .outOfBounds := by
  have known : ¬((length : Int) = sqlNts ∨ (length : Int) < 0) := by
    unfold sqlNts
    omega
  have outside : ¬0 + length ≤ buf.size := by omega
  simp only [copyText, if_neg known, ok_bind, Int.toNat_natCast, Block.readRange, if_neg outside]

/-- A copy reads inside the buffer where the indicator points into it or a NUL ends it. -/
theorem copyText_ok_iff (buf : Block) (ind : Int) :
    (∃ text, copyText buf ind = .ok text) ↔
      ind ≤ buf.size ∧ (ind < 0 → ∃ index, index < buf.size ∧ buf.byteAt index = 0) := by
  unfold copyText
  by_cases negative : ind < 0
  · have scan := scanNul_ok_iff buf buf.size 0 (Nat.zero_add _)
    have measure : CString.strlen buf 0 = CString.scanNul buf buf.size 0 := rfl
    simp only [if_pos (Or.inr negative : ind = sqlNts ∨ ind < 0), measure]
    constructor
    · intro holds
      rcases holds with ⟨text, copied⟩
      cases measured : CString.scanNul buf buf.size 0 with
      | error fault =>
          rw [measured] at copied
          cases copied
      | ok length =>
          obtain ⟨index, _after, within, nul⟩ := scan.mp ⟨length, measured⟩
          exact ⟨by omega, fun _negative => ⟨index, within, nul⟩⟩
    · intro holds
      rcases holds with ⟨_small, terminated⟩
      obtain ⟨index, within, nul⟩ := terminated negative
      obtain ⟨length, measured⟩ := scan.mpr ⟨index, Nat.zero_le _, within, nul⟩
      have inside := scanNul_inside (Nat.zero_add _) measured
      have fits : 0 + length ≤ buf.size := by omega
      simp only [measured, ok_bind, Block.readRange, if_pos fits]
      exact ⟨_, rfl⟩
  · obtain ⟨length, rfl⟩ := Int.eq_ofNat_of_zero_le (Int.not_lt.mp negative)
    change (∃ text, copyText buf length = .ok text) ↔ _
    by_cases inside : length ≤ buf.size
    · rw [copyText_known inside]
      constructor
      · intro _copied
        exact ⟨by omega, fun impossible => absurd impossible negative⟩
      · intro _holds
        exact ⟨_, rfl⟩
    · rw [copyText_past (Nat.not_le.mp inside)]
      constructor
      · intro holds
        rcases holds with ⟨text, impossible⟩
        cases impossible
      · intro holds
        rcases holds with ⟨small, _terminated⟩
        omega

theorem bufferText_ok_iff (answer : Int × (Nat → UInt8)) :
    (∃ text, bufferText answer = .ok text) ↔ InBuffer answer :=
  copyText_ok_iff { size := 4096, byteAt := answer.2 } answer.1

/-- Bytes that agree with a value are a first part of it. -/
theorem map_range_eq_take {byteAt : Nat → UInt8} {value : Bytes} {length : Nat}
    (inside : length ≤ value.length)
    (bytes : ∀ index, index < length → byteAt index = value.getD index 0) :
    (List.range length).map byteAt = value.take length := by
  apply List.ext_getElem
  · rw [List.length_map, List.length_range, List.length_take, Nat.min_eq_left inside]
  · intro index left right
    rw [List.length_map, List.length_range] at left
    have within : index < value.length := by omega
    rw [List.getElem_map, List.getElem_range, bytes index left, List.getElem_take,
      List.getD_eq_getElem?_getD, List.getElem?_eq_getElem within, Option.getD_some]

/-- A value shorter than the buffer is copied out of it as it is. -/
theorem ColumnText.copied {answer : Int × (Nat → UInt8)} {value : Bytes}
    (held : ColumnText answer value) (short : value.length < 4096) :
    bufferText answer = .ok value := by
  obtain ⟨size, bytes⟩ := held
  have length : answer.1 = value.length := by
    rcases size with known | ⟨_unknown, long⟩
    · exact known
    · omega
  have whole : (List.range value.length).map answer.2 = value := by
    rw [map_range_eq_take (Nat.le_refl _) fun index inside => bytes index inside (by omega),
      List.take_length]
  rw [bufferText, length, copyText_known (Nat.le_of_lt short), whole]

/-- Of a longer one the buffer does not have the last byte. -/
theorem ColumnText.other {answer : Int × (Nat → UInt8)} {value : Bytes}
    (held : ColumnText answer value) (long : 4096 ≤ value.length) :
    ∃ other, ColumnText answer other ∧ other ≠ value := by
  obtain ⟨size, bytes⟩ := held
  refine ⟨value.set (value.length - 1) (value.getD (value.length - 1) 0 + 1), ⟨?_, ?_⟩, ?_⟩
  · rw [List.length_set]
    exact size
  · intro index inside early
    rw [List.length_set] at inside
    rw [bytes index inside early]
    simp only [List.getD_eq_getElem?_getD]
    rw [List.getElem?_set_ne (by omega)]
  · intro same
    have last := congrArg (fun text : Bytes => text.getD (value.length - 1) 0) same
    simp only [List.getD_eq_getElem?_getD] at last
    rw [List.getElem?_set_self (by omega), Option.getD_some] at last
    have step : ∀ byte : UInt8, byte + 1 ≠ byte := by
      intro byte grown
      have value := congrArg UInt8.toNat grown
      rw [UInt8.toNat_add] at value
      have bound := byte.toNat_lt
      change (byte.toNat + 1) % 256 = byte.toNat at value
      omega
    exact step _ last

/-- What is copied is the value, whatever it is, exactly where no possible value is
as long as the buffer. -/
theorem bufferText_iff (answer : Int × (Nat → UInt8)) (text : Bytes)
    (copied : ∀ other, bufferText answer = .ok other → text = other) :
    (∀ value, ColumnText answer value → text = value) ↔
      ∀ value, ColumnText answer value → value.length < 4096 := by
  constructor
  · intro same value held
    by_contra long
    obtain ⟨other, heldOther, different⟩ := held.other (Nat.le_of_not_lt long)
    exact different ((same other heldOther).symm.trans (same value held))
  · intro short value held
    exact copied value (held.copied (short value held))

/-! ### The values of a row -/

/-- The integer of a column, zero where the row has none. -/
def columnLong (cols : List (Bytes × Nat)) (row : List Answer) (column : String) : Int :=
  match cols.lookup (Object.lower (Object.text column)) with
  | none => 0
  | some idx => (row.findSome? (Answer.longAt idx)).getD 0

def columnText (cols : List (Bytes × Nat)) (row : List Answer) (column : String) :
    Option (Int × (Nat → UInt8)) :=
  match cols.lookup (Object.lower (Object.text column)) with
  | none => none
  | some idx => row.findSome? (Answer.textAt idx)

/-- The text that GetCollect leaves; a read past the buffer counts as none. -/
def heldText : Option (Int × (Nat → UInt8)) → Bytes
  | none => []
  | some answer =>
      match bufferText answer with
      | .ok text => text
      | .error _fault => []

/-- Two names are two columns. -/
def DistinctCols (cols : List (Bytes × Nat)) : Prop := (cols.map Prod.snd).Nodup

theorem lookup_mem {cols : List (Bytes × Nat)} {name : Bytes} {idx : Nat}
    (found : cols.lookup name = some idx) : (name, idx) ∈ cols := by
  obtain ⟨before, after, split, _first⟩ := List.lookup_eq_some_iff.mp found
  rw [split]
  exact List.mem_append_right before List.mem_cons_self

theorem DistinctCols.ne {cols : List (Bytes × Nat)} (distinct : DistinctCols cols)
    {first second : Bytes} (different : first ≠ second) {idx other : Nat}
    (firstAt : cols.lookup first = some idx) (secondAt : cols.lookup second = some other) :
    idx ≠ other := by
  intro same
  have entry := List.inj_on_of_nodup_map distinct (lookup_mem firstAt) (lookup_mem secondAt) same
  exact different (Prod.mk.inj entry).1

namespace Object

variable {W : Type} {driver : Driver W}

/-- The columns so far are distinct, and those still to describe are not among them. -/
def Fresh (idxs : List Nat) (db : Object W) : Prop :=
  DistinctCols db.cols ∧ ∀ idx ∈ idxs, idx ∉ db.cols.map Prod.snd

theorem Fresh.tail {idx : Nat} {rest : List Nat} {db : Object W} (fresh : Fresh (idx :: rest) db) :
    Fresh rest db :=
  ⟨fresh.1, fun other member => fresh.2 other (List.mem_cons_of_mem idx member)⟩

theorem Fresh.describe {idx : Nat} {rest : List Nat} (name : Bytes) (single : idx ∉ rest)
    {db : Object W} (fresh : Fresh (idx :: rest) db) :
    Fresh rest { db with cols := (name, idx) :: db.cols } := by
  constructor
  · exact List.nodup_cons.mpr ⟨fresh.2 idx List.mem_cons_self, fresh.1⟩
  · intro other member present
    rcases List.mem_cons.mp present with rfl | earlier
    · exact single member
    · exact fresh.2 other (List.mem_cons_of_mem idx member) earlier

/-- Columns that are described one after another get entries of their own. -/
theorem describeCols_distinct (idxs : List Nat) (single : idxs.Nodup) :
    Triple (Fresh idxs : Object W → Prop) (describeCols driver idxs)
      (fun _described db => DistinctCols db.cols) := by
  induction idxs with
  | nil => exact fun _db fresh => fresh.1
  | cons idx rest ih =>
      obtain ⟨absent, singleRest⟩ := List.nodup_cons.mp single
      have asked : Leaves (Fresh (idx :: rest)) (call (driver.describeCol idx)) :=
        fun _db => rfl
      unfold describeCols
      refine Triple.bind asked.keeps ?_
      intro name
      cases name with
      | none =>
          intro db fresh
          exact ih singleRest db fresh.tail
      | some name =>
          intro db fresh
          exact ih singleRest _ (fresh.describe (lower name) absent)

theorem buildColumnMap_distinct (db : Object W) :
    DistinctCols (buildColumnMap driver db).2.cols := by
  have cleared : Triple (fun _db : Object W => True)
      (modify fun db => { db with cols := [] } : Method W Unit) (fun _cleared db => db.cols = []) :=
    fun _db _holds => rfl
  have asked : Leaves (fun db : Object W => db.cols = []) (call driver.numResultCols) :=
    fun _db => rfl
  have mapped : Triple (fun _db : Object W => True) (buildColumnMap driver)
      (fun _mapped db => DistinctCols db.cols) := by
    unfold buildColumnMap
    refine Triple.bind cleared ?_
    intro _cleared
    refine Triple.bind asked.keeps ?_
    intro cols
    cases cols with
    | none =>
        intro db empty
        change DistinctCols db.cols
        rw [empty]
        exact List.nodup_nil
    | some cols =>
        intro db empty
        apply describeCols_distinct (List.range' 1 cols) (List.nodup_range' 1)
        constructor
        · rw [empty]
          exact List.nodup_nil
        · intro idx _member present
          rw [empty] at present
          cases present
  exact mapped db trivial

/-! ### GetCollect -/

theorem bind_call {α β : Type} (body : StateM W α) (second : α → Method W β) (db : Object W) :
    (call body >>= second) db =
      second (body db.driver).1 { db with driver := (body db.driver).2 } := rfl

theorem getCollect_none {column : String} {db : Object W} (missing : colIndex db column = none) :
    getCollect driver column db = (none, db) := by
  unfold getCollect
  rw [bind_get, missing]
  rfl

theorem getCollect_some {column : String} {db : Object W} {idx : Nat}
    (found : colIndex db column = some idx) :
    getCollect driver column db =
      (if (driver.getDataLong idx db.driver).1.1.ok then (driver.getDataLong idx db.driver).1.2
        else none,
        { db with driver := (driver.getDataLong idx db.driver).2 }) := by
  unfold getCollect
  rw [bind_get, found]
  rfl

theorem getCollectString_none {column : String} {db : Object W}
    (missing : colIndex db column = none) :
    getCollectString driver column db = (.ok none, db) := by
  unfold getCollectString
  rw [bind_get, missing]
  rfl

theorem getCollectString_some {column : String} {db : Object W} {idx : Nat}
    (found : colIndex db column = some idx) :
    getCollectString driver column db =
      (if (driver.getDataChar idx 4096 db.driver).1.1.ok = true ∧
            (driver.getDataChar idx 4096 db.driver).1.2.1 ≠ sqlNullData then
          (bufferText (driver.getDataChar idx 4096 db.driver).1.2).map some
        else .ok none,
        { db with driver := (driver.getDataChar idx 4096 db.driver).2 }) := by
  unfold getCollectString
  rw [bind_get, found]
  change (call (driver.getDataChar idx 4096) >>= _) db = _
  rw [bind_call]
  generalize driver.getDataChar idx 4096 db.driver = outcome
  obtain ⟨⟨r, ind, byteAt⟩, after⟩ := outcome
  simp only
  cases accepted : r.ok with
  | false =>
      rw [if_pos (by rfl), if_neg (by rintro ⟨impossible, _⟩; cases impossible)]
      rfl
  | true =>
      rw [if_neg (by decide)]
      by_cases null : ind = sqlNullData
      · rw [if_pos null, if_neg (fun delivered => delivered.2 null)]
        rfl
      · have delivered : true = true ∧ ind ≠ sqlNullData := ⟨rfl, null⟩
        rw [if_neg null, if_pos delivered]
        rfl

/-- What a method adds to the log when it fetches no row. -/
structure Reads (db after : Object (Logged W)) (answers : List Answer) : Prop where
  log : after.log = db.log ++ answers
  cols : after.cols = db.cols
  quiet : ∀ answer ∈ answers, answer.begins = false

theorem Reads.refl (db : Object (Logged W)) : Reads db db [] := by
  constructor
  · rw [List.append_nil]
  · rfl
  · intro answer impossible
    cases impossible

theorem Reads.trans {db between after : Object (Logged W)} {first second : List Answer}
    (early : Reads db between first) (late : Reads between after second) :
    Reads db after (first ++ second) := by
  constructor
  · rw [late.log, early.log, List.append_assoc]
  · exact late.cols.trans early.cols
  · intro answer member
    rcases List.mem_append.mp member with inFirst | inSecond
    · exact early.quiet answer inFirst
    · exact late.quiet answer inSecond

/-- GetCollect for an integer gives what the driver answers for its column. -/
theorem getCollect_reads (column : String) (db : Object (Logged W)) :
    ∃ answers, Reads db (getCollect driver.logged column db).2 answers ∧
      (getCollect driver.logged column db).1.getD 0 = columnLong db.cols answers column ∧
      (∀ idx, db.cols.lookup (lower (text column)) ≠ some idx →
        answers.findSome? (Answer.longAt idx) = none) ∧
      ∀ answer ∈ answers, ∃ idx r value, answer = .gotLong idx r value := by
  cases found : colIndex db column with
  | none =>
      rw [getCollect_none found]
      have looked : db.cols.lookup (lower (text column)) = none := found
      refine ⟨[], Reads.refl db, ?_, ?_, ?_⟩
      · simp only [columnLong, looked]
        rfl
      · intro idx _other
        rfl
      · intro answer impossible
        cases impossible
  | some own =>
      rw [getCollect_some found]
      have looked : db.cols.lookup (lower (text column)) = some own := found
      refine ⟨[.gotLong own (driver.getDataLong own db.driver.1).1.1
        (driver.getDataLong own db.driver.1).1.2], ?_, ?_, ?_, ?_⟩
      · constructor
        · rfl
        · rfl
        · intro answer member
          rw [List.mem_singleton.mp member]
          rfl
      · have answered : (driver.logged.getDataLong own db.driver).1 =
            (driver.getDataLong own db.driver.1).1 := rfl
        simp only [columnLong, looked, List.findSome?_cons, List.findSome?_nil, Answer.longAt,
          true_and, answered]
        cases (if (driver.getDataLong own db.driver.1).1.1.ok = true then
          (driver.getDataLong own db.driver.1).1.2 else none) <;> rfl
      · intro idx other
        have apart : ¬(own = idx ∧ (driver.getDataLong own db.driver.1).1.1.ok = true) := by
          intro holds
          rcases holds with ⟨same, _ok⟩
          rw [same] at looked
          exact other looked
        simp only [List.findSome?_cons, List.findSome?_nil, Answer.longAt, if_neg apart]
      · intro answer member
        exact ⟨_, _, _, List.mem_singleton.mp member⟩

/-- GetCollect for a text gives what stands in its buffer, if it reads no further. -/
theorem getCollectString_reads (column : String) (db : Object (Logged W)) :
    ∃ answers, Reads db (getCollectString driver.logged column db).2 answers ∧
      ((odbcDb driver.logged).getCollectString column db).1.getD [] =
        heldText (columnText db.cols answers column) ∧
      ∀ idx, answers.findSome? (Answer.longAt idx) = none := by
  cases found : colIndex db column with
  | none =>
      have looked : db.cols.lookup (lower (text column)) = none := found
      refine ⟨[], ?_, ?_, ?_⟩
      · rw [getCollectString_none found]
        exact Reads.refl db
      · simp only [odbcDb, getCollectString_none found, columnText, looked]
        rfl
      · intro idx
        rfl
  | some own =>
      have looked : db.cols.lookup (lower (text column)) = some own := found
      have answered : (driver.logged.getDataChar own 4096 db.driver).1 =
          (driver.getDataChar own 4096 db.driver.1).1 := rfl
      refine ⟨[.gotChar own (driver.getDataChar own 4096 db.driver.1).1.1
        (driver.getDataChar own 4096 db.driver.1).1.2.1
        (driver.getDataChar own 4096 db.driver.1).1.2.2], ?_, ?_, ?_⟩
      · rw [getCollectString_some found]
        constructor
        · rfl
        · rfl
        · intro answer member
          rw [List.mem_singleton.mp member]
          rfl
      · simp only [odbcDb, getCollectString_some found, columnText, looked, List.findSome?_cons,
          List.findSome?_nil, Answer.textAt, true_and, answered]
        generalize (driver.getDataChar own 4096 db.driver.1).1 = outcome
        obtain ⟨r, ind, byteAt⟩ := outcome
        by_cases delivered : r.ok = true ∧ ind ≠ sqlNullData
        · simp only [if_pos delivered, heldText]
          cases bufferText (ind, byteAt) <;> rfl
        · simp only [if_neg delivered]
          rfl
      · intro idx
        rfl

/-! ### Execution -/

/-- One row was asked for, on a column map of its own. -/
def Positioned (db : Object (Logged W)) : Prop :=
  ∃ r, db.log = [.fetched r] ∧ db.eof = !r.ok ∧ DistinctCols db.cols

/-- A request that fails has asked for no row. -/
def Executed (executed : Bool) (db : Object (Logged W)) : Prop :=
  if executed then Positioned db else db.log = []

theorem buildColumnMap_quiet :
    Triple (fun db : Object (Logged W) => db.log = []) (buildColumnMap driver.logged)
      (fun _mapped db => db.log = [] ∧ DistinctCols db.cols) := by
  intro db empty
  exact ⟨(leaves_shown_buildColumnMap driver.logged_quiet db).trans empty, buildColumnMap_distinct db⟩

theorem fetchRow_positioned :
    Triple (fun db : Object (Logged W) => db.log = [] ∧ DistinctCols db.cols)
      (fetchRow driver.logged) (fun _fetched db => Positioned db) := by
  intro db holds
  refine ⟨(driver.fetch db.driver.1).1, ?_, rfl, holds.2⟩
  change db.log ++ [.fetched (driver.fetch db.driver.1).1] = _
  rw [holds.1]
  rfl

theorem execute_executed (sql : Bytes) :
    Triple (fun db : Object (Logged W) => db.log = []) (execute driver.logged sql) Executed := by
  unfold execute
  refine Triple.bind ((leaves_shown_execDirect driver.logged_quietCalls sql).triple []) ?_
  intro executed
  refine Triple.ite (fun _failed => triple_pure fun _db empty => empty) ?_
  intro _executed
  refine Triple.bind buildColumnMap_quiet ?_
  intro _mapped
  refine Triple.bind fetchRow_positioned ?_
  intro _positioned
  exact triple_pure fun _db positioned => positioned

theorem execCall_executed (sp : String) :
    Triple (fun db : Object (Logged W) => db.log = []) (execCall driver.logged sp) Executed := by
  have outline : CallOutline driver.logged (fun db => db.log = []) Executed :=
    { freed := fun db => db.log = []
      allocated := fun _allocated db => db.log = []
      held := fun db => db.log = []
      forgotten := fun db => db.log = []
      answered := fun _answer db => db.log = []
      ran := fun db => db.log = []
      mapped := fun db => db.log = [] ∧ DistinctCols db.cols
      positioned := Positioned
      refuses := fun _db empty _closed => empty
      givesUp := by
        intro db given
        rcases given with empty | empty | empty <;> exact empty
      frees := (leaves_shown_freeStmt driver.logged_quietCalls.toQuietHandles).triple []
      allocates := (leaves_shown_allocStmt driver.logged_quietCalls.toQuietHandles).triple []
      holds := fun _db empty => empty
      prepares := fun text => (leaves_shown_call (driver.logged_quietCalls.prepare text)).triple []
      binds := fun params => (leaves_shown_bindAll driver.logged_quietCalls 1 params).triple []
      forgets := fun _db empty => empty
      executes := (leaves_shown_call driver.logged_quietCalls.execute).triple []
      delivers := fun _answer => Leaves.triple (leaves_modify fun _db => rfl) []
      maps := buildColumnMap_quiet
      fetches := fetchRow_positioned
      marks := fun _db positioned => positioned }
  exact outline.triple sp

theorem executeStoredProcedure_executed (sp : String) :
    Triple (fun db : Object (Logged W) => db.log = [])
      (executeStoredProcedure driver.logged sp) Executed := by
  unfold executeStoredProcedure
  refine Triple.bind (leaves_get.triple []) ?_
  intro db
  exact Triple.ite (fun _plain => execute_executed _) (fun _params => execCall_executed sp)

/-- Next asks for one row more, or for none where there is no statement. -/
theorem next_log (db : Object (Logged W)) :
    (next driver.logged db).2.cols = db.cols ∧
      ((∃ r, (next driver.logged db).2.log = db.log ++ [.fetched r] ∧
          (next driver.logged db).1 = r.ok) ∨
        ((next driver.logged db).2.log = db.log ∧ (next driver.logged db).1 = false)) := by
  rw [next_eq]
  split
  · exact ⟨rfl, Or.inl ⟨_, rfl, rfl⟩⟩
  · exact ⟨rfl, Or.inr ⟨rfl, rfl⟩⟩

end Object

end RanOnline.Db
