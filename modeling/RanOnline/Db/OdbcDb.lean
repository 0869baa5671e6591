/-
The interface of OdbcDb (db/odbc_db.h) as the servers use it.

`D` is the state of the object together with its driver and the database behind
it; the operations are arbitrary, so a statement about all of them covers every
answer that a database can give.  A getter returns `none` where the source
returns false: its output argument is then zero, or empty.
-/
import RanOnline.Lib.Memory
import RanOnline.Lib.Method

namespace RanOnline.Db

open Memory Methods

structure OdbcDb (D : Type) where
  isOpened : D → Bool
  clearParams : StateM D Unit
  appendIParamInteger : String → Int → StateM D Unit
  appendIParamVarchar : String → Bytes → Int → StateM D Unit
  appendOParamInteger : String → StateM D Unit
  appendRParamInteger : StateM D Unit
  execute : Bytes → StateM D Bool
  executeStoredProcedure : String → StateM D Bool
  getEOF : D → Bool
  next : StateM D Bool
  getCollect : String → StateM D (Option Int)
  getCollectString : String → StateM D (Option Bytes)
  getParam : String → StateM D (Option Int)
  /-- A result set is finite. -/
  rowsLeft : D → Nat
  next_eof : ∀ db, getEOF (next db).2 = !(next db).1
  next_rowsLeft : ∀ db, (next db).1 = true → rowsLeft (next db).2 < rowsLeft db
  getCollect_rowsLeft : ∀ name db, rowsLeft (getCollect name db).2 = rowsLeft db
  getCollectString_rowsLeft : ∀ name db, rowsLeft (getCollectString name db).2 = rowsLeft db

namespace OdbcDb

variable {D : Type} (odbc : OdbcDb D)

/-- The rows that a loop over the result set still has to visit. -/
def unvisited (db : D) : Nat := if odbc.getEOF db then 0 else odbc.rowsLeft db + 1

theorem unvisited_next {db before : D} (more : odbc.getEOF db = false)
    (same : odbc.rowsLeft before = odbc.rowsLeft db) :
    odbc.unvisited (odbc.next before).2 < odbc.unvisited db := by
  have eof := odbc.next_eof before
  simp only [unvisited, more, Bool.false_eq_true, if_false]
  cases fetched : (odbc.next before).1 with
  | false =>
      rw [fetched] at eof
      rw [eof]
      exact Nat.succ_pos _
  | true =>
      have fewer := odbc.next_rowsLeft before fetched
      rw [fetched] at eof
      rw [eof]
      simp only [Bool.not_true, Bool.false_eq_true, if_false]
      omega

/-- What each operation of the first database does, seen through its state, is what the
second one does. -/
structure Shows {E : Type} (above : OdbcDb E) (odbc : OdbcDb D) (see : E → D) : Prop where
  isOpened : ∀ db, above.isOpened db = odbc.isOpened (see db)
  clearParams : Mirrors see above.clearParams odbc.clearParams
  appendIParamInteger : ∀ name value,
    Mirrors see (above.appendIParamInteger name value) (odbc.appendIParamInteger name value)
  appendIParamVarchar : ∀ name value size,
    Mirrors see (above.appendIParamVarchar name value size)
      (odbc.appendIParamVarchar name value size)
  appendOParamInteger : ∀ name,
    Mirrors see (above.appendOParamInteger name) (odbc.appendOParamInteger name)
  appendRParamInteger : Mirrors see above.appendRParamInteger odbc.appendRParamInteger
  execute : ∀ query, Mirrors see (above.execute query) (odbc.execute query)
  executeStoredProcedure : ∀ name,
    Mirrors see (above.executeStoredProcedure name) (odbc.executeStoredProcedure name)
  getEOF : ∀ db, above.getEOF db = odbc.getEOF (see db)
  next : Mirrors see above.next odbc.next
  getCollect : ∀ name, Mirrors see (above.getCollect name) (odbc.getCollect name)
  getCollectString : ∀ name,
    Mirrors see (above.getCollectString name) (odbc.getCollectString name)
  getParam : ∀ name, Mirrors see (above.getParam name) (odbc.getParam name)

end OdbcDb

/-- A database that answers every procedure with the next value of a list, and with
one row that has the same number in every column. -/
structure Script where
  answers : List (Option Int)
  answer : Option Int
  row : Bool
  deriving DecidableEq, Repr

def Script.start (answers : List (Option Int)) : Script :=
  { answers := answers
    answer := none
    row := false }

def scriptedDb (column : Int) : OdbcDb Script :=
  { isOpened := fun _db => true
    clearParams := pure ()
    appendIParamInteger := fun _name _value => pure ()
    appendIParamVarchar := fun _name _value _size => pure ()
    appendOParamInteger := fun _name => pure ()
    appendRParamInteger := pure ()
    execute := fun _query db => (true, { db with row := true })
    executeStoredProcedure := fun _name db =>
      (true,
        { answers := db.answers.tail
          answer := db.answers.head?.join
          row := true })
    getEOF := fun db => !db.row
    next := fun db => (false, { db with row := false })
    getCollect := fun _name db => (some column, db)
    getCollectString := fun _name db => (some [], db)
    getParam := fun _name db => (db.answer, db)
    rowsLeft := fun _db => 0
    next_eof := fun _db => rfl
    next_rowsLeft := fun _db fetched => nomatch fetched
    getCollect_rowsLeft := fun _name _db => rfl
    getCollectString_rowsLeft := fun _name _db => rfl }

end RanOnline.Db
