/-
What is bound with AppendIParamVarchar.

A recorded database does what the database does and keeps the strings that it is
given, with the size of the column that each of them is bound with.
-/
import RanOnline.Db.OdbcDb
import RanOnline.Db.OdbcObject
import RanOnline.Lib.Method

namespace RanOnline.Db

open Memory Methods

/-- A call of AppendIParamVarchar. -/
structure Varchar where
  name : String
  value : Bytes
  size : Int
  deriving DecidableEq, Repr

/-- The parameter that the call adds. -/
def Varchar.param (bound : Varchar) : Param :=
  Object.varcharParam (Object.text bound.name) bound.value bound.size

/-- The column has room for the whole string. -/
def Varchar.Fits (bound : Varchar) : Prop := bound.value.length ≤ bound.param.columnSize

theorem Varchar.fits_sized (name : String) (value : Bytes) {size : Nat} (positive : 0 < size) :
    Varchar.Fits { name := name, value := value, size := size } ↔ value.length ≤ size := by
  have column : (Varchar.mk name value size).param.columnSize = size :=
    if_pos (Int.natCast_pos.mpr positive)
  rw [Varchar.Fits, column]

/-- A column of the size of the string is not shorter than it, an empty one included. -/
theorem Varchar.fits_whole (name : String) (value : Bytes) :
    Varchar.Fits { name := name, value := value, size := value.length } := by
  cases value with
  | nil => exact Nat.zero_le _
  | cons first rest =>
      exact (Varchar.fits_sized name (first :: rest) (Nat.succ_pos _)).mpr (Nat.le_refl _)

theorem appendIParamVarchar_param {W : Type} (bound : Varchar) :
    (Object.appendIParamVarchar bound.name bound.value bound.size : Method W Unit) =
      Object.addParam bound.param := rfl

namespace OdbcDb

variable {D : Type} (odbc : OdbcDb D)

def recorded : OdbcDb (D × List Varchar) where
  isOpened := fun db => odbc.isOpened db.1
  clearParams := beside odbc.clearParams
  appendIParamInteger := fun name value => beside (odbc.appendIParamInteger name value)
  appendIParamVarchar := fun name value size db =>
    ((odbc.appendIParamVarchar name value size db.1).1,
      (odbc.appendIParamVarchar name value size db.1).2,
      db.2 ++ [{ name := name, value := value, size := size }])
  appendOParamInteger := fun name => beside (odbc.appendOParamInteger name)
  appendRParamInteger := beside odbc.appendRParamInteger
  execute := fun query => beside (odbc.execute query)
  executeStoredProcedure := fun name => beside (odbc.executeStoredProcedure name)
  getEOF := fun db => odbc.getEOF db.1
  next := beside odbc.next
  getCollect := fun name => beside (odbc.getCollect name)
  getCollectString := fun name => beside (odbc.getCollectString name)
  getParam := fun name => beside (odbc.getParam name)
  rowsLeft := fun db => odbc.rowsLeft db.1
  next_eof := fun db => odbc.next_eof db.1
  next_rowsLeft := fun db => odbc.next_rowsLeft db.1
  getCollect_rowsLeft := fun name db => odbc.getCollect_rowsLeft name db.1
  getCollectString_rowsLeft := fun name db => odbc.getCollectString_rowsLeft name db.1

/-- The strings that the method binds over the recorded database. -/
abbrev Binds {α : Type} (bound : List Varchar) (method : StateM (D × List Varchar) α) : Prop :=
  Appends Prod.snd bound method

variable {odbc}

theorem binds_varchar (name : String) (value : Bytes) (size : Int) :
    Binds [{ name := name, value := value, size := size }]
      (odbc.recorded.appendIParamVarchar name value size) := by
  intro _db
  rfl

/-- The record changes nothing. -/
theorem recorded_shows (odbc : OdbcDb D) : odbc.recorded.Shows odbc Prod.fst where
  isOpened := fun _db => rfl
  clearParams := mirrors_beside _
  appendIParamInteger := fun _name _value => mirrors_beside _
  appendIParamVarchar := fun _name _value _size _db => ⟨rfl, rfl⟩
  appendOParamInteger := fun _name => mirrors_beside _
  appendRParamInteger := mirrors_beside _
  execute := fun _query => mirrors_beside _
  executeStoredProcedure := fun _name => mirrors_beside _
  getEOF := fun _db => rfl
  next := mirrors_beside _
  getCollect := fun _name => mirrors_beside _
  getCollectString := fun _name => mirrors_beside _
  getParam := fun _name => mirrors_beside _

end OdbcDb

end RanOnline.Db
