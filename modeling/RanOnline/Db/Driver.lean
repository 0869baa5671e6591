/-
The ODBC calls that OdbcDb makes (db/odbc_db.cpp).

The driver and the database behind it are a state with one operation for each
call, so that a statement about all drivers covers every answer that the calls can
give.  The value buffers of bound parameters belong to OdbcDb; a call that may fill
output parameters says which of them it wrote.
-/
import RanOnline.Lib.Memory

namespace RanOnline.Db

open Memory

/-- SQLRETURN; `error` is every code that is no success and not SQL_NO_DATA. -/
inductive SqlReturn
  | success
  | successWithInfo
  | noData
  | error
  deriving DecidableEq, Repr

def SqlReturn.ok : SqlReturn → Bool
  | .success | .successWithInfo => true
  | .noData | .error => false

inductive HandleType
  | env
  | dbc
  | stmt
  deriving DecidableEq, Repr

inductive IoType
  | input
  | output
  deriving DecidableEq, Repr

/-- The SQL_C types of a bound buffer. -/
inductive CType
  | slong
  | char
  | sbigint
  | utinyint
  | sshort
  | double
  deriving DecidableEq, Repr

inductive SqlType
  | integer
  | varchar
  | bigint
  | tinyint
  | smallint
  | double
  deriving DecidableEq, Repr

/-- SQL_NULL_DATA and SQL_NTS, which a StrLen_or_Ind may hold in place of a length. -/
def sqlNullData : Int := -1

def sqlNts : Int := -3

/-- One accumulated bound parameter; `ind` is its StrLen_or_Ind. -/
structure Param where
  name : Bytes
  ioType : IoType
  isReturn : Bool
  cType : CType
  sqlType : SqlType
  columnSize : Nat
  decimalDigits : Nat
  buf : Bytes
  ind : Int
  deriving DecidableEq, Repr

/-- The driver writes an output parameter: the bytes to the front of its buffer, as
far as it goes, and the indicator. -/
structure Written where
  number : UInt16
  bytes : Bytes
  ind : Int
  deriving DecidableEq, Repr

structure Driver (W : Type) where
  /-- SQLAllocHandle; the handle is SQL_NULL_HANDLE where it fails. -/
  allocHandle : HandleType → StateM W Bool
  setEnvAttr : StateM W Unit
  driverConnect : Bytes → StateM W Bool
  disconnect : StateM W Unit
  freeHandle : HandleType → StateM W Unit
  execDirect : Bytes → StateM W SqlReturn
  prepare : Bytes → StateM W Bool
  bindParameter : UInt16 → Param → StateM W Bool
  execute : StateM W (SqlReturn × List Written)
  numResultCols : StateM W (Option Nat)
  describeCol : Nat → StateM W (Option Bytes)
  fetch : StateM W SqlReturn
  /-- SQLGetData as SQL_C_SLONG; none is SQL_NULL_DATA. -/
  getDataLong : Nat → StateM W (SqlReturn × Option Int)
  /-- SQLGetData as SQL_C_CHAR into a buffer of that size: the indicator and what
  the buffer then holds. -/
  getDataChar : Nat → Nat → StateM W (SqlReturn × Int × (Nat → UInt8))
  moreResults : StateM W (SqlReturn × List Written)
  rowsLeft : W → Nat
  resultsLeft : W → Nat
  /-- A result set is finite. -/
  fetch_rowsLeft : ∀ w, (fetch w).1.ok = true → rowsLeft (fetch w).2 < rowsLeft w
  getDataLong_rowsLeft : ∀ col w, rowsLeft (getDataLong col w).2 = rowsLeft w
  getDataChar_rowsLeft : ∀ col size w, rowsLeft (getDataChar col size w).2 = rowsLeft w
  /-- A procedure produces finitely many result sets. -/
  moreResults_resultsLeft : ∀ w, (moreResults w).1.1 = .success →
    resultsLeft (moreResults w).2 < resultsLeft w

/-- A driver that connects and answers every query without rows and every procedure
without outputs; `probes` says whether statements are executed. -/
def emptyDriver (probes : Bool) : Driver Unit where
  allocHandle := fun _handle => pure true
  setEnvAttr := pure ()
  driverConnect := fun _connStr => pure true
  disconnect := pure ()
  freeHandle := fun _handle => pure ()
  execDirect := fun _sql => pure (if probes then .success else .error)
  prepare := fun _call => pure true
  bindParameter := fun _number _param => pure true
  execute := pure (.success, [])
  numResultCols := pure (some 0)
  describeCol := fun _col => pure none
  fetch := pure .noData
  getDataLong := fun _col => pure (.error, none)
  getDataChar := fun _col _size => pure (.error, 0, fun _ => 0)
  moreResults := pure (.noData, [])
  rowsLeft := fun _w => 0
  resultsLeft := fun _w => 0
  fetch_rowsLeft := fun _w fetched => Bool.noConfusion fetched
  getDataLong_rowsLeft := fun _col _w => rfl
  getDataChar_rowsLeft := fun _col _size _w => rfl
  moreResults_resultsLeft := fun _w more => SqlReturn.noConfusion more

/-- A driver with one row behind every statement, where these are the outputs of a
procedure, the name of the one column, and its text. -/
def oneRowDriver (written : List Written) (column : Bytes) (ind : Int) (byteAt : Nat → UInt8) :
    Driver Bool where
  allocHandle := fun _handle => pure true
  setEnvAttr := pure ()
  driverConnect := fun _connStr => pure true
  disconnect := pure ()
  freeHandle := fun _handle => pure ()
  execDirect := fun _sql _row => (.success, true)
  prepare := fun _call => pure true
  bindParameter := fun _number _param => pure true
  execute := fun _row => ((.success, written), true)
  numResultCols := pure (some 1)
  describeCol := fun _col => pure (some column)
  fetch := fun row => (if row then .success else .noData, false)
  getDataLong := fun _col => pure (.error, none)
  getDataChar := fun _col _size => pure (.successWithInfo, ind, byteAt)
  moreResults := pure (.noData, [])
  rowsLeft := fun row => if row then 1 else 0
  resultsLeft := fun _row => 0
  fetch_rowsLeft := by
    intro row fetched
    cases row with
    | false => cases fetched
    | true => exact Nat.zero_lt_one
  getDataLong_rowsLeft := fun _col _row => rfl
  getDataChar_rowsLeft := fun _col _size _row => rfl
  moreResults_resultsLeft := fun _row more => SqlReturn.noConfusion more

end RanOnline.Db
