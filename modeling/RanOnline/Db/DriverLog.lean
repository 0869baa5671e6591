/-
What a driver answered, in order.

A logged driver does what the driver does and keeps what it answered to SQLFetch
and SQLGetData.  The methods of OdbcDb cannot tell the two apart, so the log of a
request over any driver is a matter of fact.
-/
import RanOnline.Db.DriverMirror

namespace RanOnline.Db

open Memory Methods

inductive Answer
  | fetched (r : SqlReturn)
  | gotLong (col : Nat) (r : SqlReturn) (value : Option Int)
  | gotChar (col : Nat) (r : SqlReturn) (ind : Int) (byteAt : Nat → UInt8)

abbrev Logged (W : Type) := W × List Answer

namespace Driver

variable {W : Type} {α : Type}

def unlogged (body : StateM W α) : StateM (Logged W) α := fun state =>
  ((body state.1).1, ((body state.1).2, state.2))

def noting (answer : α → Answer) (body : StateM W α) : StateM (Logged W) α := fun state =>
  ((body state.1).1, ((body state.1).2, state.2 ++ [answer (body state.1).1]))

def logged (driver : Driver W) : Driver (Logged W) where
  allocHandle := fun handle => unlogged (driver.allocHandle handle)
  setEnvAttr := unlogged driver.setEnvAttr
  driverConnect := fun connStr => unlogged (driver.driverConnect connStr)
  disconnect := unlogged driver.disconnect
  freeHandle := fun handle => unlogged (driver.freeHandle handle)
  execDirect := fun sql => unlogged (driver.execDirect sql)
  prepare := fun call => unlogged (driver.prepare call)
  bindParameter := fun number param => unlogged (driver.bindParameter number param)
  execute := unlogged driver.execute
  numResultCols := unlogged driver.numResultCols
  describeCol := fun col => unlogged (driver.describeCol col)
  fetch := noting Answer.fetched driver.fetch
  getDataLong := fun col =>
    noting (fun answer => .gotLong col answer.1 answer.2) (driver.getDataLong col)
  getDataChar := fun col size =>
    noting (fun answer => .gotChar col answer.1 answer.2.1 answer.2.2)
      (driver.getDataChar col size)
  moreResults := unlogged driver.moreResults
  rowsLeft := fun state => driver.rowsLeft state.1
  resultsLeft := fun state => driver.resultsLeft state.1
  fetch_rowsLeft := fun state => driver.fetch_rowsLeft state.1
  getDataLong_rowsLeft := fun col state => driver.getDataLong_rowsLeft col state.1
  getDataChar_rowsLeft := fun col size state => driver.getDataChar_rowsLeft col size state.1
  moreResults_resultsLeft := fun state => driver.moreResults_resultsLeft state.1

/-- The log changes nothing. -/
theorem logged_shows (driver : Driver W) : driver.logged.Shows driver Prod.fst where
  allocHandle := fun _handle _state => ⟨rfl, rfl⟩
  freeHandle := fun _handle _state => ⟨rfl, rfl⟩
  execDirect := fun _sql _state => ⟨rfl, rfl⟩
  prepare := fun _text _state => ⟨rfl, rfl⟩
  bindParameter := fun _number _param _state => ⟨rfl, rfl⟩
  execute := fun _state => ⟨rfl, rfl⟩
  numResultCols := fun _state => ⟨rfl, rfl⟩
  describeCol := fun _col _state => ⟨rfl, rfl⟩
  fetch := fun _state => ⟨rfl, rfl⟩
  getDataLong := fun _col _state => ⟨rfl, rfl⟩
  getDataChar := fun _col _size _state => ⟨rfl, rfl⟩
  moreResults := fun _state => ⟨rfl, rfl⟩
  resultsLeft := fun _state => rfl

theorem logged_quiet (driver : Driver W) : driver.logged.Quiet Prod.snd where
  allocHandle := fun _handle _state => rfl
  freeHandle := fun _handle _state => rfl
  numResultCols := fun _state => rfl
  describeCol := fun _col _state => rfl

theorem logged_quietCalls (driver : Driver W) : driver.logged.QuietCalls Prod.snd where
  allocHandle := fun _handle _state => rfl
  freeHandle := fun _handle _state => rfl
  execDirect := fun _sql _state => rfl
  prepare := fun _text _state => rfl
  bindParameter := fun _number _param _state => rfl
  execute := fun _state => rfl

end Driver

namespace Object

variable {W : Type}

/-- The object over the driver itself. -/
def unlogged (db : Object (Logged W)) : Object W := db.seen Prod.fst

/-- The object with an empty log. -/
def withLog (db : Object W) : Object (Logged W) := db.seen fun w => (w, [])

def log (db : Object (Logged W)) : List Answer := db.driver.2

end Object

end RanOnline.Db
