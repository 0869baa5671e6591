/-
How a driver named the columns of a result set.

A describing driver does what the driver does and keeps what it answered to
SQLDescribeCol.  The column map of OdbcDb is read off these answers.
-/
import RanOnline.Db.DriverMirror

namespace RanOnline.Db

open Memory Methods

/-- An answer of SQLDescribeCol; none is an error. -/
structure ColumnName where
  col : Nat
  name : Option Bytes
  deriving DecidableEq, Repr

/-- The names without regard to case, the last column of a name before the others. -/
def columnsOf (answers : List ColumnName) : List (Bytes × Nat) :=
  (answers.filterMap fun answer =>
    answer.name.map fun name => (Object.lower name, answer.col)).reverse

theorem columnsOf_snoc (answers : List ColumnName) (answer : ColumnName) :
    columnsOf (answers ++ [answer]) =
      match answer.name with
      | none => columnsOf answers
      | some name => (Object.lower name, answer.col) :: columnsOf answers := by
  rw [columnsOf, List.filterMap_append, List.reverse_append]
  cases named : answer.name with
  | none => simp only [List.filterMap_cons, named, Option.map_none]; rfl
  | some name => simp only [List.filterMap_cons, named, Option.map_some]; rfl

namespace Driver

variable {W : Type}

def describing (driver : Driver W) : Driver (W × List ColumnName) where
  allocHandle := fun handle => beside (driver.allocHandle handle)
  setEnvAttr := beside driver.setEnvAttr
  driverConnect := fun connStr => beside (driver.driverConnect connStr)
  disconnect := beside driver.disconnect
  freeHandle := fun handle => beside (driver.freeHandle handle)
  execDirect := fun sql => beside (driver.execDirect sql)
  prepare := fun call => beside (driver.prepare call)
  bindParameter := fun number param => beside (driver.bindParameter number param)
  execute := beside driver.execute
  numResultCols := beside driver.numResultCols
  describeCol := fun col state =>
    ((driver.describeCol col state.1).1, (driver.describeCol col state.1).2,
      state.2 ++ [{ col := col, name := (driver.describeCol col state.1).1 }])
  fetch := beside driver.fetch
  getDataLong := fun col => beside (driver.getDataLong col)
  getDataChar := fun col size => beside (driver.getDataChar col size)
  moreResults := beside driver.moreResults
  rowsLeft := fun state => driver.rowsLeft state.1
  resultsLeft := fun state => driver.resultsLeft state.1
  fetch_rowsLeft := fun state => driver.fetch_rowsLeft state.1
  getDataLong_rowsLeft := fun col state => driver.getDataLong_rowsLeft col state.1
  getDataChar_rowsLeft := fun col size state => driver.getDataChar_rowsLeft col size state.1
  moreResults_resultsLeft := fun state => driver.moreResults_resultsLeft state.1

theorem describing_shows (driver : Driver W) : driver.describing.Shows driver Prod.fst where
  allocHandle := fun _handle => mirrors_beside _
  freeHandle := fun _handle => mirrors_beside _
  execDirect := fun _sql => mirrors_beside _
  prepare := fun _text => mirrors_beside _
  bindParameter := fun _number _param => mirrors_beside _
  execute := mirrors_beside _
  numResultCols := mirrors_beside _
  describeCol := fun _col _state => ⟨rfl, rfl⟩
  fetch := mirrors_beside _
  getDataLong := fun _col => mirrors_beside _
  getDataChar := fun _col _size => mirrors_beside _
  moreResults := mirrors_beside _
  resultsLeft := fun _state => rfl

theorem describing_quietCalls (driver : Driver W) : driver.describing.QuietCalls Prod.snd where
  allocHandle := fun _handle => leaves_beside _
  freeHandle := fun _handle => leaves_beside _
  execDirect := fun _sql => leaves_beside _
  prepare := fun _text => leaves_beside _
  bindParameter := fun _number _param => leaves_beside _
  execute := leaves_beside _

end Driver

namespace Object

variable {W : Type} {driver : Driver W}

/-- The object before any column is described. -/
def undescribed (db : Object W) : Object (W × List ColumnName) := db.seen fun w => (w, [])

/-- The column map is that of the answers. -/
def Mapped (db : Object (W × List ColumnName)) : Prop := db.cols = columnsOf (shown Prod.snd db)

theorem describeCols_mapped (cols : List Nat) :
    Triple Mapped (describeCols driver.describing cols) fun _described => Mapped := by
  induction cols with
  | nil => exact triple_pure fun _db mapped => mapped
  | cons i rest ih =>
      have asked : Triple Mapped (call (driver.describing.describeCol i)) fun name db =>
          columnsOf (shown Prod.snd db) =
            match name with
            | none => db.cols
            | some name => (lower name, i) :: db.cols := by
        intro db mapped
        change columnsOf (db.driver.2 ++ [_]) = _
        rw [columnsOf_snoc]
        change (match (driver.describeCol i db.driver.1).1 with
          | none => columnsOf db.driver.2
          | some name => (lower name, i) :: columnsOf db.driver.2) =
          match (driver.describeCol i db.driver.1).1 with
          | none => db.cols
          | some name => (lower name, i) :: db.cols
        rw [show db.cols = columnsOf db.driver.2 from mapped]
      unfold describeCols
      refine Triple.bind asked ?_
      intro name
      cases name with
      | none => exact fun db same => ih db same.symm
      | some name =>
          intro db same
          exact ih { db with cols := (lower name, i) :: db.cols } same.symm

theorem buildColumnMap_mapped :
    Triple (fun db : Object (W × List ColumnName) => shown Prod.snd db = [])
      (buildColumnMap driver.describing) fun _mapped => Mapped := by
  have cleared : Triple (fun db : Object (W × List ColumnName) => shown Prod.snd db = [])
      (modify fun db => { db with cols := [] } : Method (W × List ColumnName) Unit)
      fun _cleared => Mapped := by
    intro db empty
    change [] = columnsOf (shown Prod.snd db)
    rw [empty]
    rfl
  have asked : Leaves Mapped (call driver.describing.numResultCols) := fun _db => rfl
  unfold buildColumnMap
  refine Triple.bind cleared ?_
  intro _cleared
  refine Triple.bind asked.keeps ?_
  intro cols
  cases cols with
  | none => exact triple_pure fun _db mapped => mapped
  | some cols => exact describeCols_mapped (List.range' 1 cols)

theorem fetchRow_mapped : Leaves Mapped (fetchRow driver.describing) := fun _db => rfl

theorem execute_mapped (sql : Bytes) :
    Triple (fun db : Object (W × List ColumnName) => shown Prod.snd db = [])
      (execute driver.describing sql) fun executed db => executed = true → Mapped db := by
  unfold execute
  refine Triple.bind ((leaves_shown_execDirect driver.describing_quietCalls sql).triple []) ?_
  intro executed
  refine Triple.ite (fun _failed => triple_pure fun _db _empty impossible => nomatch impossible) ?_
  intro _executed
  refine Triple.bind buildColumnMap_mapped ?_
  intro _mapped
  refine Triple.bind fetchRow_mapped.keeps ?_
  intro _positioned
  exact triple_pure fun _db mapped _succeeded => mapped

theorem execCall_mapped (sp : String) :
    Triple (fun db : Object (W × List ColumnName) => shown Prod.snd db = [])
      (execCall driver.describing sp) fun executed db => executed = true → Mapped db := by
  have quiet := driver.describing_quietCalls
  have outline : CallOutline driver.describing (fun db => shown Prod.snd db = [])
      (fun executed db => executed = true → Mapped db) :=
    { freed := fun db => shown Prod.snd db = []
      allocated := fun _allocated db => shown Prod.snd db = []
      held := fun db => shown Prod.snd db = []
      forgotten := fun db => shown Prod.snd db = []
      answered := fun _answer db => shown Prod.snd db = []
      ran := fun db => shown Prod.snd db = []
      mapped := Mapped
      positioned := Mapped
      refuses := fun _db _given _closed impossible => Bool.noConfusion impossible
      givesUp := fun _db _given impossible => Bool.noConfusion impossible
      frees := (leaves_shown_freeStmt quiet.toQuietHandles).triple []
      allocates := (leaves_shown_allocStmt quiet.toQuietHandles).triple []
      holds := fun _db empty => empty
      prepares := fun text => (leaves_shown_call (quiet.prepare text)).triple []
      binds := fun params => (leaves_shown_bindAll quiet 1 params).triple []
      forgets := fun _db empty => empty
      executes := (leaves_shown_call quiet.execute).triple []
      delivers := fun _answer => Leaves.triple (leaves_modify fun _db => rfl) []
      maps := buildColumnMap_mapped
      fetches := fetchRow_mapped.keeps
      marks := fun _db mapped _succeeded => mapped }
  exact outline.triple sp

/-- A procedure that succeeds leaves the columns as the driver named them. -/
theorem executeStoredProcedure_mapped (sp : String) :
    Triple (fun db : Object (W × List ColumnName) => shown Prod.snd db = [])
      (executeStoredProcedure driver.describing sp)
      fun executed db => executed = true → Mapped db := by
  unfold executeStoredProcedure
  refine Triple.bind (leaves_get.triple []) ?_
  intro _before
  exact Triple.ite (fun _plain => execute_mapped _) (fun _params => execCall_mapped sp)

end Object

end RanOnline.Db
