/-
A driver that does what another driver does.

Its state shows the state of the other one, and each call answers as the other's does.
The methods of OdbcDb cannot tell the two apart, so whatever the first driver keeps
besides is a matter of fact about the second.  What it keeps is quiet where handles and
column names come and go.
-/
import RanOnline.Db.OdbcFrames
import RanOnline.Db.OdbcParams

namespace RanOnline.Db

open Memory Methods

variable {V W : Type}

/-- What each call of the first driver does, seen through its state, is what the second
driver does. -/
structure Driver.Shows (above : Driver V) (driver : Driver W) (see : V → W) : Prop where
  allocHandle : ∀ handle, Mirrors see (above.allocHandle handle) (driver.allocHandle handle)
  freeHandle : ∀ handle, Mirrors see (above.freeHandle handle) (driver.freeHandle handle)
  execDirect : ∀ sql, Mirrors see (above.execDirect sql) (driver.execDirect sql)
  prepare : ∀ text, Mirrors see (above.prepare text) (driver.prepare text)
  bindParameter : ∀ number param,
    Mirrors see (above.bindParameter number param) (driver.bindParameter number param)
  execute : Mirrors see above.execute driver.execute
  numResultCols : Mirrors see above.numResultCols driver.numResultCols
  describeCol : ∀ col, Mirrors see (above.describeCol col) (driver.describeCol col)
  fetch : Mirrors see above.fetch driver.fetch
  getDataLong : ∀ col, Mirrors see (above.getDataLong col) (driver.getDataLong col)
  getDataChar : ∀ col size, Mirrors see (above.getDataChar col size) (driver.getDataChar col size)
  moreResults : Mirrors see above.moreResults driver.moreResults
  resultsLeft : ∀ v, above.resultsLeft v = driver.resultsLeft (see v)

namespace Object

/-- The object over what its driver shows. -/
def seen (see : V → W) (db : Object V) : Object W :=
  { driver := see db.driver
    env := db.env
    conn := db.conn
    stmt := db.stmt
    eof := db.eof
    resultsDrained := db.resultsDrained
    paramsExecuted := db.paramsExecuted
    cols := db.cols
    params := db.params
    bindings := db.bindings
    written := db.written
    strayed := db.strayed }

variable {see : V → W}

theorem mirrors_call {α : Type} {body : StateM V α} {shown : StateM W α}
    (mirrors : Mirrors see body shown) : Mirrors (seen see) (call body) (call shown) := by
  intro db
  obtain ⟨value, after⟩ := mirrors db.driver
  constructor
  · exact value
  · change seen see { db with driver := (body db.driver).2 } =
      { db.seen see with driver := (shown (see db.driver)).2 }
    rw [← after]
    rfl

theorem mirrors_whenSet {body : Method V Unit} {shown : Method W Unit}
    {flag : Object V → Bool} {shownFlag : Object W → Bool}
    (same : ∀ db, flag db = shownFlag (db.seen see)) (mirrors : Mirrors (seen see) body shown) :
    Mirrors (seen see) (whenSet flag body) (whenSet shownFlag shown) := by
  intro db
  unfold whenSet
  rw [same]
  split
  · exact mirrors db
  · exact ⟨rfl, rfl⟩

theorem mirrors_addParam (param : Param) :
    Mirrors (seen see) (addParam param : Method V Unit) (addParam param) := by
  unfold addParam beginParam
  apply Mirrors.bind
  · apply mirrors_modify
    intro db
    change seen see (if db.paramsExecuted then _ else _) = if db.paramsExecuted then _ else _
    split
    · rfl
    · rfl
  · intro _begun
    exact mirrors_modify fun _db => rfl

variable {above : Driver V} {driver : Driver W} (shows : above.Shows driver see)

include shows

theorem mirrors_freeStmt : Mirrors (seen see) (freeStmt above) (freeStmt driver) := by
  unfold freeStmt
  apply Mirrors.bind
  · apply mirrors_whenSet (fun _db => rfl)
    apply (mirrors_call (shows.freeHandle .stmt)).bind
    intro _freed
    exact mirrors_modify fun _db => rfl
  · intro _freed
    exact mirrors_modify fun _db => rfl

theorem mirrors_allocStmt : Mirrors (seen see) (allocStmt above) (allocStmt driver) := by
  unfold allocStmt
  apply (mirrors_call (shows.allocHandle .stmt)).bind
  intro allocated
  apply Mirrors.bind
  · exact mirrors_modify fun _db => rfl
  · intro _noted
    exact mirrors_pure allocated

theorem mirrors_describeCols (cols : List Nat) :
    Mirrors (seen see) (describeCols above cols) (describeCols driver cols) := by
  induction cols with
  | nil => exact mirrors_pure ()
  | cons i rest ih =>
      unfold describeCols
      apply (mirrors_call (shows.describeCol i)).bind
      intro name
      cases name with
      | none => exact ih
      | some name =>
          apply Mirrors.bind
          · exact mirrors_modify fun _db => rfl
          · intro _noted
            exact ih

theorem mirrors_buildColumnMap :
    Mirrors (seen see) (buildColumnMap above) (buildColumnMap driver) := by
  unfold buildColumnMap
  apply Mirrors.bind
  · exact mirrors_modify fun _db => rfl
  · intro _cleared
    apply (mirrors_call shows.numResultCols).bind
    intro cols
    cases cols with
    | none => exact mirrors_pure ()
    | some cols => exact mirrors_describeCols shows _

theorem mirrors_fetchRow : Mirrors (seen see) (fetchRow above) (fetchRow driver) := by
  unfold fetchRow
  apply (mirrors_call shows.fetch).bind
  intro r
  apply Mirrors.bind
  · exact mirrors_modify fun _db => rfl
  · intro _noted
    exact mirrors_pure _

theorem mirrors_execDirect (sql : Bytes) :
    Mirrors (seen see) (execDirect above sql) (execDirect driver sql) := by
  unfold execDirect
  apply Mirrors.look
  intro db
  apply Mirrors.ite (mirrors_pure false)
  apply (mirrors_freeStmt shows).bind
  intro _freed
  apply (mirrors_allocStmt shows).bind
  intro allocated
  apply Mirrors.ite (mirrors_pure false)
  apply (mirrors_call (shows.execDirect sql)).bind
  intro r
  exact mirrors_pure _

theorem mirrors_execute (sql : Bytes) :
    Mirrors (seen see) (execute above sql) (execute driver sql) := by
  unfold execute
  apply (mirrors_execDirect shows sql).bind
  intro executed
  apply Mirrors.ite (mirrors_pure false)
  apply (mirrors_buildColumnMap shows).bind
  intro _mapped
  apply (mirrors_fetchRow shows).bind
  intro _positioned
  exact mirrors_pure true

theorem mirrors_bindAll (number : UInt16) (params : List Param) :
    Mirrors (seen see) (bindAll above number params) (bindAll driver number params) := by
  induction params generalizing number with
  | nil => exact mirrors_pure true
  | cons param rest ih =>
      unfold bindAll
      apply (mirrors_call (shows.bindParameter number param)).bind
      intro bound
      exact (mirrors_pure false).ite (ih (number + 1))

theorem mirrors_execCall (sp : String) :
    Mirrors (seen see) (execCall above sp) (execCall driver sp) := by
  unfold execCall
  apply Mirrors.look
  intro db
  apply Mirrors.ite (mirrors_pure false)
  apply (mirrors_freeStmt shows).bind
  intro _freed
  apply (mirrors_allocStmt shows).bind
  intro allocated
  apply Mirrors.ite (mirrors_pure false)
  apply Mirrors.look
  intro db
  apply (mirrors_call (shows.prepare _)).bind
  intro prepared
  apply Mirrors.ite (mirrors_pure false)
  apply (mirrors_bindAll shows 1 _).bind
  intro bound
  apply Mirrors.ite (mirrors_pure false)
  apply Mirrors.bind
  · exact mirrors_modify fun _db => rfl
  intro _forgotten
  apply (mirrors_call shows.execute).bind
  intro answer
  apply Mirrors.bind
  · exact mirrors_modify fun _db => rfl
  intro _delivered
  apply Mirrors.ite (mirrors_pure false)
  apply (mirrors_buildColumnMap shows).bind
  intro _mapped
  apply (mirrors_fetchRow shows).bind
  intro _positioned
  apply Mirrors.bind
  · exact mirrors_modify fun _db => rfl
  intro _noted
  exact mirrors_pure true

theorem mirrors_executeStoredProcedure (sp : String) :
    Mirrors (seen see) (executeStoredProcedure above sp) (executeStoredProcedure driver sp) := by
  unfold executeStoredProcedure
  apply Mirrors.look
  intro db
  exact (mirrors_execute shows _).ite (mirrors_execCall shows sp)

theorem mirrors_next : Mirrors (seen see) (next above) (next driver) := by
  unfold next
  apply Mirrors.look
  intro db
  apply Mirrors.ite
  · apply Mirrors.bind
    · exact mirrors_modify fun _db => rfl
    · intro _ended
      exact mirrors_pure false
  · exact mirrors_fetchRow shows

theorem mirrors_getCollect (column : String) :
    Mirrors (seen see) (getCollect above column) (getCollect driver column) := by
  unfold getCollect
  apply Mirrors.look
  intro db
  have same : colIndex db column = colIndex (db.seen see) column := rfl
  rw [same]
  cases colIndex (db.seen see) column with
  | none => exact mirrors_pure none
  | some idx =>
      apply (mirrors_call (shows.getDataLong idx)).bind
      intro value
      exact mirrors_pure _

theorem mirrors_getCollectString (column : String) :
    Mirrors (seen see) (getCollectString above column) (getCollectString driver column) := by
  unfold getCollectString
  apply Mirrors.look
  intro db
  have same : colIndex db column = colIndex (db.seen see) column := rfl
  rw [same]
  cases colIndex (db.seen see) column with
  | none => exact mirrors_pure _
  | some idx =>
      apply (mirrors_call (shows.getDataChar idx 4096)).bind
      intro value
      exact (mirrors_pure _).ite ((mirrors_pure _).ite (mirrors_pure _))

theorem mirrors_skipResults (fuel : Nat) :
    Mirrors (seen see) (skipResults above fuel) (skipResults driver fuel) := by
  induction fuel with
  | zero => exact mirrors_pure ()
  | succ fuel ih =>
      unfold skipResults
      apply (mirrors_call shows.moreResults).bind
      intro answer
      apply Mirrors.bind
      · exact mirrors_modify fun _db => rfl
      · intro _delivered
        exact ih.ite (mirrors_pure ())

theorem mirrors_drainResults :
    Mirrors (seen see) (drainResults above) (drainResults driver) := by
  unfold drainResults
  apply Mirrors.bind
  · apply mirrors_whenSet (fun _db => rfl)
    apply Mirrors.look
    intro db
    rw [shows.resultsLeft]
    exact mirrors_skipResults shows _
  · intro _skipped
    exact mirrors_modify fun _db => rfl

theorem mirrors_getParamAs {α : Type} (value : Bytes × Int → α) (unknown : α) (name : String) :
    Mirrors (seen see) (getParamAs above value unknown name)
      (getParamAs driver value unknown name) := by
  unfold getParamAs
  apply Mirrors.bind
  · exact mirrors_whenSet (fun _db => rfl) (mirrors_drainResults shows)
  · intro _drained
    apply Mirrors.look
    intro db
    exact mirrors_pure _

/-- So is OdbcDb as the servers use it. -/
theorem odbcDb_shows : (odbcDb above).Shows (odbcDb driver) (seen see) where
  isOpened := fun _db => rfl
  clearParams := mirrors_modify fun _db => rfl
  appendIParamInteger := fun _name _value => mirrors_addParam _
  appendIParamVarchar := fun _name _value _size => mirrors_addParam _
  appendOParamInteger := fun _name => mirrors_addParam _
  appendRParamInteger := mirrors_addParam _
  execute := mirrors_execute shows
  executeStoredProcedure := mirrors_executeStoredProcedure shows
  getEOF := fun _db => rfl
  next := mirrors_next shows
  getCollect := mirrors_getCollect shows
  getCollectString := by
    intro column db
    obtain ⟨value, after⟩ := mirrors_getCollectString shows column db
    constructor
    · simp only [odbcDb, value]
    · exact after
  getParam := by
    intro name
    change Mirrors (seen see) (getParam above name) (getParam driver name)
    rw [getParam_as, getParam_as]
    exact mirrors_getParamAs shows intValue none name

end Object

/-! ### A part of the driver's state -/

/-- The calls for handles leave the part alone. -/
structure Driver.QuietHandles {ι : Type} (driver : Driver W) (part : W → ι) : Prop where
  allocHandle : ∀ handle, Leaves part (driver.allocHandle handle)
  freeHandle : ∀ handle, Leaves part (driver.freeHandle handle)

/-- So do those for the names of columns. -/
structure Driver.Quiet {ι : Type} (driver : Driver W) (part : W → ι) : Prop
    extends driver.QuietHandles part where
  numResultCols : Leaves part driver.numResultCols
  describeCol : ∀ col, Leaves part (driver.describeCol col)

/-- So do those that execute statements. -/
structure Driver.QuietCalls {ι : Type} (driver : Driver W) (part : W → ι) : Prop
    extends driver.QuietHandles part where
  execDirect : ∀ sql, Leaves part (driver.execDirect sql)
  prepare : ∀ text, Leaves part (driver.prepare text)
  bindParameter : ∀ number param, Leaves part (driver.bindParameter number param)
  execute : Leaves part driver.execute

namespace Object

variable {ι : Type} {part : W → ι} {driver : Driver W}

def shown (part : W → ι) (db : Object W) : ι := part db.driver

theorem leaves_shown_call {α : Type} {body : StateM W α} (leaves : Leaves part body) :
    Leaves (shown part) (call body) := by
  intro db
  exact leaves db.driver

theorem leaves_shown_addParam (param : Param) :
    Leaves (shown part) (addParam param : Method W Unit) := by
  apply Leaves.bind
  · apply leaves_modify
    intro db
    change shown part (if db.paramsExecuted then _ else _) = _
    split <;> rfl
  · intro _begun
    exact leaves_modify fun _db => rfl

section Handles

variable (quiet : driver.QuietHandles part)

include quiet

theorem leaves_shown_freeStmt : Leaves (shown part) (freeStmt driver) := by
  unfold freeStmt
  apply Leaves.bind
  · apply leaves_whenSet
    apply (leaves_shown_call (quiet.freeHandle .stmt)).bind
    intro _freed
    exact leaves_modify fun _db => rfl
  · intro _freed
    exact leaves_modify fun _db => rfl

theorem leaves_shown_allocStmt : Leaves (shown part) (allocStmt driver) := by
  unfold allocStmt
  apply (leaves_shown_call (quiet.allocHandle .stmt)).bind
  intro allocated
  apply Leaves.bind
  · exact leaves_modify fun _db => rfl
  · intro _noted
    exact leaves_pure allocated

end Handles

section Statements

variable (quiet : driver.QuietCalls part)

include quiet

theorem leaves_shown_execDirect (sql : Bytes) : Leaves (shown part) (execDirect driver sql) := by
  unfold execDirect
  apply leaves_get.bind
  intro db
  apply (leaves_pure false).ite
  apply (leaves_shown_freeStmt quiet.toQuietHandles).bind
  intro _freed
  apply (leaves_shown_allocStmt quiet.toQuietHandles).bind
  intro allocated
  apply (leaves_pure false).ite
  apply (leaves_shown_call (quiet.execDirect sql)).bind
  intro r
  exact leaves_pure _

theorem leaves_shown_bindAll (number : UInt16) (params : List Param) :
    Leaves (shown part) (bindAll driver number params) := by
  induction params generalizing number with
  | nil => exact leaves_pure true
  | cons param rest ih =>
      unfold bindAll
      apply (leaves_shown_call (quiet.bindParameter number param)).bind
      intro bound
      exact (leaves_pure false).ite (ih (number + 1))

end Statements

section Columns

variable (quiet : driver.Quiet part)

include quiet

theorem leaves_shown_describeCols (cols : List Nat) :
    Leaves (shown part) (describeCols driver cols) := by
  induction cols with
  | nil => exact leaves_pure ()
  | cons i rest ih =>
      unfold describeCols
      apply (leaves_shown_call (quiet.describeCol i)).bind
      intro name
      cases name with
      | none => exact ih
      | some name =>
          apply Leaves.bind
          · exact leaves_modify fun _db => rfl
          · intro _noted
            exact ih

theorem leaves_shown_buildColumnMap : Leaves (shown part) (buildColumnMap driver) := by
  unfold buildColumnMap
  apply Leaves.bind
  · exact leaves_modify fun _db => rfl
  · intro _cleared
    apply (leaves_shown_call quiet.numResultCols).bind
    intro cols
    cases cols with
    | none => exact leaves_pure ()
    | some cols => exact leaves_shown_describeCols quiet _

end Columns

end Object

end RanOnline.Db
