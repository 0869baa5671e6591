/-
What a stored procedure call asks of the driver, in order.

A recorded driver does what the driver does and keeps the statements that it was
given, the parameters that were bound, the execution and its further results.  The calls of one
ExecuteStoredProcedure are a first part of the calls that its parameters ask for, and
all of them where it succeeds.
-/
import RanOnline.Db.DriverMirror

namespace RanOnline.Db

open Memory Methods

inductive DriverCall
  | prepare (text : Bytes)
  | bind (number : UInt16) (param : Param)
  | execute
  | direct (sql : Bytes)
  | moreResults (r : SqlReturn)
  deriving DecidableEq, Repr

abbrev Recorded (W : Type) := W × List DriverCall

namespace Driver

variable {W : Type} {α : Type}

def silently (body : StateM W α) : StateM (Recorded W) α := fun state =>
  ((body state.1).1, ((body state.1).2, state.2))

def recording (entry : α → DriverCall) (body : StateM W α) : StateM (Recorded W) α := fun state =>
  ((body state.1).1, ((body state.1).2, state.2 ++ [entry (body state.1).1]))

def recorded (driver : Driver W) : Driver (Recorded W) where
  allocHandle := fun handle => silently (driver.allocHandle handle)
  setEnvAttr := silently driver.setEnvAttr
  driverConnect := fun connStr => silently (driver.driverConnect connStr)
  disconnect := silently driver.disconnect
  freeHandle := fun handle => silently (driver.freeHandle handle)
  execDirect := fun sql => recording (fun _r => .direct sql) (driver.execDirect sql)
  prepare := fun call => recording (fun _ready => .prepare call) (driver.prepare call)
  bindParameter := fun number param =>
    recording (fun _bound => .bind number param) (driver.bindParameter number param)
  execute := recording (fun _answer => .execute) driver.execute
  numResultCols := silently driver.numResultCols
  describeCol := fun col => silently (driver.describeCol col)
  fetch := silently driver.fetch
  getDataLong := fun col => silently (driver.getDataLong col)
  getDataChar := fun col size => silently (driver.getDataChar col size)
  moreResults := recording (fun answer => .moreResults answer.1) driver.moreResults
  rowsLeft := fun state => driver.rowsLeft state.1
  resultsLeft := fun state => driver.resultsLeft state.1
  fetch_rowsLeft := fun state => driver.fetch_rowsLeft state.1
  getDataLong_rowsLeft := fun col state => driver.getDataLong_rowsLeft col state.1
  getDataChar_rowsLeft := fun col size state => driver.getDataChar_rowsLeft col size state.1
  moreResults_resultsLeft := fun state => driver.moreResults_resultsLeft state.1

/-- The record changes nothing. -/
theorem recorded_shows (driver : Driver W) : driver.recorded.Shows driver Prod.fst where
  allocHandle := fun _handle _state => ⟨rfl, rfl⟩
  freeHandle := fun _handle _state => ⟨rfl, rfl⟩
  execDirect := fun _sql _state => ⟨rfl, rfl⟩
  prepare := fun _text _state => ⟨rfl, rfl⟩
  bindParameter := fun _number _param _state => ⟨rfl, rfl⟩
  execute := fun _state => ⟨rfl, rfl⟩
  numResultCols := fun _state => ⟨rfl, rfl⟩
  describeCol := fun _col _state => ⟨rfl, rfl⟩
  fetch := fun _state => ⟨rfl, rfl⟩
  getDataLong := fun _col _state => ⟨rfl, rfl⟩
  getDataChar := fun _col _size _state => ⟨rfl, rfl⟩
  moreResults := fun _state => ⟨rfl, rfl⟩
  resultsLeft := fun _state => rfl

theorem recorded_quiet (driver : Driver W) : driver.recorded.Quiet Prod.snd where
  allocHandle := fun _handle _state => rfl
  freeHandle := fun _handle _state => rfl
  numResultCols := fun _state => rfl
  describeCol := fun _col _state => rfl

end Driver

namespace Object

variable {W : Type} {driver : Driver W}

/-- The object with an empty record. -/
def withRecord (db : Object W) : Object (Recorded W) := db.seen fun w => (w, [])

def record (db : Object (Recorded W)) : List DriverCall := db.driver.2

/-- What execCall asks of the driver in this state. -/
def callCalls (driver : Driver W) (sp : String) (db : Object W) : List DriverCall :=
  (execCall driver.recorded sp db.withRecord).2.record

/-- What ExecuteStoredProcedure asks of the driver in this state. -/
def procedureCalls (driver : Driver W) (sp : String) (db : Object W) : List DriverCall :=
  (executeStoredProcedure driver.recorded sp db.withRecord).2.record

/-- Parameters with their numbers, one after another. -/
def numbered : UInt16 → List Param → List (UInt16 × Param)
  | _, [] => []
  | number, param :: rest => (number, param) :: numbered (number + 1) rest

/-- The bindings of a list of parameters, numbered from there. -/
def bindCalls (number : UInt16) (params : List Param) : List DriverCall :=
  (numbered number params).map fun bound => .bind bound.1 bound.2

/-- The calls for a call escape: it is prepared, bound and executed. -/
def escapeCalls (params : List Param) (sp : String) : List DriverCall :=
  .prepare (callText params sp) :: (bindCalls 1 (bindOrder params) ++ [.execute])

/-- A procedure without parameters is a plain statement, any other one a call escape. -/
def expectedCalls (params : List Param) (sp : String) : List DriverCall :=
  if params.isEmpty then [.direct (text ("EXEC " ++ sp))] else escapeCalls params sp

/-- The record is a first part of `whole`, and all of it after a success. -/
def Complete (whole : List DriverCall) (succeeded : Bool) (db : Object (Recorded W)) : Prop :=
  db.record <+: whole ∧ (succeeded = true → db.record = whole)

/-! ### The record of each method -/

theorem leaves_record_fetchRow : Leaves record (fetchRow driver.recorded) := by
  unfold fetchRow
  apply Leaves.bind
  · exact leaves_shown_call fun _state => rfl
  intro r
  apply Leaves.bind
  · exact leaves_modify fun _db => rfl
  · intro _noted
    exact leaves_pure _

theorem call_recording {α : Type} (entry : DriverCall) (body : StateM W α)
    (before : List DriverCall) :
    Triple (fun db : Object (Recorded W) => db.record = before)
      (call (Driver.recording (fun _answer => entry) body)) (fun _done db => db.record = before ++ [entry]) := by
  intro db same
  change db.record ++ [entry] = before ++ [entry]
  rw [same]

/-- A method that gives up has made its calls so far. -/
theorem refused_complete {before whole : List DriverCall} (first : before <+: whole) :
    Triple (fun db : Object (Recorded W) => db.record = before)
      (pure false : Method (Recorded W) Bool) (Complete whole) := by
  intro db same
  constructor
  · exact same.symm ▸ first
  · intro impossible
    cases impossible

theorem bindAll_complete (number : UInt16) (params : List Param) (before : List DriverCall) :
    Triple (fun db : Object (Recorded W) => db.record = before)
      (bindAll driver.recorded number params) (Complete (before ++ bindCalls number params)) := by
  induction params generalizing number before with
  | nil =>
      intro db same
      have whole : db.record = before ++ bindCalls number [] := by
        rw [same, bindCalls, numbered, List.map_nil, List.append_nil]
      exact ⟨whole ▸ List.prefix_refl _, fun _bound => whole⟩
  | cons param rest ih =>
      have split : before ++ bindCalls number (param :: rest) =
          before ++ [.bind number param] ++ bindCalls (number + 1) rest := by
        rw [bindCalls, numbered, List.map_cons, List.append_assoc, List.singleton_append,
          bindCalls]
      rw [split]
      unfold bindAll
      refine Triple.bind (call_recording (.bind number param) _ before) ?_
      intro bound
      refine Triple.ite ?_ ?_
      · intro _failed
        exact refused_complete (List.prefix_append _ _)
      · intro _bound
        exact ih (number + 1) (before ++ [.bind number param])

theorem execDirect_complete (sql : Bytes) :
    Triple (fun db : Object (Recorded W) => db.record = []) (execDirect driver.recorded sql)
      (Complete [.direct sql]) := by
  unfold execDirect
  refine Triple.bind (leaves_get.triple []) ?_
  intro db
  refine Triple.ite (fun _closed => refused_complete (List.nil_prefix)) ?_
  intro _opened
  refine Triple.bind ((leaves_shown_freeStmt driver.recorded_quiet.toQuietHandles).triple []) ?_
  intro _freed
  refine Triple.bind ((leaves_shown_allocStmt driver.recorded_quiet.toQuietHandles).triple []) ?_
  intro _allocated
  refine Triple.ite (fun _failed => refused_complete (List.nil_prefix)) ?_
  intro _held
  refine Triple.bind (call_recording (.direct sql) _ []) ?_
  intro r db same
  exact ⟨same ▸ List.prefix_refl _, fun _done => same⟩

/-- What follows a success leaves the record alone. -/
theorem positioned_complete (whole : List DriverCall)
    (noted : Object (Recorded W) → Object (Recorded W))
    (silent : ∀ db, (noted db).record = db.record) :
    Triple (fun db : Object (Recorded W) => db.record = whole) (do
      buildColumnMap driver.recorded
      let _positioned ← fetchRow driver.recorded
      modify noted
      pure true) (Complete whole) := by
  refine Triple.bind ((leaves_shown_buildColumnMap driver.recorded_quiet).triple whole) ?_
  intro _mapped
  refine Triple.bind (leaves_record_fetchRow.triple whole) ?_
  intro _positioned db same
  have kept := (silent db).trans same
  exact ⟨kept ▸ List.prefix_refl _, fun _done => kept⟩

theorem execute_complete (sql : Bytes) :
    Triple (fun db : Object (Recorded W) => db.record = []) (execute driver.recorded sql)
      (Complete [.direct sql]) := by
  unfold execute
  refine Triple.bind (execDirect_complete sql) ?_
  intro executed
  refine Triple.ite ?_ ?_
  · intro failed db complete
    exact ⟨complete.1, fun impossible => Bool.noConfusion impossible⟩
  · intro succeeded db complete
    have whole : db.record = [.direct sql] := complete.2 (by
      cases executed with
      | false => exact absurd rfl succeeded
      | true => rfl)
    exact positioned_complete [.direct sql] id (fun _db => rfl) db whole

theorem deliver_record (written : List Written) :
    Leaves record (deliver written : Method (Recorded W) Unit) :=
  leaves_modify fun _db => rfl

theorem executed_complete (whole : List DriverCall) :
    Triple (fun db : Object (Recorded W) => db.record = whole)
      (do
        buildColumnMap driver.recorded
        let _positioned ← fetchRow driver.recorded
        modify fun db => { db with resultsDrained := false, paramsExecuted := true }
        return true) (Complete whole) :=
  positioned_complete whole _ fun _db => rfl

theorem execCall_complete (sp : String) (params : List Param) :
    Triple (fun db : Object (Recorded W) => PProd.mk db.record db.params = ⟨[], params⟩)
      (execCall driver.recorded sp)
      (Complete (escapeCalls params sp)) := by
  unfold execCall
  refine Triple.bind (leaves_get.triple _) ?_
  intro before
  refine Triple.ite ?_ ?_
  · intro _closed db same
    exact refused_complete List.nil_prefix db (congrArg PProd.fst same)
  intro _opened
  refine Triple.bind (((leaves_shown_freeStmt driver.recorded_quiet.toQuietHandles).pair
    (leaves_freeStmt outside_params)).triple _) ?_
  intro _freed
  refine Triple.bind (((leaves_shown_allocStmt driver.recorded_quiet.toQuietHandles).pair
    (leaves_allocStmt outside_params)).triple _) ?_
  intro _allocated
  refine Triple.ite ?_ ?_
  · intro _failed db same
    exact refused_complete List.nil_prefix db (congrArg PProd.fst same)
  intro _held
  have looks : Triple (fun db : Object (Recorded W) => PProd.mk db.record db.params = ⟨[], params⟩)
      get (fun current db => current.params = params ∧ db.record = []) := by
    intro db same
    exact ⟨congrArg PProd.snd same, congrArg PProd.fst same⟩
  refine Triple.bind looks ?_
  intro current
  apply Triple.known
  intro bound
  rw [bound]
  refine Triple.bind (call_recording (.prepare (callText params sp)) _ []) ?_
  intro _prepared
  refine Triple.ite (fun _failed => refused_complete (List.prefix_append [_] _)) ?_
  intro _ready
  refine Triple.bind (bindAll_complete 1 (bindOrder params) [.prepare (callText params sp)]) ?_
  intro complete
  refine Triple.ite ?_ ?_
  · intro _failed db bindings
    constructor
    · exact bindings.1.trans (List.prefix_append _ [DriverCall.execute])
    · intro impossible
      cases impossible
  intro succeeded
  have whole : Triple (Complete ([.prepare (callText params sp)] ++ bindCalls 1 (bindOrder params))
      complete)
      (modify fun db => { db with bindings := .intact, written := [] } : Method (Recorded W) Unit)
      (fun _forgotten db => db.record =
        [.prepare (callText params sp)] ++ bindCalls 1 (bindOrder params)) := by
    intro db bindings
    apply bindings.2
    cases complete with
    | false => exact absurd rfl succeeded
    | true => rfl
  refine Triple.bind whole ?_
  intro _forgotten
  refine Triple.bind (call_recording .execute _ _) ?_
  intro answer
  refine Triple.bind ((deliver_record answer.2).triple _) ?_
  intro _delivered
  refine Triple.ite (fun _failed => refused_complete (List.prefix_refl _)) ?_
  intro _executed
  exact executed_complete _

/-- The calls of execCall are a first part of those for its parameters, and all of them
where it succeeds. -/
theorem callCalls_escape (sp : String) (db : Object W) :
    callCalls driver sp db <+: escapeCalls db.params sp ∧
      ((execCall driver sp db).1 = true → callCalls driver sp db = escapeCalls db.params sp) := by
  have mirrors := mirrors_execCall driver.recorded_shows sp db.withRecord
  have complete := @execCall_complete W driver sp db.params db.withRecord rfl
  constructor
  · exact complete.1
  · intro executed
    exact complete.2 (mirrors.1.trans executed)

/-- The calls of a procedure are a first part of those that its parameters ask for, and
all of them where it succeeds. -/
theorem procedureCalls_expected (sp : String) (db : Object W) :
    procedureCalls driver sp db <+: expectedCalls db.params sp ∧
      ((executeStoredProcedure driver sp db).1 = true →
        procedureCalls driver sp db = expectedCalls db.params sp) := by
  have mirrors := mirrors_executeStoredProcedure driver.recorded_shows sp db.withRecord
  have complete : Complete (expectedCalls db.params sp)
      (executeStoredProcedure driver.recorded sp db.withRecord).1
      (executeStoredProcedure driver.recorded sp db.withRecord).2 := by
    unfold executeStoredProcedure expectedCalls
    rw [bind_get]
    by_cases plain : db.params.isEmpty = true
    · rw [if_pos plain]
      have chosen : db.withRecord.params.isEmpty = true := plain
      rw [if_pos chosen]
      exact execute_complete _ db.withRecord rfl
    · rw [if_neg plain]
      have chosen : ¬db.withRecord.params.isEmpty = true := plain
      rw [if_neg chosen]
      exact execCall_complete sp db.params db.withRecord rfl
  constructor
  · exact complete.1
  · intro executed
    exact complete.2 (mirrors.1.trans executed)

end Object

end RanOnline.Db
