/-
The ODBC handles of one OdbcDb (db/odbc_db.cpp), in every order of calls.

A ledgered driver does what the driver does and keeps which handle of each kind was
allocated last and is still there, how many handles were overwritten before they
were freed, and whether a call was ever given a handle that is not there, or a
parent was freed before what hangs on it.
-/
import RanOnline.Db.DriverMirror
import RanOnline.Lib.StepRun

namespace RanOnline.Db

open Memory Methods StepRun

/-! ### The ledger -/

structure Ledger where
  env : Bool
  dbc : Bool
  stmt : Bool
  connected : Bool
  leaked : Nat
  misused : Bool
  deriving DecidableEq, Repr

namespace Ledger

def new : Ledger :=
  { env := false
    dbc := false
    stmt := false
    connected := false
    leaked := 0
    misused := false }

def require (valid : Bool) (ledger : Ledger) : Ledger :=
  { ledger with misused := ledger.misused || !valid }

/-- The variable of the handle is written whether or not the call succeeds. -/
def allocate (handle : HandleType) (allocated : Bool) (ledger : Ledger) : Ledger :=
  match handle with
  | .env => { ledger with env := allocated, leaked := ledger.leaked + ledger.env.toNat }
  | .dbc =>
      { ledger.require ledger.env with
        dbc := allocated
        connected := false
        leaked := ledger.leaked + ledger.dbc.toNat }
  | .stmt =>
      { ledger.require (ledger.dbc && ledger.connected) with
        stmt := allocated
        leaked := ledger.leaked + ledger.stmt.toNat }

def release (handle : HandleType) (ledger : Ledger) : Ledger :=
  match handle with
  | .env => { ledger.require (ledger.env && !ledger.dbc) with env := false }
  | .dbc => { ledger.require (ledger.dbc && !ledger.stmt && !ledger.connected) with dbc := false }
  | .stmt => { ledger.require ledger.stmt with stmt := false }

def connect (connected : Bool) (ledger : Ledger) : Ledger :=
  { ledger.require (ledger.dbc && !ledger.connected) with connected := connected }

/-- A connection that was never made may be closed, too: the driver refuses. -/
def disconnect (ledger : Ledger) : Ledger :=
  { ledger.require (ledger.dbc && !ledger.stmt) with connected := false }

def useStmt (ledger : Ledger) : Ledger := ledger.require ledger.stmt

end Ledger

abbrev Ledgered (W : Type) := W × Ledger

namespace Driver

variable {W : Type}

def entering {α : Type} (entry : α → Ledger → Ledger) (body : StateM W α) :
    StateM (Ledgered W) α := fun state =>
  ((body state.1).1, ((body state.1).2, entry (body state.1).1 state.2))

def onStmt {α : Type} (body : StateM W α) : StateM (Ledgered W) α :=
  entering (fun _answer => Ledger.useStmt) body

def ledgered (driver : Driver W) : Driver (Ledgered W) where
  allocHandle := fun handle => entering (Ledger.allocate handle) (driver.allocHandle handle)
  setEnvAttr := entering (fun _done ledger => ledger.require ledger.env) driver.setEnvAttr
  driverConnect := fun connStr => entering Ledger.connect (driver.driverConnect connStr)
  disconnect := entering (fun _done => Ledger.disconnect) driver.disconnect
  freeHandle := fun handle => entering (fun _done => Ledger.release handle) (driver.freeHandle handle)
  execDirect := fun sql => onStmt (driver.execDirect sql)
  prepare := fun call => onStmt (driver.prepare call)
  bindParameter := fun number param => onStmt (driver.bindParameter number param)
  execute := onStmt driver.execute
  numResultCols := onStmt driver.numResultCols
  describeCol := fun col => onStmt (driver.describeCol col)
  fetch := onStmt driver.fetch
  getDataLong := fun col => onStmt (driver.getDataLong col)
  getDataChar := fun col size => onStmt (driver.getDataChar col size)
  moreResults := onStmt driver.moreResults
  rowsLeft := fun state => driver.rowsLeft state.1
  resultsLeft := fun state => driver.resultsLeft state.1
  fetch_rowsLeft := fun state => driver.fetch_rowsLeft state.1
  getDataLong_rowsLeft := fun col state => driver.getDataLong_rowsLeft col state.1
  getDataChar_rowsLeft := fun col size state => driver.getDataChar_rowsLeft col size state.1
  moreResults_resultsLeft := fun state => driver.moreResults_resultsLeft state.1

theorem mirrors_entering {α : Type} (entry : α → Ledger → Ledger) (body : StateM W α) :
    Mirrors Prod.fst (entering entry body) body := by
  intro _state
  exact ⟨rfl, rfl⟩

/-- The ledger changes nothing. -/
theorem ledgered_shows (driver : Driver W) : driver.ledgered.Shows driver Prod.fst where
  allocHandle := fun _handle => mirrors_entering _ _
  freeHandle := fun _handle => mirrors_entering _ _
  execDirect := fun _sql => mirrors_entering _ _
  prepare := fun _text => mirrors_entering _ _
  bindParameter := fun _number _param => mirrors_entering _ _
  execute := mirrors_entering _ _
  numResultCols := mirrors_entering _ _
  describeCol := fun _col => mirrors_entering _ _
  fetch := mirrors_entering _ _
  getDataLong := fun _col => mirrors_entering _ _
  getDataChar := fun _col _size => mirrors_entering _ _
  moreResults := mirrors_entering _ _
  resultsLeft := fun _state => rfl

end Driver

namespace Object

variable {W : Type} {driver : Driver W}

def ledger (db : Object (Ledgered W)) : Ledger := db.driver.2

/-- The ledger says of each handle what the object says of it, and nothing was misused. -/
def Balanced (connected : Bool) (leaked : Nat) (db : Object (Ledgered W)) : Prop :=
  db.ledger =
    { env := db.env
      dbc := db.conn
      stmt := db.stmt
      connected := connected
      leaked := leaked
      misused := false }

/-- Columns are known of a statement only. -/
structure Accounted (connected : Bool) (leaked : Nat) (db : Object (Ledgered W)) : Prop where
  ledger : db.Balanced connected leaked
  columns : db.cols ≠ [] → db.stmt = true

/-- Between two calls a connection handle is connected, and hangs on the environment
handle unless that was lost. -/
structure Ready (connected : Bool) (leaked : Nat) (db : Object (Ledgered W)) : Prop
    extends Accounted connected leaked db where
  linked : db.conn = true → connected = true
  rooted : leaked = 0 → db.conn = true → db.env = true

/-- With a statement handle. -/
structure Stated (connected : Bool) (leaked : Nat) (db : Object (Ledgered W)) : Prop
    extends Ready connected leaked db where
  stmt : db.stmt = true

variable {connected : Bool} {leaked : Nat}

/-! ### Statements -/

theorem onStmt_stated {α : Type} (body : StateM W α) :
    Triple (Stated connected leaked) (call (Driver.onStmt body))
      (fun _answer => Stated connected leaked) := by
  intro db stated
  have entered : (call (Driver.onStmt body) db).2.ledger = db.ledger.useStmt := rfl
  refine ⟨⟨⟨?_, stated.columns⟩, stated.linked, stated.rooted⟩, stated.stmt⟩
  rw [Balanced, entered, stated.ledger]
  simp [Ledger.useStmt, Ledger.require, stated.stmt, call]

theorem stated_pure {α : Type} (value : α) :
    Triple (Stated connected leaked) (pure value : Method (Ledgered W) α)
      (fun _value => Stated connected leaked) :=
  triple_pure fun _db stated => stated

/-- A change that keeps the handles keeps the account. -/
theorem stated_modify {change : Object (Ledgered W) → Object (Ledgered W)}
    (same : ∀ db, (change db).driver = db.driver ∧ (change db).env = db.env ∧
      (change db).conn = db.conn ∧ (change db).stmt = db.stmt) :
    Triple (Stated connected leaked) (modify change)
      (fun _done => Stated connected leaked) := by
  intro db stated
  change Stated connected leaked (change db)
  obtain ⟨driver, env, conn, stmt⟩ := same db
  refine ⟨⟨⟨?_, ?_⟩, ?_, ?_⟩, ?_⟩
  · unfold Balanced Object.ledger
    rw [driver, env, conn, stmt]
    exact stated.ledger
  · intro _known
    exact stmt.trans stated.stmt
  · rw [conn]
    exact stated.linked
  · rw [conn, env]
    exact stated.rooted
  · exact stmt.trans stated.stmt

theorem describeCols_stated (cols : List Nat) :
    Triple (Stated connected leaked) (describeCols driver.ledgered cols)
      (fun _done => Stated connected leaked) := by
  induction cols with
  | nil => exact stated_pure ()
  | cons i rest ih =>
      unfold describeCols
      refine Triple.bind (onStmt_stated _) ?_
      intro name
      cases name with
      | none => exact ih
      | some name =>
          refine Triple.bind (stated_modify fun _db => ⟨rfl, rfl, rfl, rfl⟩) ?_
          intro _noted
          exact ih

theorem buildColumnMap_stated :
    Triple (Stated connected leaked) (buildColumnMap driver.ledgered)
      (fun _done => Stated connected leaked) := by
  unfold buildColumnMap
  refine Triple.bind (stated_modify fun _db => ⟨rfl, rfl, rfl, rfl⟩) ?_
  intro _cleared
  refine Triple.bind (onStmt_stated _) ?_
  intro cols
  cases cols with
  | none => exact stated_pure ()
  | some cols => exact describeCols_stated _

theorem fetchRow_stated :
    Triple (Stated connected leaked) (fetchRow driver.ledgered)
      (fun _fetched => Stated connected leaked) := by
  unfold fetchRow
  refine Triple.bind (onStmt_stated _) ?_
  intro r
  refine Triple.bind (stated_modify fun _db => ⟨rfl, rfl, rfl, rfl⟩) ?_
  intro _noted
  exact stated_pure _

theorem bindAll_stated (number : UInt16) (params : List Param) :
    Triple (Stated connected leaked) (bindAll driver.ledgered number params)
      (fun _bound => Stated connected leaked) := by
  induction params generalizing number with
  | nil => exact stated_pure true
  | cons param rest ih =>
      unfold bindAll
      refine Triple.bind (onStmt_stated _) ?_
      intro bound
      exact Triple.ite (fun _failed => stated_pure false) fun _bound => ih (number + 1)

theorem deliver_stated (written : List Written) :
    Triple (Stated connected leaked) (deliver written : Method (Ledgered W) Unit)
      (fun _done => Stated connected leaked) :=
  stated_modify fun _db => ⟨rfl, rfl, rfl, rfl⟩

theorem outside_env : Outside (Object.env : Object W → Bool) :=
  fun _db _driver _stmt _eof _cols _drained _bindings => rfl

/-- The statement goes, whatever became of the connection. -/
theorem freeStmt_accounted :
    Triple (Balanced connected leaked) (freeStmt driver.ledgered)
      (fun _freed db => Accounted connected leaked db ∧ db.stmt = false) := by
  unfold freeStmt
  have freed : Triple (Balanced connected leaked)
      (whenSet Object.stmt (do
        call (driver.ledgered.freeHandle .stmt)
        modify fun db => { db with stmt := false, bindings := .none }))
      (fun _freed db => Balanced connected leaked db ∧ db.stmt = false) := by
    apply triple_whenSet
    · intro db before
      obtain ⟨balanced, stands⟩ := before
      refine ⟨?_, rfl⟩
      change db.ledger.release .stmt = ⟨db.env, db.conn, false, connected, leaked, false⟩
      rw [balanced]
      simp [Ledger.release, Ledger.require, stands]
    · intro db balanced missing
      exact ⟨balanced, missing⟩
  refine Triple.bind freed ?_
  intro _freed db after
  exact ⟨⟨after.1, fun impossible => absurd rfl impossible⟩, after.2⟩

/-- A statement is allocated for a connection, where none is left. -/
theorem allocStmt_stated :
    Triple (fun db => Ready connected leaked db ∧ db.stmt = false ∧ db.conn = true)
      (allocStmt driver.ledgered)
      (fun allocated db => Ready connected leaked db ∧ db.stmt = allocated) := by
  intro db before
  obtain ⟨ready, missing, opened⟩ := before
  have empty : db.cols = [] := by
    by_contra known
    rw [ready.columns known] at missing
    cases missing
  refine ⟨⟨⟨?_, fun known => absurd empty known⟩, ready.linked, ready.rooted⟩, rfl⟩
  change db.ledger.allocate .stmt (driver.allocHandle .stmt db.driver.1).1 =
    ⟨db.env, db.conn, (driver.allocHandle .stmt db.driver.1).1, connected, leaked, false⟩
  rw [ready.ledger]
  simp [Ledger.allocate, Ledger.require, missing, opened, ready.linked opened]

theorem freeStmt_ready :
    Triple (Ready connected leaked) (freeStmt driver.ledgered)
      (fun _freed db => Ready connected leaked db ∧ db.stmt = false) := by
  intro db ready
  obtain ⟨accounted, missing⟩ := @freeStmt_accounted _ driver _ _ db ready.ledger
  have conn : (freeStmt driver.ledgered db).2.conn = db.conn := leaves_freeStmt outside_conn db
  have env : (freeStmt driver.ledgered db).2.env = db.env := leaves_freeStmt outside_env db
  refine ⟨⟨accounted, ?_, ?_⟩, missing⟩
  · rw [conn]
    exact ready.linked
  · rw [conn, env]
    exact ready.rooted

/-- A change that keeps the handles and the columns. -/
theorem ready_modify {change : Object (Ledgered W) → Object (Ledgered W)}
    (same : ∀ db, (change db).driver = db.driver ∧ (change db).env = db.env ∧
      (change db).conn = db.conn ∧ (change db).stmt = db.stmt ∧ (change db).cols = db.cols) :
    Triple (Ready connected leaked) (modify change) (fun _done => Ready connected leaked) := by
  intro db ready
  change Ready connected leaked (change db)
  obtain ⟨driver, env, conn, stmt, cols⟩ := same db
  refine ⟨⟨?_, ?_⟩, ?_, ?_⟩
  · unfold Balanced Object.ledger
    rw [driver, env, conn, stmt]
    exact ready.ledger
  · rw [cols, stmt]
    exact ready.columns
  · rw [conn]
    exact ready.linked
  · rw [conn, env]
    exact ready.rooted

theorem ready_of_stated {α : Type} {pre : Object (Ledgered W) → Prop} {method : Method (Ledgered W) α}
    (stated : Triple pre method fun _result => Stated connected leaked) :
    Triple pre method fun _result => Ready connected leaked := by
  intro db holds
  exact (stated db holds).toReady

theorem freeStmt_opened :
    Triple (fun db => Ready connected leaked db ∧ db.conn = true) (freeStmt driver.ledgered)
      (fun _freed db => Ready connected leaked db ∧ db.stmt = false ∧ db.conn = true) := by
  intro db before
  obtain ⟨after, missing⟩ := @freeStmt_ready _ driver _ _ db before.1
  exact ⟨after, missing, (leaves_freeStmt outside_conn db).trans before.2⟩

theorem execDirect_ready (sql : Bytes) :
    Triple (Ready connected leaked) (execDirect driver.ledgered sql)
      (fun executed db => Ready connected leaked db ∧ (executed = true → db.stmt = true)) := by
  have refused (pre : Object (Ledgered W) → Prop) (ready : ∀ db, pre db → Ready connected leaked db) :
      Triple pre (pure false : Method (Ledgered W) Bool)
        (fun executed db => Ready connected leaked db ∧ (executed = true → db.stmt = true)) :=
    triple_pure fun db holds => ⟨ready db holds, fun impossible => Bool.noConfusion impossible⟩
  unfold execDirect
  apply Triple.look
  intro before ready
  refine Triple.ite ?_ ?_
  · intro _closed
    exact refused _ fun db same => same.symm ▸ ready
  · intro opened
    rw [Bool.not_eq_true', Bool.not_eq_false] at opened
    have both : ∀ db, db = before → Ready connected leaked db ∧ db.conn = true := by
      intro db same
      rw [same]
      exact ⟨ready, opened⟩
    refine Triple.bind (Triple.weaken freeStmt_opened both) ?_
    intro _freed
    refine Triple.bind allocStmt_stated ?_
    intro allocated
    refine Triple.ite ?_ ?_
    · intro _failed
      exact refused _ fun db after => after.1
    · intro stands
      rw [Bool.not_eq_true', Bool.not_eq_false] at stands
      have stated : Triple (Stated connected leaked) (call (driver.ledgered.execDirect sql))
          (fun _r => Stated connected leaked) := onStmt_stated _
      refine Triple.bind (stated.weaken fun db after => ⟨after.1, after.2.trans stands⟩) ?_
      intro r
      exact triple_pure fun db after => ⟨after.toReady, fun _executed => after.stmt⟩

theorem execute_ready (sql : Bytes) :
    Triple (Ready connected leaked) (execute driver.ledgered sql)
      (fun _executed => Ready connected leaked) := by
  unfold execute
  refine Triple.bind (execDirect_ready sql) ?_
  intro executed
  refine Triple.ite ?_ ?_
  · intro _failed
    exact triple_pure fun _db after => after.1
  · intro succeeded
    rw [Bool.not_eq_true', Bool.not_eq_false] at succeeded
    refine Triple.bind (buildColumnMap_stated.weaken fun db after =>
      ⟨after.1, after.2 succeeded⟩) ?_
    intro _mapped
    refine Triple.bind (ready_of_stated fetchRow_stated) ?_
    intro _positioned
    exact triple_pure fun _db after => after

/-- The statement of a call escape, from its allocation to the end. -/
def callOutline (driver : Driver W) (connected : Bool) (leaked : Nat) :
    CallOutline driver.ledgered (fun db => Ready connected leaked db ∧ db.conn = true)
      (fun _succeeded => Ready connected leaked) where
  freed := fun db => Ready connected leaked db ∧ db.stmt = false ∧ db.conn = true
  allocated := fun allocated db => Ready connected leaked db ∧ db.stmt = allocated
  held := Stated connected leaked
  forgotten := Stated connected leaked
  answered := fun _answer => Stated connected leaked
  ran := Stated connected leaked
  mapped := Stated connected leaked
  positioned := Stated connected leaked
  refuses := fun _db opened _closed => opened.1
  givesUp := by
    intro db given
    rcases given with missing | stated | stated
    · exact missing.1
    · exact stated.toReady
    · exact stated.toReady
  frees := freeStmt_opened
  allocates := allocStmt_stated
  holds := fun _db allocated => ⟨allocated.1, allocated.2⟩
  prepares := fun _text => onStmt_stated _
  binds := fun params => bindAll_stated 1 params
  forgets := by
    intro db stated
    exact @stated_modify _ _ _ (fun db => { db with bindings := .intact, written := [] })
      (fun _db => ⟨rfl, rfl, rfl, rfl⟩) db stated
  executes := onStmt_stated _
  delivers := fun answer => deliver_stated answer.2
  maps := buildColumnMap_stated
  fetches := fetchRow_stated
  marks := by
    intro db stated
    exact @ready_modify _ _ _
      (fun db => { db with resultsDrained := false, paramsExecuted := true })
      (fun _db => ⟨rfl, rfl, rfl, rfl, rfl⟩) db stated.toReady

theorem execCall_ready (sp : String) :
    Triple (Ready connected leaked) (execCall driver.ledgered sp)
      (fun _succeeded => Ready connected leaked) := by
  intro db ready
  by_cases opened : db.conn = true
  · exact (callOutline driver connected leaked).triple sp db ⟨ready, opened⟩
  · have refused : execCall driver.ledgered sp db = (false, db) := by
      rw [Bool.not_eq_true] at opened
      unfold execCall
      rw [bind_get, opened]
      rfl
    rw [refused]
    exact ready

theorem executeStoredProcedure_ready (sp : String) :
    Triple (Ready connected leaked) (executeStoredProcedure driver.ledgered sp)
      (fun _succeeded => Ready connected leaked) := by
  unfold executeStoredProcedure
  refine Triple.bind leaves_get.keeps ?_
  intro _before
  refine Triple.ite ?_ ?_
  · intro _empty
    exact execute_ready _
  · intro _appended
    exact execCall_ready sp

/-! ### Cursors and values -/

theorem next_ready :
    Triple (Ready connected leaked) (next driver.ledgered)
      (fun _fetched => Ready connected leaked) := by
  unfold next
  apply Triple.look
  intro before ready
  refine Triple.ite ?_ ?_
  · intro _missing
    have ended := @ready_modify _ connected leaked
      (fun db : Object (Ledgered W) => { db with eof := true }) fun _db => ⟨rfl, rfl, rfl, rfl, rfl⟩
    refine Triple.bind (ended.weaken fun db same => same.symm ▸ ready) ?_
    intro _ended
    exact triple_pure fun _db after => after
  · intro stands
    rw [Bool.not_eq_true', Bool.not_eq_false] at stands
    have stated : ∀ db, db = before → Stated connected leaked db := by
      intro db same
      rw [same]
      exact ⟨ready, stands⟩
    exact Triple.weaken (ready_of_stated fetchRow_stated) stated

/-- A column that is found belongs to a statement. -/
theorem Ready.stated {db : Object (Ledgered W)} (ready : Ready connected leaked db)
    {column : String} {idx : Nat} (found : colIndex db column = some idx) :
    Stated connected leaked db := by
  refine ⟨ready, ready.columns ?_⟩
  intro empty
  unfold colIndex at found
  rw [empty] at found
  cases found

theorem getCollect_ready (column : String) :
    Triple (Ready connected leaked) (getCollect driver.ledgered column)
      (fun _value => Ready connected leaked) := by
  unfold getCollect
  apply Triple.look
  intro before ready
  cases found : colIndex before column with
  | none => exact triple_pure fun db same => same.symm ▸ ready
  | some idx =>
      have asked : Triple (Stated connected leaked) (call (driver.ledgered.getDataLong idx))
          (fun _answer => Stated connected leaked) := onStmt_stated _
      refine Triple.bind (asked.weaken fun db same => same.symm ▸ ready.stated found) ?_
      intro answer
      exact triple_pure fun _db after => after.toReady

theorem getCollectString_ready (column : String) :
    Triple (Ready connected leaked) (getCollectString driver.ledgered column)
      (fun _value => Ready connected leaked) := by
  unfold getCollectString
  apply Triple.look
  intro before ready
  cases found : colIndex before column with
  | none => exact triple_pure fun db same => same.symm ▸ ready
  | some idx =>
      have asked : Triple (Stated connected leaked) (call (driver.ledgered.getDataChar idx 4096))
          (fun _answer => Stated connected leaked) := onStmt_stated _
      have given (value : Checked (Option Bytes)) :
          Triple (Stated connected leaked) (pure value : Method (Ledgered W) _)
            (fun _value => Ready connected leaked) :=
        triple_pure fun _db after => after.toReady
      refine Triple.bind (asked.weaken fun db same => same.symm ▸ ready.stated found) ?_
      intro answer
      refine Triple.ite (fun _failed => given _) ?_
      intro _read
      exact Triple.ite (fun _null => given _) fun _known => given _

/-- The drain asks for further results only of a statement that is there. -/
theorem drainOutline (driver : Driver W) (connected : Bool) (leaked : Nat) :
    DrainOutline driver.ledgered (Ready connected leaked) (Stated connected leaked) where
  enters := fun _db ready held => ⟨ready, held⟩
  asks := onStmt_stated _
  delivers := deliver_stated
  ends := fun _db stated => stated.toReady
  marks := by
    intro db ready
    exact @ready_modify _ _ _ (fun db => { db with resultsDrained := true, eof := true })
      (fun _db => ⟨rfl, rfl, rfl, rfl, rfl⟩) db ready

theorem addParam_ready (param : Param) :
    Triple (Ready connected leaked) (addParam param : Method (Ledgered W) Unit)
      (fun _done => Ready connected leaked) := by
  unfold addParam beginParam
  refine Triple.bind (@ready_modify _ connected leaked _ ?_) ?_
  · intro db
    split
    · exact ⟨rfl, rfl, rfl, rfl, rfl⟩
    · exact ⟨rfl, rfl, rfl, rfl, rfl⟩
  · intro _begun
    exact ready_modify fun _db => ⟨rfl, rfl, rfl, rfl, rfl⟩

theorem clearParams_ready :
    Triple (Ready connected leaked) (clearParams : Method (Ledgered W) Unit)
      (fun _done => Ready connected leaked) :=
  ready_modify fun _db => ⟨rfl, rfl, rfl, rfl, rfl⟩

/-! ### The connection -/

/-- Between two calls. -/
def Kept (leaked : Nat) (db : Object (Ledgered W)) : Prop := ∃ connected, Ready connected leaked db

/-- Nothing is open and no handle is left. -/
structure Closed (leaked : Nat) (db : Object (Ledgered W)) : Prop where
  kept : Kept leaked db
  env : db.env = false
  conn : db.conn = false
  stmt : db.stmt = false

theorem close_closed :
    Triple (Balanced connected leaked) (close driver.ledgered)
      (fun _closed => Closed leaked) := by
  unfold close
  refine Triple.bind freeStmt_accounted ?_
  intro _freed
  have cleared : Triple (fun db => Accounted connected leaked db ∧ db.stmt = false)
      (modify (withParams []) : Method (Ledgered W) Unit)
      (fun _done db => Accounted connected leaked db ∧ db.stmt = false) := by
    intro db before
    exact ⟨⟨before.1.ledger, before.1.columns⟩, before.2⟩
  refine Triple.bind cleared ?_
  intro _cleared
  have disconnected : Triple (fun db => Accounted connected leaked db ∧ db.stmt = false)
      (whenSet Object.conn (do
        call driver.ledgered.disconnect
        call (driver.ledgered.freeHandle .dbc)
        modify fun db => { db with conn := false }))
      (fun _done db => ∃ linked, Accounted linked leaked db ∧ db.stmt = false ∧ db.conn = false) := by
    apply triple_whenSet
    · intro db before
      obtain ⟨⟨accounted, missing⟩, opened⟩ := before
      refine ⟨false, ⟨?_, accounted.columns⟩, missing, rfl⟩
      change (db.ledger.disconnect).release .dbc = ⟨db.env, false, db.stmt, false, leaked, false⟩
      rw [accounted.ledger]
      simp [Ledger.disconnect, Ledger.release, Ledger.require, missing, opened]
    · intro db before unopened
      exact ⟨connected, before.1, before.2, unopened⟩
  refine Triple.bind disconnected ?_
  intro _disconnected
  apply triple_whenSet
  · intro db before
    obtain ⟨⟨linked, accounted, missing, unopened⟩, stands⟩ := before
    have never : db.conn ≠ true := unopened ▸ Bool.false_ne_true
    refine ⟨⟨linked, ⟨?_, accounted.columns⟩, fun opened => absurd opened never,
      fun _none opened => absurd opened never⟩, rfl, unopened, missing⟩
    change db.ledger.release .env = ⟨false, db.conn, db.stmt, linked, leaked, false⟩
    rw [accounted.ledger]
    simp [Ledger.release, Ledger.require, stands, unopened]
  · intro db before empty
    obtain ⟨linked, accounted, missing, unopened⟩ := before
    have never : db.conn ≠ true := unopened ▸ Bool.false_ne_true
    exact ⟨⟨linked, accounted, fun opened => absurd opened never,
      fun _none opened => absurd opened never⟩, empty, unopened, missing⟩

/-- What an Open leaves, by the handles that it found: no environment could be allocated, or
the connection handle was overwritten, too, and either everything is closed or both are there. -/
def Opened (leaked : Nat) (env conn : Bool) (db : Object (Ledgered W)) : Prop :=
  (Kept (leaked + env.toNat) db ∧ db.env = false ∧ db.conn = conn) ∨
    (Kept (leaked + env.toNat + conn.toNat) db ∧ db.conn = db.env)

theorem connect_opened (connStr : Bytes) (env conn : Bool) :
    Triple (fun db => Ready connected leaked db ∧ db.env = env ∧ db.conn = conn)
      (connect driver.ledgered connStr) (fun _opened => Opened leaked env conn) := by
  have closes (linked : Bool) :
      Triple (Accounted linked (leaked + env.toNat + conn.toNat))
        (do
          close driver.ledgered
          pure false)
        (fun _opened => Opened leaked env conn) := by
    refine Triple.bind (close_closed.weaken fun db accounted => accounted.ledger) ?_
    intro _closed
    exact triple_pure fun db closed => Or.inr ⟨closed.kept, closed.conn.trans closed.env.symm⟩
  -- each allocation is taken together with the note of its handle
  have allocatesEnv : Triple (fun db => Ready connected leaked db ∧ db.env = env ∧ db.conn = conn)
      (do
        let allocated ← call (driver.ledgered.allocHandle .env)
        modify fun db => { db with env := allocated }
        pure allocated)
      (fun allocated db =>
        Ready connected (leaked + env.toNat) db ∧ db.env = allocated ∧ db.conn = conn) := by
    intro db before
    obtain ⟨ready, sameEnv, sameConn⟩ := before
    refine ⟨⟨⟨?_, ready.columns⟩, ready.linked, ?_⟩, rfl, sameConn⟩
    · change db.ledger.allocate .env (driver.allocHandle .env db.driver.1).1 =
        ⟨(driver.allocHandle .env db.driver.1).1, db.conn, db.stmt, connected,
          leaked + env.toNat, false⟩
      rw [ready.ledger]
      simp [Ledger.allocate, sameEnv]
    · intro none opened
      have rooted := ready.rooted (Nat.eq_zero_of_add_eq_zero_right none) opened
      rw [sameEnv] at rooted
      rw [rooted] at none
      cases none
  have setsAttr : Triple
      (fun db => Ready connected (leaked + env.toNat) db ∧ db.env = true ∧ db.conn = conn)
      (call driver.ledgered.setEnvAttr)
      (fun _done db => Ready connected (leaked + env.toNat) db ∧ db.env = true ∧ db.conn = conn) := by
    intro db before
    obtain ⟨ready, stands, sameConn⟩ := before
    refine ⟨⟨⟨?_, ready.columns⟩, ready.linked, ready.rooted⟩, stands, sameConn⟩
    change db.ledger.require db.ledger.env =
      ⟨db.env, db.conn, db.stmt, connected, leaked + env.toNat, false⟩
    rw [ready.ledger]
    simp [Ledger.require, stands]
  have allocatesDbc : Triple
      (fun db => Ready connected (leaked + env.toNat) db ∧ db.env = true ∧ db.conn = conn)
      (do
        let allocated ← call (driver.ledgered.allocHandle .dbc)
        modify fun db => { db with conn := allocated }
        pure allocated)
      (fun allocated db => Accounted false (leaked + env.toNat + conn.toNat) db ∧
        db.env = true ∧ db.conn = allocated) := by
    intro db before
    obtain ⟨ready, stands, sameConn⟩ := before
    refine ⟨⟨?_, ready.columns⟩, stands, rfl⟩
    change db.ledger.allocate .dbc (driver.allocHandle .dbc db.driver.1).1 =
      ⟨db.env, (driver.allocHandle .dbc db.driver.1).1, db.stmt, false,
        leaked + env.toNat + conn.toNat, false⟩
    rw [ready.ledger]
    simp [Ledger.allocate, Ledger.require, stands, sameConn]
  have connects : Triple
      (fun db => Accounted false (leaked + env.toNat + conn.toNat) db ∧
        db.env = true ∧ db.conn = true)
      (call (driver.ledgered.driverConnect connStr))
      (fun linked db => Accounted linked (leaked + env.toNat + conn.toNat) db ∧
        db.env = true ∧ db.conn = true) := by
    intro db before
    obtain ⟨accounted, stands, opened⟩ := before
    refine ⟨⟨?_, accounted.columns⟩, stands, opened⟩
    change db.ledger.connect (driver.driverConnect connStr db.driver.1).1 =
      ⟨db.env, db.conn, db.stmt, (driver.driverConnect connStr db.driver.1).1,
        leaked + env.toNat + conn.toNat, false⟩
    rw [accounted.ledger]
    simp [Ledger.connect, Ledger.require, opened]
  have split : connect driver.ledgered connStr = (do
      let env ← (do
        let allocated ← call (driver.ledgered.allocHandle .env)
        modify fun db => { db with env := allocated }
        pure allocated)
      if !env then return false
      call driver.ledgered.setEnvAttr
      let conn ← (do
        let allocated ← call (driver.ledgered.allocHandle .dbc)
        modify fun db => { db with conn := allocated }
        pure allocated)
      if !conn then
        close driver.ledgered
        return false
      if !(← call (driver.ledgered.driverConnect connStr)) then
        close driver.ledgered
        return false
      return true) := rfl
  rw [split]
  refine Triple.bind allocatesEnv ?_
  intro allocatedEnv
  refine Triple.ite ?_ ?_
  · intro failed
    rw [Bool.not_eq_true'] at failed
    refine triple_pure fun db after => Or.inl ⟨⟨connected, after.1⟩, after.2.1.trans failed, after.2.2⟩
  intro standsEnv
  rw [Bool.not_eq_true', Bool.not_eq_false] at standsEnv
  subst standsEnv
  refine Triple.bind setsAttr ?_
  intro _set
  refine Triple.bind allocatesDbc ?_
  intro allocatedDbc
  refine Triple.ite ?_ ?_
  · intro _failed
    exact (closes false).weaken fun db after => after.1
  intro standsDbc
  rw [Bool.not_eq_true', Bool.not_eq_false] at standsDbc
  subst standsDbc
  refine Triple.bind connects ?_
  intro linked
  refine Triple.ite ?_ ?_
  · intro _failed
    exact (closes linked).weaken fun db after => after.1
  intro succeeded
  rw [Bool.not_eq_true', Bool.not_eq_false] at succeeded
  refine triple_pure fun db after => Or.inr ⟨⟨linked, after.1, fun _opened => succeeded,
    fun _none _opened => after.2.1⟩, ?_⟩
  exact after.2.2.trans after.2.1.symm

/-! ### Every order of calls -/

/-- Open and Close, and what is called in between. -/
inductive HandleCall
  | connect (connStr : Bytes)
  | close
  | addParam (param : Param)
  | clearParams
  | execute (sql : Bytes)
  | executeStoredProcedure (sp : String)
  | next
  | getCollect (column : String)
  | getCollectString (column : String)
  | getParam (name : String)
  | getParamLongLong (name : String)
  | getParamString (name : String)

def apply {V : Type} (driver : Driver V) (db : Object V) : HandleCall → Object V
  | .connect connStr => (connect driver connStr db).2
  | .close => (close driver db).2
  | .addParam param => (addParam param db).2
  | .clearParams => (clearParams db).2
  | .execute sql => (execute driver sql db).2
  | .executeStoredProcedure sp => (executeStoredProcedure driver sp db).2
  | .next => (next driver db).2
  | .getCollect column => (getCollect driver column db).2
  | .getCollectString column => (getCollectString driver column db).2
  | .getParam name => (getParam driver name db).2
  | .getParamLongLong name => (getParamLongLong driver name db).2
  | .getParamString name => (getParamString driver name db).2

/-- Open is called where no environment is there. -/
def Unheld {V : Type} (db : Object V) : HandleCall → Prop
  | .connect _connStr => db.env = false
  | _ => True

theorem apply_kept {db : Object (Ledgered W)} (kept : Kept leaked db) (call : HandleCall) :
    ∃ lost, Kept (leaked + lost) (apply driver.ledgered db call) ∧
      (leaked = 0 → (lost = 0 ↔ Unheld db call)) := by
  obtain ⟨connected, ready⟩ := kept
  have without {after : Object (Ledgered W)} (same : Ready connected leaked after) :
      ∃ lost, Kept (leaked + lost) after ∧ (leaked = 0 → (lost = 0 ↔ True)) :=
    ⟨0, ⟨connected, same⟩, fun _none => iff_of_true rfl trivial⟩
  cases call with
  | connect connStr =>
      rcases connect_opened connStr db.env db.conn db ⟨ready, rfl, rfl⟩ with
        ⟨after, _missing, _conn⟩ | ⟨after, _both⟩
      · refine ⟨db.env.toNat, after, fun _none => ?_⟩
        exact Bool.toNat_eq_zero
      · refine ⟨db.env.toNat + db.conn.toNat, ?_, ?_⟩
        · rw [← Nat.add_assoc]
          exact after
        · intro none
          have rooted := ready.rooted none
          change _ ↔ db.env = false
          cases env : db.env with
          | true => simp
          | false =>
              cases conn : db.conn with
              | true => exact absurd (env.symm.trans (rooted conn)) Bool.false_ne_true
              | false => simp
  | close =>
      exact ⟨0, (close_closed db ready.ledger).kept, fun _none => iff_of_true rfl trivial⟩
  | addParam param => exact without (addParam_ready param db ready)
  | clearParams => exact without (clearParams_ready db ready)
  | execute sql => exact without (execute_ready sql db ready)
  | executeStoredProcedure sp => exact without (executeStoredProcedure_ready sp db ready)
  | next => exact without (next_ready db ready)
  | getCollect column => exact without (getCollect_ready column db ready)
  | getCollectString column => exact without (getCollectString_ready column db ready)
  | getParam name =>
      apply without
      change Ready connected leaked (getParam driver.ledgered name db).2
      rw [getParam_as]
      exact (drainOutline driver connected leaked).reads intValue none name db ready
  | getParamLongLong name => exact without ((drainOutline driver connected leaked).reads longLongValue none name db ready)
  | getParamString name => exact without ((drainOutline driver connected leaked).reads stringValue (.ok none) name db ready)

/-! ### Runs -/

/-- The ledger stays outside of what the calls do. -/
theorem mirrors_close :
    Mirrors (seen Prod.fst) (close driver.ledgered) (close driver) := by
  unfold close
  apply (mirrors_freeStmt driver.ledgered_shows).bind
  intro _freed
  apply Mirrors.bind
  · exact mirrors_modify fun _db => rfl
  intro _cleared
  apply Mirrors.bind
  · apply mirrors_whenSet (fun _db => rfl)
    apply (mirrors_call (Driver.mirrors_entering _ _)).bind
    intro _disconnected
    apply (mirrors_call (driver.ledgered_shows.freeHandle .dbc)).bind
    intro _released
    exact mirrors_modify fun _db => rfl
  intro _closed
  apply mirrors_whenSet (fun _db => rfl)
  apply (mirrors_call (driver.ledgered_shows.freeHandle .env)).bind
  intro _released
  exact mirrors_modify fun _db => rfl

theorem mirrors_connect (connStr : Bytes) :
    Mirrors (seen Prod.fst) (connect driver.ledgered connStr) (connect driver connStr) := by
  have closes : Mirrors (seen Prod.fst)
      (do
        close driver.ledgered
        pure false)
      (do
        close driver
        pure false) :=
    mirrors_close.bind fun _closed => mirrors_pure false
  unfold connect
  apply (mirrors_call (driver.ledgered_shows.allocHandle .env)).bind
  intro env
  apply Mirrors.bind
  · exact mirrors_modify fun _db => rfl
  intro _noted
  apply Mirrors.ite (mirrors_pure false)
  apply (mirrors_call (Driver.mirrors_entering _ _)).bind
  intro _set
  apply (mirrors_call (driver.ledgered_shows.allocHandle .dbc)).bind
  intro conn
  apply Mirrors.bind
  · exact mirrors_modify fun _db => rfl
  intro _noted
  apply Mirrors.ite closes
  apply (mirrors_call (Driver.mirrors_entering _ _)).bind
  intro connected
  exact Mirrors.ite closes (mirrors_pure true)

theorem apply_seen (db : Object (Ledgered W)) (call : HandleCall) :
    (apply driver.ledgered db call).seen Prod.fst = apply driver (db.seen Prod.fst) call := by
  have shows := driver.ledgered_shows
  cases call with
  | connect connStr => exact (mirrors_connect connStr db).2
  | close => exact (mirrors_close db).2
  | addParam param => exact (mirrors_addParam param db).2
  | clearParams => rfl
  | execute sql => exact (mirrors_execute shows sql db).2
  | executeStoredProcedure sp => exact (mirrors_executeStoredProcedure shows sp db).2
  | next => exact (mirrors_next shows db).2
  | getCollect column => exact (mirrors_getCollect shows column db).2
  | getCollectString column => exact (mirrors_getCollectString shows column db).2
  | getParam name =>
      change (getParam driver.ledgered name db).2.seen Prod.fst =
        (getParam driver name (db.seen Prod.fst)).2
      rw [getParam_as, getParam_as]
      exact (mirrors_getParamAs shows intValue none name db).2
  | getParamLongLong name => exact (mirrors_getParamAs shows longLongValue none name db).2
  | getParamString name => exact (mirrors_getParamAs shows stringValue (.ok none) name db).2

/-- The ledger of a new object after these calls. -/
def ledgerAfter (driver : Driver W) (w : W) (calls : List HandleCall) : Ledger :=
  (run (apply driver.ledgered) (.new (w, .new)) calls).ledger

theorem run_seen (w : W) (calls : List HandleCall) :
    (run (apply driver.ledgered) (.new (w, .new)) calls).seen Prod.fst =
      run (apply driver) (.new w) calls := by
  induction calls using List.reverseRecOn with
  | nil => rfl
  | append_singleton calls call ih => rw [run_snoc, run_snoc, apply_seen, ih]

theorem run_kept (w : W) (calls : List HandleCall) :
    ∃ leaked, Kept leaked (run (apply driver.ledgered) (.new (w, .new)) calls) ∧
      (leaked = 0 ↔ Along (apply driver) (.new w) calls Unheld) := by
  induction calls using List.reverseRecOn with
  | nil =>
      refine ⟨0, ⟨false, ⟨⟨rfl, fun known => absurd rfl known⟩, fun opened => Bool.noConfusion opened,
        fun _none opened => Bool.noConfusion opened⟩⟩, iff_of_true rfl (along_nil _ _)⟩
  | append_singleton calls call ih =>
      obtain ⟨leaked, kept, before⟩ := ih
      obtain ⟨lost, after, fresh⟩ := apply_kept kept call
      have same : Unheld (run (apply driver.ledgered) (.new (w, .new)) calls) call ↔
          Unheld (run (apply driver) (.new w) calls) call := by
        rw [← @run_seen _ driver]
        cases call <;> exact Iff.rfl
      refine ⟨leaked + lost, ?_, ?_⟩
      · rw [run_snoc]
        exact after
      · rw [along_snoc, ← before, ← same]
        constructor
        · intro none
          have first : leaked = 0 := Nat.eq_zero_of_add_eq_zero_right none
          exact ⟨first, (fresh first).mp (Nat.eq_zero_of_add_eq_zero_left none)⟩
        · intro both
          rw [both.1, (fresh both.1).mpr both.2]

/-- In every order of calls on one OdbcDb, over every driver: no call is ever given a handle
that is not there, none is freed twice or before what hangs on it, and the object has a handle
exactly where it is still allocated.  Handles are lost exactly where some Open met an
environment that was there. -/
theorem handles_accounted (driver : Driver W) (w : W) (calls : List HandleCall) :
    (ledgerAfter driver w calls).misused = false ∧
      (ledgerAfter driver w calls).env = (run (apply driver) (.new w) calls).env ∧
      (ledgerAfter driver w calls).dbc = (run (apply driver) (.new w) calls).conn ∧
      (ledgerAfter driver w calls).stmt = (run (apply driver) (.new w) calls).stmt ∧
      ((ledgerAfter driver w calls).leaked = 0 ↔ Along (apply driver) (.new w) calls Unheld) := by
  obtain ⟨leaked, ⟨connected, ready⟩, fresh⟩ := @run_kept _ driver w calls
  have known := ready.ledger
  unfold Balanced at known
  unfold ledgerAfter
  rw [← @run_seen _ driver, known]
  exact ⟨rfl, rfl, rfl, rfl, fresh⟩

/-- After a Close nothing is left but what was lost. -/
theorem close_leaves_none (driver : Driver W) (w : W) (calls : List HandleCall) :
    (ledgerAfter driver w (calls ++ [.close])).env = false ∧
      (ledgerAfter driver w (calls ++ [.close])).dbc = false ∧
      (ledgerAfter driver w (calls ++ [.close])).stmt = false := by
  obtain ⟨leaked, ⟨connected, ready⟩, _fresh⟩ := @run_kept _ driver w calls
  have closed : Closed leaked
      (apply driver.ledgered (run (apply driver.ledgered) (.new (w, .new)) calls) .close) :=
    close_closed _ ready.ledger
  obtain ⟨linked, after⟩ := closed.kept
  unfold ledgerAfter
  rw [run_snoc, after.ledger]
  exact ⟨closed.env, closed.conn, closed.stmt⟩

end Object

end RanOnline.Db
