/-
What the methods of OdbcDb leave alone.

Statements and cursors work on the statement handle; the connection and the
parameters stay as they are, until a procedure that ran hands its outputs over.
-/
import RanOnline.Db.OdbcObject
import RanOnline.Lib.Method

namespace RanOnline.Db

open Memory Methods

namespace Object

variable {W : Type} {driver : Driver W} {ι : Type} {view : Object W → ι}

/-- A view that shows nothing of the statement and its cursor. -/
def Outside (view : Object W → ι) : Prop :=
  ∀ (db : Object W) driver stmt eof cols drained bindings,
    view { db with
      driver := driver
      stmt := stmt
      eof := eof
      cols := cols
      resultsDrained := drained
      bindings := bindings } = view db

/-- A view that may show the statement handle, but nothing of its cursor. -/
def Beyond (view : Object W → ι) : Prop :=
  ∀ (db : Object W) driver eof cols,
    view { db with driver := driver, eof := eof, cols := cols } = view db

theorem Outside.beyond (outside : Outside view) : Beyond view := by
  intro db driver eof cols
  exact outside db driver db.stmt eof cols db.resultsDrained db.bindings

theorem outside_conn : Outside (Object.conn : Object W → Bool) :=
  fun _db _driver _stmt _eof _cols _drained _bindings => rfl

theorem outside_params : Outside (Object.params : Object W → List Param) :=
  fun _db _driver _stmt _eof _cols _drained _bindings => rfl

theorem leaves_whenSet {body : Method W Unit} (flag : Object W → Bool)
    (leaves : Leaves view body) : Leaves view (whenSet flag body) := by
  intro db
  unfold whenSet
  split
  · exact leaves db
  · rfl

theorem triple_whenSet {flag : Object W → Bool} {body : Method W Unit} {pre : Object W → Prop}
    {post : Unit → Object W → Prop} (set : Triple (fun db => pre db ∧ flag db = true) body post)
    (unset : ∀ db, pre db → flag db = false → post () db) : Triple pre (whenSet flag body) post := by
  intro db holds
  unfold whenSet
  split
  · next stands => exact set db ⟨holds, stands⟩
  · next missing => exact unset db holds (Bool.not_eq_true _ ▸ missing)

/-! ### Cursors -/

section Cursors

variable (beyond : Beyond view)

include beyond

theorem leaves_call {α : Type} (body : StateM W α) : Leaves view (call body) := by
  intro db
  exact beyond db _ db.eof db.cols

theorem leaves_describeCols (cols : List Nat) : Leaves view (describeCols driver cols) := by
  induction cols with
  | nil => exact leaves_pure ()
  | cons i rest ih =>
      unfold describeCols
      apply (leaves_call beyond _).bind
      intro name
      cases name with
      | none => exact ih
      | some name =>
          apply Leaves.bind
          · exact leaves_modify fun db => beyond db db.driver db.eof _
          · intro _noted
            exact ih

theorem leaves_buildColumnMap : Leaves view (buildColumnMap driver) := by
  unfold buildColumnMap
  apply Leaves.bind
  · exact leaves_modify fun db => beyond db db.driver db.eof _
  · intro _cleared
    apply (leaves_call beyond _).bind
    intro cols
    cases cols with
    | none => exact leaves_pure ()
    | some cols => exact leaves_describeCols beyond _

theorem leaves_fetchRow : Leaves view (fetchRow driver) := by
  unfold fetchRow
  apply (leaves_call beyond _).bind
  intro r
  apply Leaves.bind
  · exact leaves_modify fun db => beyond db db.driver _ db.cols
  · intro _noted
    exact leaves_pure _

theorem leaves_bindAll (number : UInt16) (params : List Param) :
    Leaves view (bindAll driver number params) := by
  induction params generalizing number with
  | nil => exact leaves_pure true
  | cons param rest ih =>
      unfold bindAll
      apply (leaves_call beyond _).bind
      intro bound
      exact (leaves_pure false).ite (ih (number + 1))

theorem leaves_next : Leaves view (next driver) := by
  unfold next
  apply leaves_get.bind
  intro db
  apply Leaves.ite
  · apply Leaves.bind
    · exact leaves_modify fun db => beyond db db.driver _ db.cols
    · intro _ended
      exact leaves_pure false
  · exact leaves_fetchRow beyond

theorem leaves_getCollect (column : String) : Leaves view (getCollect driver column) := by
  unfold getCollect
  apply leaves_get.bind
  intro db
  cases colIndex db column with
  | none => exact leaves_pure none
  | some idx =>
      apply (leaves_call beyond _).bind
      intro value
      exact leaves_pure _

theorem leaves_getCollectString (column : String) :
    Leaves view (getCollectString driver column) := by
  unfold getCollectString
  apply leaves_get.bind
  intro db
  cases colIndex db column with
  | none => exact leaves_pure _
  | some idx =>
      apply (leaves_call beyond _).bind
      intro value
      exact (leaves_pure _).ite ((leaves_pure _).ite (leaves_pure _))

end Cursors

/-! ### Statements -/

section Statements

variable (outside : Outside view)

include outside

theorem leaves_freeStmt : Leaves view (freeStmt driver) := by
  unfold freeStmt
  apply Leaves.bind
  · apply leaves_whenSet
    apply (leaves_call outside.beyond _).bind
    intro _freed
    exact leaves_modify fun db => outside db db.driver _ db.eof db.cols db.resultsDrained _
  · intro _freed
    exact leaves_modify fun db => outside db db.driver db.stmt _ _ _ db.bindings

theorem leaves_allocStmt : Leaves view (allocStmt driver) := by
  unfold allocStmt
  apply (leaves_call outside.beyond _).bind
  intro allocated
  apply Leaves.bind
  · exact leaves_modify fun db => outside db db.driver _ db.eof db.cols db.resultsDrained db.bindings
  · intro _noted
    exact leaves_pure allocated

theorem leaves_execDirect (sql : Bytes) : Leaves view (execDirect driver sql) := by
  unfold execDirect
  apply leaves_get.bind
  intro db
  apply (leaves_pure false).ite
  apply (leaves_freeStmt outside).bind
  intro _freed
  apply (leaves_allocStmt outside).bind
  intro allocated
  apply (leaves_pure false).ite
  apply (leaves_call outside.beyond _).bind
  intro r
  exact leaves_pure _

theorem leaves_execute (sql : Bytes) : Leaves view (execute driver sql) := by
  unfold execute
  apply (leaves_execDirect outside sql).bind
  intro executed
  apply (leaves_pure false).ite
  apply (leaves_buildColumnMap outside.beyond).bind
  intro _mapped
  apply (leaves_fetchRow outside.beyond).bind
  intro _positioned
  exact leaves_pure true

end Statements

/-! ### The drain -/

/-- What holds around the drain, and what its loop keeps of a statement. -/
structure DrainOutline (driver : Driver W) (around within : Object W → Prop) : Prop where
  enters : ∀ db, around db → db.stmt = true → within db
  asks : Triple within (call driver.moreResults) fun _answer => within
  delivers : ∀ written, Triple within (deliver written) fun _delivered => within
  ends : ∀ db, within db → around db
  marks : ∀ db, around db → around { db with resultsDrained := true, eof := true }

namespace DrainOutline

variable {around within : Object W → Prop} (outline : DrainOutline driver around within)

include outline

theorem skips (fuel : Nat) : Triple within (skipResults driver fuel) fun _skipped => within := by
  induction fuel with
  | zero => exact triple_pure fun _db holds => holds
  | succ fuel ih =>
      unfold skipResults
      refine Triple.bind outline.asks ?_
      intro answer
      refine Triple.bind (outline.delivers answer.2) ?_
      intro _delivered
      exact Triple.ite (fun _more => ih) fun _last => triple_pure fun _db holds => holds

theorem drains : Triple around (drainResults driver) fun _drained => around := by
  have skipped : Triple around (whenSet Object.stmt do
      skipResults driver (driver.resultsLeft (← get).driver + 1)) fun _skipped => around := by
    apply triple_whenSet
    · apply Triple.look
      rintro before ⟨holds, held⟩ db same
      subst same
      exact outline.ends _ (outline.skips _ _ (outline.enters _ holds held))
    · exact fun _db holds _missing => holds
  unfold drainResults
  refine Triple.bind skipped ?_
  intro _skipped
  exact outline.marks

theorem reads {α : Type} (value : Bytes × Int → α) (unknown : α) (name : String) :
    Triple around (getParamAs driver value unknown name) fun _value => around := by
  have drained : Triple around (whenSet (fun db => !db.resultsDrained) (drainResults driver))
      fun _drained => around := by
    apply triple_whenSet
    · exact outline.drains.weaken fun _db both => both.1
    · exact fun _db holds _drained => holds
  unfold getParamAs
  refine Triple.bind drained ?_
  intro _drained
  refine Triple.bind leaves_get.keeps ?_
  intro _current
  exact triple_pure fun _db holds => holds

end DrainOutline

/-- A view outside the statement that the driver's writes leave alone, too. -/
theorem leaves_getParamAs (outside : Outside view)
    (delivers : ∀ written, Leaves view (deliver written : Method W Unit)) {α : Type}
    (value : Bytes × Int → α) (unknown : α) (name : String) :
    Leaves view (getParamAs driver value unknown name) := by
  intro before
  have outline : DrainOutline driver (fun db => view db = view before)
      (fun db => view db = view before) :=
    { enters := fun _db same _held => same
      asks := (leaves_call outside.beyond _).triple _
      delivers := fun written => (delivers written).triple _
      ends := fun _db same => same
      marks := fun db same =>
        (outside db db.driver db.stmt true db.cols true db.bindings).trans same }
  exact outline.reads value unknown name before rfl

/-! ### The call escape -/

/-- Assertions between the parts of execCall, each kept by its part.  It refuses where the
connection is closed, and gives up where no statement is allocated, up to SQLExecute, and behind
it. -/
structure CallOutline (driver : Driver W) (pre : Object W → Prop) (post : Bool → Object W → Prop)
    where
  freed : Object W → Prop
  allocated : Bool → Object W → Prop
  held : Object W → Prop
  forgotten : Object W → Prop
  answered : SqlReturn × List Written → Object W → Prop
  ran : Object W → Prop
  mapped : Object W → Prop
  positioned : Object W → Prop
  refuses : ∀ db, pre db → db.conn = false → post false db
  givesUp : ∀ db, allocated false db ∨ held db ∨ ran db → post false db
  frees : Triple pre (freeStmt driver) fun _freed => freed
  allocates : Triple freed (allocStmt driver) allocated
  holds : ∀ db, allocated true db → held db
  prepares : ∀ text, Triple held (call (driver.prepare text)) fun _prepared => held
  binds : ∀ params, Triple held (bindAll driver 1 params) fun _bound => held
  forgets : ∀ db, held db → forgotten { db with bindings := .intact, written := [] }
  executes : Triple forgotten (call driver.execute) answered
  delivers : ∀ answer, Triple (answered answer) (deliver answer.2) fun _delivered => ran
  maps : Triple ran (buildColumnMap driver) fun _mapped => mapped
  fetches : Triple mapped (fetchRow driver) fun _fetched => positioned
  marks : ∀ db, positioned db →
    post true { db with resultsDrained := false, paramsExecuted := true }

theorem CallOutline.triple {pre : Object W → Prop} {post : Bool → Object W → Prop}
    (outline : CallOutline driver pre post) (sp : String) :
    Triple pre (execCall driver sp) post := by
  have gaveUp : Triple outline.held (pure false : Method W Bool) post :=
    triple_pure fun db same => outline.givesUp db (Or.inr (Or.inl same))
  unfold execCall
  apply Triple.look
  intro before given
  refine Triple.ite ?_ ?_
  · intro closed
    rw [Bool.not_eq_true'] at closed
    exact triple_pure fun _db same => same ▸ outline.refuses before given closed
  intro _opened
  refine Triple.bind (outline.frees.weaken fun _db same => same ▸ given) ?_
  intro _freed
  refine Triple.bind outline.allocates ?_
  intro stands
  cases stands with
  | false => exact triple_pure fun db missing => outline.givesUp db (Or.inl missing)
  | true =>
      have begins : Triple (outline.allocated true) get (fun _current db => outline.held db) :=
        outline.holds
      refine Triple.bind begins ?_
      intro current
      refine Triple.bind (outline.prepares _) ?_
      intro _prepared
      refine Triple.ite (fun _failed => gaveUp) ?_
      intro _ready
      refine Triple.bind (outline.binds _) ?_
      intro _bound
      refine Triple.ite (fun _failed => gaveUp) ?_
      intro _complete
      have forgetting : Triple outline.held
          (modify fun db => { db with bindings := .intact, written := [] } : Method W Unit)
          (fun _done => outline.forgotten) := outline.forgets
      refine Triple.bind forgetting ?_
      intro _forgotten
      refine Triple.bind outline.executes ?_
      intro answer
      refine Triple.bind (outline.delivers answer) ?_
      intro _delivered
      refine Triple.ite ?_ ?_
      · intro _failed
        exact triple_pure fun db ended => outline.givesUp db (Or.inr (Or.inr ended))
      intro _executed
      refine Triple.bind outline.maps ?_
      intro _mapped
      refine Triple.bind outline.fetches ?_
      intro _positioned
      exact outline.marks

/-- One assertion about a view outside the statement, up to the end. -/
def CallOutline.outside (outside : Outside view) (value : ι) {post : Bool → Object W → Prop}
    (refuses : ∀ db, view db = value → post false db)
    (forgets : ∀ db : Object W, view { db with bindings := .intact, written := [] } = view db)
    (delivers : ∀ written, Leaves view (deliver written))
    (marks : ∀ db, view db = value →
      post true { db with resultsDrained := false, paramsExecuted := true }) :
    CallOutline driver (fun db => view db = value) post where
  freed := fun db => view db = value
  allocated := fun _allocated db => view db = value
  held := fun db => view db = value
  forgotten := fun db => view db = value
  answered := fun _answer db => view db = value
  ran := fun db => view db = value
  mapped := fun db => view db = value
  positioned := fun db => view db = value
  refuses := fun db same _closed => refuses db same
  givesUp := by
    intro db given
    rcases given with same | same | same <;> exact refuses db same
  frees := (leaves_freeStmt outside).triple value
  allocates := (leaves_allocStmt outside).triple value
  holds := fun _db same => same
  prepares := fun _text => (leaves_call outside.beyond _).triple value
  binds := fun params => (leaves_bindAll outside.beyond 1 params).triple value
  forgets := fun db same => (forgets db).trans same
  executes := (leaves_call outside.beyond _).triple value
  delivers := fun answer => (delivers answer.2).triple value
  maps := (leaves_buildColumnMap outside.beyond).triple value
  fetches := (leaves_fetchRow outside.beyond).triple value
  marks := marks

/-! ### The connection -/

theorem addParam_conn (param : Param) :
    Leaves Object.conn (addParam param : Method W Unit) := by
  unfold addParam beginParam
  apply Leaves.bind
  · apply leaves_modify
    intro db
    split
    · rfl
    · rfl
  · intro _begun
    exact leaves_modify fun _db => rfl

theorem deliver_conn (written : List Written) :
    Leaves Object.conn (deliver written : Method W Unit) :=
  leaves_modify fun _db => rfl

theorem execCall_conn (sp : String) : Leaves Object.conn (execCall driver sp) := by
  intro before
  have outline : CallOutline driver (fun db => db.conn = before.conn)
      (fun _succeeded db => db.conn = before.conn) := by
    apply CallOutline.outside outside_conn
    · exact fun _db same => same
    · exact fun _db => rfl
    · exact deliver_conn
    · exact fun _db same => same
  exact outline.triple sp before rfl

theorem executeStoredProcedure_conn (sp : String) :
    Leaves Object.conn (executeStoredProcedure driver sp) := by
  unfold executeStoredProcedure
  apply leaves_get.bind
  intro db
  exact (leaves_execute outside_conn _).ite (execCall_conn sp)

/-- GetParam(int) is an overload like the others. -/
theorem getParam_as (name : String) : getParam driver name = getParamAs driver intValue none name := by
  have same (db : Object W) : readParam db name =
      ((findParam db (text name)).map fun param => intValue (param.buf, param.ind)).getD none := by
    unfold readParam
    cases findParam db (text name) with
    | none => rfl
    | some param => rfl
  unfold getParam getParamAs
  simp only [same]

theorem getParam_conn (name : String) : Leaves Object.conn (getParam driver name) := by
  rw [getParam_as]
  exact leaves_getParamAs outside_conn deliver_conn intValue none name

theorem close_conn : Sets Object.conn false (close driver) := by
  have disconnected : Sets Object.conn false (do
      call driver.disconnect
      call (driver.freeHandle .dbc)
      modify fun db => { db with conn := false }) :=
    Sets.last fun _left => Sets.last fun _freed => sets_modify fun _db => rfl
  unfold close
  apply Sets.last
  intro _freed
  apply Sets.last
  intro _cleared
  apply Sets.bind
  · intro db
    unfold whenSet
    split
    · exact disconnected db
    · rename_i unset
      rwa [Bool.not_eq_true] at unset
  · intro _closed
    apply leaves_whenSet
    apply (leaves_call outside_conn.beyond _).bind
    intro _freed
    exact leaves_modify fun _db => rfl

/-- From a closed object, Open succeeds exactly when it leaves a connection. -/
theorem connect_conn (connStr : Bytes) :
    Triple (fun db : Object W => db.conn = false) (connect driver connStr)
      (fun opened db => db.conn = opened) := by
  have closes (pre : Object W → Prop) : Triple pre
      (do
        close driver
        pure false)
      (fun opened db => db.conn = opened) :=
    Triple.bind (close_conn.triple pre) fun _closed => triple_pure fun _db closed => closed
  have noted (env : Bool) :
      Leaves Object.conn (modify fun db => { db with env := env } : Method W Unit) :=
    leaves_modify fun _db => rfl
  have held (conn : Bool) :
      Sets Object.conn conn (modify fun db => { db with conn := conn } : Method W Unit) :=
    sets_modify fun _db => rfl
  unfold connect
  refine Triple.bind ((leaves_call outside_conn.beyond _).triple false) ?_
  intro env
  refine Triple.bind ((noted env).triple false) ?_
  intro _noted
  refine Triple.ite (fun _failed => triple_pure fun _db closed => closed) ?_
  intro _allocated
  refine Triple.bind ((leaves_call outside_conn.beyond _).triple false) ?_
  intro _version
  refine Triple.bind ((leaves_call outside_conn.beyond _).triple false) ?_
  intro conn
  refine Triple.bind ((held conn).triple _) ?_
  intro _held
  refine Triple.ite (fun _failed => closes _) ?_
  intro allocated
  refine Triple.bind ((leaves_call outside_conn.beyond _).triple conn) ?_
  intro connected
  refine Triple.ite (fun _failed => closes _) ?_
  intro _connected
  apply triple_pure
  intro db same
  rw [same]
  rwa [Bool.not_eq_true', Bool.not_eq_false] at allocated

end Object

end RanOnline.Db
