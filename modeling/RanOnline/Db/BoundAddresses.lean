/-
The addresses that OdbcDb gives its driver, in the use that the servers make of it.

A server clears the parameters, appends those of a procedure, runs it and reads its outputs
before it appends again.  The driver then writes into buffers that are still there.
-/
import RanOnline.Db.StatementTexts

namespace RanOnline.Db

open Memory Methods

namespace Object

variable {W : Type} {driver : Driver W}

/-- No write went to an address that leads nowhere, and only a statement has addresses. -/
structure Unstrayed (db : Object W) : Prop where
  strayed : db.strayed = false
  freed : db.stmt = false → db.bindings = .none

/-- While the parameters of a procedure are appended: a statement is one of an open connection. -/
structure Tied (db : Object W) : Prop extends db.Unstrayed where
  closed : db.conn = false → db.stmt = false

/-- Between two procedures: the addresses of the statement lead to the parameters. -/
structure InPlace (db : Object W) : Prop extends db.Tied where
  reaches : ∀ outputs, db.bindings ≠ .dangling outputs

theorem beyond_inPlace : Beyond (InPlace : Object W → Prop) := by
  intro db driver eof cols
  exact propext
    ⟨fun holds => ⟨⟨⟨holds.strayed, holds.freed⟩, holds.closed⟩, holds.reaches⟩,
      fun holds => ⟨⟨⟨holds.strayed, holds.freed⟩, holds.closed⟩, holds.reaches⟩⟩

theorem new_inPlace (driver : W) : (new driver).InPlace := by
  refine ⟨⟨⟨rfl, fun _freed => rfl⟩, fun _closed => rfl⟩, ?_⟩
  intro outputs impossible
  cases impossible

/-- A closed connection has no statement, and so no addresses. -/
theorem Tied.inPlace_of_closed {db : Object W} (tied : db.Tied) (closed : db.conn = false) :
    db.InPlace := by
  refine ⟨tied, ?_⟩
  intro outputs dangling
  rw [tied.freed (tied.closed closed)] at dangling
  cases dangling

/-! ### Parameters -/

theorem Tied.withParams {db : Object W} (tied : db.Tied) (params : List Param) :
    (withParams params db).Tied := by
  refine ⟨⟨tied.strayed, ?_⟩, tied.closed⟩
  intro freed
  change givenUp db.params db.bindings = .none
  rw [tied.freed freed]
  rfl

theorem clearParams_tied :
    Triple InPlace (clearParams : Method W Unit) fun _cleared => Tied :=
  fun _db inPlace => inPlace.toTied.withParams []

theorem addParam_tied (param : Param) :
    Triple Tied (addParam param : Method W Unit) fun _appended => Tied := by
  intro db tied
  have begun : (beginParam db).2.Tied := by
    change (if db.paramsExecuted then Object.withParams [] db else db).Tied
    split
    · exact tied.withParams []
    · exact tied
  have grown := begun.withParams ((beginParam db).2.params ++ [param])
  exact ⟨⟨grown.strayed, grown.freed⟩, grown.closed⟩

/-! ### Statements -/

/-- The statement handle of an open connection and its addresses, with nothing strayed. -/
structure Stands (stmt : Bool) (bindings : Bindings) (db : Object W) : Prop where
  strayed : db.strayed = false
  stmt : db.stmt = stmt
  bindings : db.bindings = bindings
  opened : db.conn = true

theorem beyond_stands (stmt : Bool) (bindings : Bindings) :
    Beyond (Stands stmt bindings : Object W → Prop) := by
  intro db driver eof cols
  exact propext
    ⟨fun stands => ⟨stands.strayed, stands.stmt, stands.bindings, stands.opened⟩,
      fun stands => ⟨stands.strayed, stands.stmt, stands.bindings, stands.opened⟩⟩

theorem Stands.inPlace {stmt : Bool} {bindings : Bindings} {db : Object W}
    (stands : Stands stmt bindings db) (freed : stmt = false → bindings = .none)
    (reaches : ∀ outputs, bindings ≠ .dangling outputs) : db.InPlace where
  strayed := stands.strayed
  freed := fun missing => stands.bindings.trans (freed (stands.stmt.symm.trans missing))
  closed := fun closed => absurd (stands.opened.symm.trans closed) Bool.noConfusion
  reaches := fun outputs dangling => reaches outputs (stands.bindings.symm.trans dangling)

theorem Stands.inPlace_none {stmt : Bool} {db : Object W} (stands : Stands stmt .none db) :
    db.InPlace :=
  stands.inPlace (fun _missing => rfl) fun _outputs impossible => nomatch impossible

theorem Stands.inPlace_intact {db : Object W} (stands : Stands true .intact db) : db.InPlace :=
  stands.inPlace (fun impossible => nomatch impossible) fun _outputs impossible => nomatch impossible

/-- No statement, and with it no addresses. -/
structure Detached (db : Object W) : Prop where
  strayed : db.strayed = false
  stmt : db.stmt = false
  bindings : db.bindings = .none

theorem Detached.inPlace {db : Object W} (detached : db.Detached) : db.InPlace where
  strayed := detached.strayed
  freed := fun _missing => detached.bindings
  closed := fun _closed => detached.stmt
  reaches := by
    intro outputs dangling
    rw [detached.bindings] at dangling
    cases dangling

theorem freeStmt_detached : Triple Unstrayed (freeStmt driver) fun _freed => Detached := by
  have frees : Triple Unstrayed (whenSet Object.stmt do
      call (driver.freeHandle .stmt)
      modify fun db => { db with stmt := false, bindings := .none }) fun _freed => Detached := by
    apply triple_whenSet
    · exact fun _db held => ⟨held.1.strayed, rfl, rfl⟩
    · exact fun _db unstrayed missing =>
        ⟨unstrayed.strayed, missing, unstrayed.freed missing⟩
  unfold freeStmt
  refine Triple.bind frees ?_
  intro _freed db detached
  exact ⟨detached.strayed, detached.stmt, detached.bindings⟩

theorem freeStmt_stands :
    Triple (fun db : Object W => db.Tied ∧ db.conn = true) (freeStmt driver)
      fun _freed => Stands false .none := by
  intro db given
  have detached := @freeStmt_detached W driver db given.1.toUnstrayed
  exact ⟨detached.strayed, detached.stmt, detached.bindings,
    (leaves_freeStmt outside_conn db).trans given.2⟩

theorem allocStmt_stands :
    Triple (Stands false .none) (allocStmt driver) fun allocated => Stands allocated .none := by
  intro db stands
  exact ⟨stands.strayed, rfl, stands.bindings, stands.opened⟩

theorem deliver_intact (written : List Written) :
    Triple (Stands true .intact) (deliver written : Method W Unit)
      fun _delivered => Stands true .intact := by
  intro db stands
  refine ⟨?_, stands.stmt, stands.bindings, stands.opened⟩
  change (db.strayed || stray written db.bindings) = false
  rw [stands.strayed, stands.bindings]
  rfl

theorem execDirect_inPlace (sql : Bytes) :
    Triple Tied (execDirect driver sql) fun _executed => InPlace := by
  unfold execDirect
  apply Triple.look
  intro before tied
  refine Triple.ite ?_ ?_
  · intro closed
    rw [Bool.not_eq_true'] at closed
    exact triple_pure fun _db same => same ▸ tied.inPlace_of_closed closed
  intro opened
  rw [Bool.not_eq_true', Bool.not_eq_false] at opened
  refine Triple.bind (freeStmt_stands.weaken fun _db same => same ▸ ⟨tied, opened⟩) ?_
  intro _freed
  refine Triple.bind allocStmt_stands ?_
  intro allocated
  refine Triple.ite (fun _missing => triple_pure fun _db stands => stands.inPlace_none) ?_
  intro _stands
  refine Triple.bind (leaves_call (beyond_stands allocated .none) _).keeps ?_
  intro _answer
  exact triple_pure fun _db stands => stands.inPlace_none

theorem execute_inPlace (sql : Bytes) :
    Triple Tied (execute driver sql) fun _executed => InPlace := by
  have given (value : Bool) : Triple InPlace (pure value : Method W Bool) fun _given => InPlace :=
    triple_pure fun _db inPlace => inPlace
  unfold execute
  refine Triple.bind (execDirect_inPlace sql) ?_
  intro _executed
  refine Triple.ite (fun _failed => given false) ?_
  intro _ran
  refine Triple.bind (leaves_buildColumnMap beyond_inPlace).keeps ?_
  intro _mapped
  refine Triple.bind (leaves_fetchRow beyond_inPlace).keeps ?_
  intro _positioned
  exact given true

/-- The addresses are new with every procedure. -/
theorem execCall_inPlace (sp : String) :
    Triple Tied (execCall driver sp) fun _executed => InPlace := by
  have outline : CallOutline driver (fun db => db.Tied ∧ db.conn = true)
      (fun _executed => InPlace) :=
    { freed := Stands false .none
      allocated := fun allocated => Stands allocated .none
      held := Stands true .none
      forgotten := Stands true .intact
      answered := fun _answer => Stands true .intact
      ran := Stands true .intact
      mapped := Stands true .intact
      positioned := Stands true .intact
      refuses := fun _db given closed => absurd (given.2.symm.trans closed) Bool.noConfusion
      givesUp := by
        intro db given
        rcases given with missing | held | failed
        · exact missing.inPlace_none
        · exact held.inPlace_none
        · exact failed.inPlace_intact
      frees := freeStmt_stands
      allocates := allocStmt_stands
      holds := fun _db stands => stands
      prepares := fun _text => (leaves_call (beyond_stands true .none) _).keeps
      binds := fun params => (leaves_bindAll (beyond_stands true .none) 1 params).keeps
      forgets := fun _db stands => ⟨stands.strayed, stands.stmt, rfl, stands.opened⟩
      executes := (leaves_call (beyond_stands true .intact) _).keeps
      delivers := fun answer => deliver_intact answer.2
      maps := (leaves_buildColumnMap (beyond_stands true .intact)).keeps
      fetches := (leaves_fetchRow (beyond_stands true .intact)).keeps
      marks := fun _db stands =>
        Stands.inPlace_intact ⟨stands.strayed, stands.stmt, stands.bindings, stands.opened⟩ }
  intro db tied
  by_cases opened : db.conn = true
  · exact outline.triple sp db ⟨tied, opened⟩
  · rw [Bool.not_eq_true] at opened
    have refused : execCall driver sp db = (false, db) := by
      unfold execCall
      rw [bind_get, opened]
      rfl
    rw [refused]
    exact tied.inPlace_of_closed opened

theorem executeStoredProcedure_inPlace (sp : String) :
    Triple Tied (executeStoredProcedure driver sp) fun _executed => InPlace := by
  unfold executeStoredProcedure
  refine Triple.bind leaves_get.keeps ?_
  intro _before
  exact Triple.ite (fun _plain => execute_inPlace _) fun _params => execCall_inPlace sp

/-! ### Outputs -/

theorem deliver_inPlace (written : List Written) :
    Triple InPlace (deliver written : Method W Unit) fun _delivered => InPlace := by
  intro db inPlace
  refine ⟨⟨⟨?_, inPlace.freed⟩, inPlace.closed⟩, inPlace.reaches⟩
  change (db.strayed || stray written db.bindings) = false
  rw [inPlace.strayed]
  cases bound : db.bindings with
  | none => rfl
  | intact => rfl
  | dangling outputs => exact absurd bound (inPlace.reaches outputs)

theorem getParam_inPlace (name : String) :
    Triple InPlace (getParam driver name) fun _value => InPlace := by
  have outline : DrainOutline driver InPlace InPlace :=
    { enters := fun _db inPlace _held => inPlace
      asks := (leaves_call beyond_inPlace _).keeps
      delivers := deliver_inPlace
      ends := fun _db inPlace => inPlace
      marks := fun _db inPlace =>
        ⟨⟨⟨inPlace.strayed, inPlace.freed⟩, inPlace.closed⟩, inPlace.reaches⟩ }
  rw [getParam_as]
  exact outline.reads intValue none name

/-! ### The connection -/

theorem close_inPlace : Triple Unstrayed (close driver) fun _closed => InPlace := by
  have cleared : Triple Detached (modify (withParams []) : Method W Unit)
      fun _cleared => Detached := by
    intro db detached
    refine ⟨detached.strayed, detached.stmt, ?_⟩
    change givenUp db.params db.bindings = .none
    rw [detached.bindings]
    rfl
  have disconnects : Triple Detached (whenSet Object.conn do
      call driver.disconnect
      call (driver.freeHandle .dbc)
      modify fun db => { db with conn := false }) fun _disconnected => Detached := by
    apply triple_whenSet
    · exact fun _db both => ⟨both.1.strayed, both.1.stmt, both.1.bindings⟩
    · exact fun _db detached _closed => detached
  have frees : Triple Detached (whenSet Object.env do
      call (driver.freeHandle .env)
      modify fun db => { db with env := false }) fun _freed => InPlace := by
    apply triple_whenSet
    · exact fun _db both => Detached.inPlace ⟨both.1.strayed, both.1.stmt, both.1.bindings⟩
    · exact fun _db detached _freed => detached.inPlace
  unfold close
  refine Triple.bind freeStmt_detached ?_
  intro _freed
  refine Triple.bind cleared ?_
  intro _cleared
  refine Triple.bind disconnects ?_
  intro _disconnected
  exact frees

theorem connect_inPlace (connStr : Bytes) :
    Triple InPlace (connect driver connStr) fun _opened => InPlace := by
  have closes : Triple Unstrayed (do close driver; return false : Method W Bool)
      fun _opened => InPlace := by
    refine Triple.bind close_inPlace ?_
    intro _closed
    exact triple_pure fun _db inPlace => inPlace
  have noted (env : Bool) : Triple InPlace
      (modify fun db => { db with env := env } : Method W Unit) fun _noted => InPlace :=
    fun _db inPlace => ⟨⟨⟨inPlace.strayed, inPlace.freed⟩, inPlace.closed⟩, inPlace.reaches⟩
  unfold connect
  refine Triple.bind (leaves_call beyond_inPlace _).keeps ?_
  intro env
  refine Triple.bind (noted env) ?_
  intro _noted
  refine Triple.ite (fun _missing => triple_pure fun _db inPlace => inPlace) ?_
  intro _allocated
  refine Triple.bind (leaves_call beyond_inPlace _).keeps ?_
  intro _versioned
  refine Triple.bind (leaves_call beyond_inPlace _).keeps ?_
  intro conn
  cases conn with
  | false =>
      have lost : Triple InPlace
          (modify fun db => { db with conn := false } : Method W Unit) fun _lost => Unstrayed :=
        fun _db inPlace => ⟨inPlace.strayed, inPlace.freed⟩
      exact Triple.bind lost fun _lost => closes
  | true =>
      have held : Triple InPlace
          (modify fun db => { db with conn := true } : Method W Unit) fun _held => InPlace :=
        fun _db inPlace =>
          ⟨⟨⟨inPlace.strayed, inPlace.freed⟩, Bool.noConfusion⟩, inPlace.reaches⟩
      refine Triple.bind held ?_
      intro _held
      refine Triple.bind (leaves_call beyond_inPlace _).keeps ?_
      intro _connected
      refine Triple.ite (fun _failed => closes.weaken fun _db inPlace => inPlace.toUnstrayed) ?_
      intro _opened
      exact triple_pure fun _db inPlace => inPlace

/-! ### The rules of the servers -/

/-- Whatever texts are given. -/
def addresses (driver : Driver W) : (odbcDb driver).Texts where
  direct := fun _sql => True
  prepared := fun _text => True
  within := InPlace
  appending := fun _returns => Tied
  clearParams := clearParams_tied
  appendIParamInteger := fun _name _value _returns => addParam_tied _
  appendIParamVarchar := fun _name _value _size _returns => addParam_tied _
  appendOParamInteger := fun _name _returns => addParam_tied _
  appendRParamInteger := fun _returns => addParam_tied _
  execute := fun sql _allowed =>
    (execute_inPlace sql).weaken fun _db inPlace => inPlace.toTied
  executeStoredProcedure := fun sp _returns _some _allowed => executeStoredProcedure_inPlace sp
  next := (leaves_next beyond_inPlace).keeps
  getCollect := fun column => (leaves_getCollect beyond_inPlace column).keeps
  getCollectString := fun column db inPlace =>
    (leaves_getCollectString beyond_inPlace column).keeps db inPlace
  getParam := getParam_inPlace

end Object

end RanOnline.Db
