/-
Which parameters a procedure is called with, over the calls on one OdbcDb
(db/odbc_db.h, odbc_db.cpp).

A call that succeeded marks its parameters, and the next Append drops them.  A call that
failed leaves them unmarked, and a call without an Append in between finds them again.
The statement keeps the addresses of dropped parameters, and a GetParam that comes late
makes the driver write there.
-/
import RanOnline.Db.OdbcDrain
import RanOnline.Lib.StepRun

namespace RanOnline.Db

open Memory Methods StepRun

/-- The parameter as it was appended: an output waits for its value. -/
def Param.declared (param : Param) : Param :=
  match param.ioType with
  | .input => param
  | .output => { param with buf := List.replicate param.buf.length 0, ind := sqlNullData }

def DriverCall.declared : DriverCall → DriverCall
  | .bind number param => .bind number param.declared
  | call => call

/-- The Append*Param calls. -/
inductive Append
  | iInteger (name : String) (value : Int)
  | oInteger (name : String)
  | rInteger
  | iBigint (name : String) (value : Int64)
  | oBigint (name : String)
  | iTinyint (name : String) (value : UInt8)
  | oTinyint (name : String)
  | iSmall (name : String) (value : UInt16)
  | oSmall (name : String)
  | iVarchar (name : String) (value : Bytes) (size : Int)
  | oVarchar (name : String) (size : Int)
  | iFloat (name : String) (bits : UInt64)
  | oFloat (name : String)

namespace Append

open Object

variable {W : Type}

def run : Append → Method W Unit
  | .iInteger name value => appendIParamInteger name value
  | .oInteger name => appendOParamInteger name
  | .rInteger => appendRParamInteger
  | .iBigint name value => appendIParamBigint name value
  | .oBigint name => appendOParamBigint name
  | .iTinyint name value => appendIParamTinyint name value
  | .oTinyint name => appendOParamTinyint name
  | .iSmall name value => appendIParamSmall name value
  | .oSmall name => appendOParamSmall name
  | .iVarchar name value size => appendIParamVarchar name value size
  | .oVarchar name size => appendOParamVarchar name size
  | .iFloat name bits => appendIParamFloat name bits
  | .oFloat name => appendOParamFloat name

/-- What the call adds to an object without parameters. -/
def params (append : Append) : List Param := (append.run (Object.new ())).2.params

/-- Each call adds one parameter, as it was declared. -/
theorem run_addParam (append : Append) :
    ∃ param : Param, param.declared = param ∧ append.params = [param] ∧
      ∀ W : Type, (append.run : Method W Unit) = addParam param := by
  have zeroed (capacity : Nat) :
      List.replicate (List.replicate capacity (0 : UInt8)).length (0 : UInt8) =
        List.replicate capacity 0 := by
    rw [List.length_replicate]
  have output (name : Bytes) (isReturn : Bool) (cType : CType) (sqlType : SqlType)
      (columnSize capacity : Nat) :
      (outputParam name isReturn cType sqlType columnSize capacity).declared =
        outputParam name isReturn cType sqlType columnSize capacity := by
    simp only [Param.declared, outputParam, zeroed]
  cases append with
  | iInteger name value => exact ⟨_, rfl, rfl, fun _W => rfl⟩
  | oInteger name => exact ⟨_, output _ _ _ _ _ _, rfl, fun _W => rfl⟩
  | rInteger => exact ⟨_, output _ _ _ _ _ _, rfl, fun _W => rfl⟩
  | iBigint name value => exact ⟨_, rfl, rfl, fun _W => rfl⟩
  | oBigint name => exact ⟨_, output _ _ _ _ _ _, rfl, fun _W => rfl⟩
  | iTinyint name value => exact ⟨_, rfl, rfl, fun _W => rfl⟩
  | oTinyint name => exact ⟨_, output _ _ _ _ _ _, rfl, fun _W => rfl⟩
  | iSmall name value => exact ⟨_, rfl, rfl, fun _W => rfl⟩
  | oSmall name => exact ⟨_, output _ _ _ _ _ _, rfl, fun _W => rfl⟩
  | iVarchar name value size => exact ⟨_, rfl, rfl, fun _W => rfl⟩
  | oVarchar name size => exact ⟨_, output _ _ _ _ _ _, rfl, fun _W => rfl⟩
  | iFloat name bits => exact ⟨_, rfl, rfl, fun _W => rfl⟩
  | oFloat name => exact ⟨_, output _ _ _ _ _ _, rfl, fun _W => rfl⟩

end Append

/-- Where the accumulated parameters come from: from no earlier procedure, from one that
succeeded, or also from one that failed. -/
inductive Phase
  | fresh
  | spent
  | kept
  deriving DecidableEq, Repr

/-- The object with its history: what was appended since the last ExecuteStoredProcedure or
ClearParams, and what is left from before. -/
structure Use (W : Type) where
  db : Object W
  since : List Append
  phase : Phase

inductive UseCall
  | append (append : Append)
  | clearParams
  | execute (sql : Bytes)
  | executeStoredProcedure (sp : String)
  | getParam (name : String)
  | getParamLongLong (name : String)
  | getParamString (name : String)

namespace Use

open Object

variable {W : Type}

/-- After Open, which may have failed. -/
def opened (driver : Driver W) (connStr : Bytes) (w : W) : Use W :=
  { db := (connect driver connStr (Object.new w)).2
    since := []
    phase := .fresh }

/-- The phase after a procedure that was given the parameters appended since. -/
def phaseAfter (phase : Phase) (since : List Append) (succeeded : Bool) : Phase :=
  if phase = .fresh ∧ since.isEmpty then .fresh
  else if succeeded ∨ phase = .spent then .spent
  else .kept

def step (driver : Driver W) (use : Use W) : UseCall → Use W
  | .append append =>
      { db := (append.run use.db).2
        since := use.since ++ [append]
        phase := if use.phase = .spent then .fresh else use.phase }
  | .clearParams =>
      { db := (clearParams use.db).2
        since := []
        phase := .fresh }
  | .execute sql => { use with db := (Object.execute driver sql use.db).2 }
  | .executeStoredProcedure sp =>
      { db := (Object.executeStoredProcedure driver sp use.db).2
        since := []
        phase := phaseAfter use.phase use.since
          (Object.executeStoredProcedure driver sp use.db).1 }
  | .getParam name => { use with db := (Object.getParam driver name use.db).2 }
  | .getParamLongLong name => { use with db := (Object.getParamLongLong driver name use.db).2 }
  | .getParamString name => { use with db := (Object.getParamString driver name use.db).2 }

/-- The parameters of these calls, in their order. -/
def appended (since : List Append) : List Param := since.flatMap Append.params

/-- A procedure asks the driver for what the parameters appended since ask for, as far as it
gets, and for all of it where it succeeds.  They are as they were appended only if the driver
has not written to given up addresses, which may be theirs. -/
def BindsAppended (driver : Driver W) (use : Use W) : UseCall → Prop
  | .executeStoredProcedure sp =>
      use.db.strayed = false ∧
        (procedureCalls driver sp use.db).map DriverCall.declared <+:
          expectedCalls (appended use.since) sp ∧
        ((Object.executeStoredProcedure driver sp use.db).1 = true →
          (procedureCalls driver sp use.db).map DriverCall.declared =
            expectedCalls (appended use.since) sp)
  | _ => True

/-- A procedure is called when nothing is left from an earlier one. -/
def NothingLeft (use : Use W) : UseCall → Prop
  | .executeStoredProcedure _sp => use.phase = .fresh
  | _ => True

/-- What a GetParam makes the driver write, it writes to addresses that still lead to the
parameters. -/
def WritesInPlace (driver : Driver W) (use : Use W) : UseCall → Prop
  | .getParam _ | .getParamLongLong _ | .getParamString _ =>
      stray (lateWrites driver use.db) use.db.bindings = false
  | _ => True

end Use

namespace Object

variable {W : Type} {driver : Driver W}

/-! ### What the methods leave of the parameters -/

/-- The parameters as they were declared, and whether a procedure ran with them. -/
def held (db : Object W) : List Param × Bool := (db.params.map Param.declared, db.paramsExecuted)

theorem outside_held : Outside (held : Object W → List Param × Bool) :=
  fun _db _driver _stmt _eof _cols _drained _bindings => rfl

theorem overwrite_length (buf bytes : Bytes) : (overwrite buf bytes).length = buf.length := by
  rw [overwrite, List.length_append, List.length_take, List.length_drop]
  omega

theorem filled_length (written : List Written) (number : UInt16) (value : Bytes × Int) :
    (filled written number value).1.length = value.1.length := by
  induction written generalizing value with
  | nil => rfl
  | cons write rest ih =>
      rw [filled, List.foldl_cons]
      refine (ih _).trans ?_
      split
      · exact overwrite_length value.1 write.bytes
      · rfl

theorem declared_receive (written : List Written) (number : UInt16) (param : Param) :
    (receive written number param).declared = param.declared := by
  cases param with
  | mk name ioType isReturn cType sqlType columnSize decimalDigits buf ind =>
      cases ioType with
      | input => rfl
      | output => simp only [receive, Param.declared, filled_length]

theorem declared_received (written : List Written) (params : List Param) :
    (received written params).map Param.declared = params.map Param.declared := by
  rw [received]
  generalize UInt16.ofNat (1 + params.countP Param.isReturn) = other
  generalize (1 : UInt16) = returning
  induction params generalizing returning other with
  | nil => rfl
  | cons param rest ih =>
      rw [receiveFrom]
      split
      · rw [List.map_cons, List.map_cons, declared_receive, ih]
      · rw [List.map_cons, List.map_cons, declared_receive, ih]

theorem deliver_held (written : List Written) :
    Leaves held (deliver written : Method W Unit) := by
  intro db
  have declared : (reached written db.params db.bindings).map Param.declared =
      db.params.map Param.declared := by
    cases db.bindings with
    | none => rfl
    | intact => exact declared_received written db.params
    | dangling _ => rfl
  exact congrArg (·, db.paramsExecuted) declared

/-- A call escape that ran marks the parameters, and any other one leaves the mark. -/
theorem execCall_held (sp : String) (before : List Param × Bool) :
    Triple (fun db : Object W => held db = before) (execCall driver sp)
      (fun succeeded db => held db = (before.1, succeeded || before.2)) := by
  have outline : CallOutline driver (fun db => held db = before)
      (fun succeeded db => held db = (before.1, succeeded || before.2)) := by
    apply CallOutline.outside outside_held
    · exact fun _db same => same
    · exact fun _db => rfl
    · exact deliver_held
    · intro db same
      have declared : db.params.map Param.declared = before.1 := congrArg Prod.fst same
      exact congrArg (·, true) declared
  exact outline.triple sp

theorem executeStoredProcedure_held (sp : String) (db : Object W) :
    held (executeStoredProcedure driver sp db).2 =
      ((held db).1, if db.params.isEmpty then (held db).2
        else (executeStoredProcedure driver sp db).1 || (held db).2) := by
  have chosen : executeStoredProcedure driver sp db =
      if db.params.isEmpty then execute driver (text ("EXEC " ++ sp)) db
      else execCall driver sp db := by
    unfold executeStoredProcedure
    rw [bind_get]
    split
    · rfl
    · rfl
  rw [chosen]
  split
  · exact leaves_execute outside_held _ db
  · exact execCall_held sp (held db) db rfl

theorem addParam_held (param : Param) (db : Object W) :
    held (addParam param db).2 =
      ((if (held db).2 then [] else (held db).1) ++ [param.declared], false) := by
  have added : held (addParam param db).2 =
      (((beginParam db).2.params ++ [param]).map Param.declared,
        (beginParam db).2.paramsExecuted) := rfl
  have begun : (beginParam db).2 = if db.paramsExecuted then withParams [] db else db := rfl
  rw [added, begun, List.map_append, held]
  cases marked : db.paramsExecuted with
  | true => rfl
  | false =>
      simp only [Bool.false_eq_true, if_false, marked]
      rfl

/-! ### Writes to given up addresses -/

theorem stray_append (first second : List Written) (bindings : Bindings) :
    stray (first ++ second) bindings = (stray first bindings || stray second bindings) := by
  cases bindings with
  | none => rfl
  | intact => rfl
  | dangling outputs => exact List.any_append

theorem stray_nil (bindings : Bindings) : stray [] bindings = false := by
  cases bindings <;> rfl

theorem outside_strayed : Outside (Object.strayed : Object W → Bool) :=
  fun _db _driver _stmt _eof _cols _drained _bindings => rfl

theorem beyond_bindings : Beyond fun db : Object W => (db.bindings, db.strayed) :=
  fun _db _driver _eof _cols => rfl

theorem skipResults_strayed (fuel : Nat) (db : Object W) :
    (skipResults driver fuel db).2.strayed =
      (db.strayed || stray (skippedWrites driver fuel db.driver) db.bindings) := by
  induction fuel generalizing db with
  | zero =>
      rw [skippedWrites, stray_nil, Bool.or_false]
      rfl
  | succ fuel ih =>
      have asked : (askedMore driver db).strayed =
          (db.strayed || stray (driver.moreResults db.driver).1.2 db.bindings) := rfl
      rw [skipResults_succ, skippedWrites, stray_append, ← Bool.or_assoc, ← asked]
      split
      · exact ih (askedMore driver db)
      · rw [stray_nil, Bool.or_false]

theorem settled_strayed (db : Object W) :
    (settled driver db).strayed = (db.strayed || stray (lateWrites driver db) db.bindings) := by
  refine (@settled_skipped W driver _ Object.strayed (fun _db _drained _eof => rfl) db).trans ?_
  rw [lateWrites]
  split
  · exact skipResults_strayed _ db
  · rw [stray_nil, Bool.or_false]

theorem execCall_strayed (sp : String) : Leaves Object.strayed (execCall driver sp) := by
  intro before
  have outline : CallOutline driver (fun db => db.strayed = before.strayed)
      (fun _succeeded db => db.strayed = before.strayed) :=
    { freed := fun db => db.strayed = before.strayed
      allocated := fun _allocated db => db.strayed = before.strayed
      held := fun db => db.strayed = before.strayed
      forgotten := fun db => (db.bindings, db.strayed) = (.intact, before.strayed)
      answered := fun _answer db => (db.bindings, db.strayed) = (.intact, before.strayed)
      ran := fun db => (db.bindings, db.strayed) = (.intact, before.strayed)
      mapped := fun db => (db.bindings, db.strayed) = (.intact, before.strayed)
      positioned := fun db => (db.bindings, db.strayed) = (.intact, before.strayed)
      refuses := fun _db same _closed => same
      givesUp := by
        intro db given
        rcases given with same | same | same
        · exact same
        · exact same
        · exact congrArg Prod.snd same
      frees := (leaves_freeStmt outside_strayed).triple _
      allocates := (leaves_allocStmt outside_strayed).triple _
      holds := fun _db same => same
      prepares := fun _text => (leaves_call outside_strayed.beyond _).triple _
      binds := fun params => (leaves_bindAll outside_strayed.beyond 1 params).triple _
      forgets := fun _db same => congrArg (Prod.mk Bindings.intact) same
      executes := (leaves_call beyond_bindings _).triple _
      delivers := by
        intro answer db same
        have intact : db.bindings = .intact := congrArg Prod.fst same
        change (db.bindings, db.strayed || stray answer.2 db.bindings) = _
        rw [intact, stray, Bool.or_false]
        exact congrArg (Prod.mk Bindings.intact) (congrArg Prod.snd same)
      maps := (leaves_buildColumnMap beyond_bindings).triple _
      fetches := (leaves_fetchRow beyond_bindings).triple _
      marks := fun _db same => congrArg Prod.snd same }
  exact outline.triple sp before rfl

theorem executeStoredProcedure_strayed (sp : String) :
    Leaves Object.strayed (executeStoredProcedure driver sp) := by
  unfold executeStoredProcedure
  apply leaves_get.bind
  intro db
  exact (leaves_execute outside_strayed _).ite (execCall_strayed sp)

theorem addParam_strayed (param : Param) :
    Leaves Object.strayed (addParam param : Method W Unit) := by
  unfold addParam beginParam
  apply Leaves.bind
  · apply leaves_modify
    intro db
    split
    · rfl
    · rfl
  · intro _begun
    exact leaves_modify fun _db => rfl

/-! ### Calls with declared parameters -/

theorem declared_isReturn (param : Param) : param.declared.isReturn = param.isReturn := by
  unfold Param.declared
  split
  · rfl
  · rfl

theorem filter_declared (params : List Param) (keep : Bool → Bool) :
    (params.filter fun param => keep param.isReturn).map Param.declared =
      (params.map Param.declared).filter fun param => keep param.isReturn := by
  rw [List.filter_map]
  congr 1
  apply List.filter_congr
  intro param _member
  exact congrArg keep (declared_isReturn param).symm

theorem bindOrder_declared (params : List Param) :
    (bindOrder params).map Param.declared = bindOrder (params.map Param.declared) := by
  rw [bindOrder, List.map_append, bindOrder]
  congr 1
  · exact filter_declared params id
  · exact filter_declared params not

theorem bindCalls_declared (number : UInt16) (params : List Param) :
    (bindCalls number params).map DriverCall.declared =
      bindCalls number (params.map Param.declared) := by
  induction params generalizing number with
  | nil => rfl
  | cons param rest ih => exact congrArg (DriverCall.bind number param.declared :: ·) (ih (number + 1))

theorem callText_declared (params : List Param) (sp : String) :
    callText (params.map Param.declared) sp = callText params sp := by
  have others : (params.map Param.declared).countP (fun param => !param.isReturn) =
      params.countP fun param => !param.isReturn := by
    rw [List.countP_map]
    apply List.countP_congr
    intro param _member
    change (!param.declared.isReturn) = true ↔ _
    rw [declared_isReturn]
  have any : (params.map Param.declared).any Param.isReturn = params.any Param.isReturn := by
    rw [List.any_map]
    apply congrArg (params.any ·)
    funext param
    exact declared_isReturn param
  rw [callText, others, any]
  rfl

theorem expectedCalls_declared (params : List Param) (sp : String) :
    (expectedCalls params sp).map DriverCall.declared =
      expectedCalls (params.map Param.declared) sp := by
  have empty : (params.map Param.declared).isEmpty = params.isEmpty := List.isEmpty_map
  rw [expectedCalls, expectedCalls, empty]
  split
  · rfl
  · rw [escapeCalls, escapeCalls, callText_declared, ← bindOrder_declared, ← bindCalls_declared,
      List.map_cons, List.map_append]
    rfl

end Object

namespace Use

open Object

variable {W : Type} {driver : Driver W}

/-! ### The phases are right about the parameters -/

/-- What the history says of the parameters and of their mark. -/
def Sound (phase : Phase) (since : List Append) (held : List Param × Bool) : Prop :=
  match phase with
  | .fresh => held = (appended since, false)
  | .spent => held.1 ≠ [] ∧ held.2 = true ∧ since = []
  | .kept => (appended since).length < held.1.length ∧ held.2 = false

theorem appended_snoc (since : List Append) (append : Append) :
    appended (since ++ [append]) = appended since ++ append.params := by
  rw [appended, List.flatMap_append, List.flatMap_singleton]
  rfl

theorem appended_eq_nil {since : List Append} (none : appended since = []) : since = [] := by
  cases since with
  | nil => rfl
  | cons append rest =>
      obtain ⟨param, _declared, one, _run⟩ := append.run_addParam
      rw [appended, List.flatMap_cons, one] at none
      cases none

theorem sound_append {phase : Phase} {since : List Append} {db : Object W} (append : Append)
    (sound : Sound phase since (held db)) :
    Sound (if phase = .spent then .fresh else phase) (since ++ [append])
      (held (append.run db).2) := by
  obtain ⟨param, declared, one, run⟩ := append.run_addParam
  rw [run W, addParam_held, declared]
  cases phase with
  | fresh =>
      have same : held db = (appended since, false) := sound
      change (_, _) = (_, _)
      rw [same, appended_snoc, one]
      rfl
  | spent =>
      rcases sound with ⟨_some, marked, nothing⟩
      change (_, _) = (_, _)
      rw [marked, nothing, appended_snoc, one]
      rfl
  | kept =>
      rcases sound with ⟨more, unmarked⟩
      refine ⟨?_, rfl⟩
      rw [unmarked, appended_snoc, one, List.length_append]
      change _ < ((held db).1 ++ [param]).length
      rw [List.length_append]
      exact Nat.add_lt_add_right more 1

theorem sound_procedure {phase : Phase} {since : List Append} {db : Object W} (sp : String)
    (sound : Sound phase since (held db)) :
    Sound (phaseAfter phase since (Object.executeStoredProcedure driver sp db).1) []
      (held (Object.executeStoredProcedure driver sp db).2) := by
  have empty : db.params.isEmpty = (held db).1.isEmpty := List.isEmpty_map.symm
  rw [executeStoredProcedure_held, empty]
  generalize (Object.executeStoredProcedure driver sp db).1 = succeeded
  cases phase with
  | fresh =>
      have same : held db = (appended since, false) := sound
      rw [same]
      by_cases nothing : since = []
      · rw [nothing]
        rfl
      · have given : (appended since).isEmpty = false := by
          rw [List.isEmpty_eq_false_iff]
          exact fun none => nothing (appended_eq_nil none)
        have some : ¬since.isEmpty = true := fun none => nothing (List.isEmpty_iff.mp none)
        rw [phaseAfter, if_neg fun both => some both.2, given]
        cases succeeded with
        | true => exact ⟨List.isEmpty_eq_false_iff.mp given, rfl, rfl⟩
        | false => exact ⟨List.length_pos_of_ne_nil (List.isEmpty_eq_false_iff.mp given), rfl⟩
  | spent =>
      rcases sound with ⟨some, marked, _nothing⟩
      rw [marked, List.isEmpty_eq_false_iff.mpr some, Bool.or_true]
      have stays : phaseAfter .spent since succeeded = .spent := by
        rw [phaseAfter, if_neg fun both => Phase.noConfusion both.1, if_pos (Or.inr rfl)]
      rw [stays]
      exact ⟨some, rfl, rfl⟩
  | kept =>
      rcases sound with ⟨more, unmarked⟩
      have some : (held db).1 ≠ [] := List.ne_nil_of_length_pos (Nat.zero_lt_of_lt more)
      rw [unmarked, List.isEmpty_eq_false_iff.mpr some]
      cases succeeded with
      | true => exact ⟨some, rfl, rfl⟩
      | false => exact ⟨List.length_pos_of_ne_nil some, rfl⟩

/-- The parameters, with their mark, and the stray writes of the driver. -/
def traces (db : Object W) : (List Param × Bool) × Bool := (held db, db.strayed)

theorem outside_traces : Outside (traces : Object W → (List Param × Bool) × Bool) :=
  fun _db _driver _stmt _eof _cols _drained _bindings => rfl

theorem close_traces :
    Triple (fun db : Object W => traces db = (([], false), false)) (close driver)
      (fun _closed db => traces db = (([], false), false)) := by
  have clears : Triple (fun db : Object W => traces db = (([], false), false))
      (modify (withParams []) : Method W Unit)
      (fun _cleared db => traces db = (([], false), false)) := by
    intro db same
    exact congrArg (fun strayed => (([], false), strayed)) (congrArg Prod.snd same)
  have disconnects : Leaves traces (whenSet Object.conn do
      call driver.disconnect
      call (driver.freeHandle .dbc)
      modify fun db => { db with conn := false } : Method W Unit) := by
    apply leaves_whenSet
    apply (leaves_call outside_traces.beyond _).bind
    intro _left
    apply (leaves_call outside_traces.beyond _).bind
    intro _freed
    exact leaves_modify fun _db => rfl
  have frees : Leaves traces (whenSet Object.env do
      call (driver.freeHandle .env)
      modify fun db => { db with env := false } : Method W Unit) := by
    apply leaves_whenSet
    apply (leaves_call outside_traces.beyond _).bind
    intro _freed
    exact leaves_modify fun _db => rfl
  unfold close
  refine Triple.bind ((leaves_freeStmt outside_traces).triple _) ?_
  intro _freed
  refine Triple.bind clears ?_
  intro _cleared
  exact (disconnects.bind fun _closed => frees).triple _

theorem connect_traces (connStr : Bytes) :
    Triple (fun db : Object W => traces db = (([], false), false)) (connect driver connStr)
      (fun _opened db => traces db = (([], false), false)) := by
  have closes : Triple (fun db : Object W => traces db = (([], false), false))
      (do
        close driver
        pure false)
      (fun _opened db => traces db = (([], false), false)) :=
    Triple.bind close_traces fun _closed => triple_pure fun _db same => same
  have noted (env : Bool) :
      Leaves traces (modify fun db => { db with env := env } : Method W Unit) :=
    leaves_modify fun _db => rfl
  have kept (conn : Bool) :
      Leaves traces (modify fun db => { db with conn := conn } : Method W Unit) :=
    leaves_modify fun _db => rfl
  unfold connect
  refine Triple.bind ((leaves_call outside_traces.beyond _).triple _) ?_
  intro env
  refine Triple.bind ((noted env).triple _) ?_
  intro _noted
  refine Triple.ite (fun _failed => triple_pure fun _db same => same) ?_
  intro _allocated
  refine Triple.bind ((leaves_call outside_traces.beyond _).triple _) ?_
  intro _version
  refine Triple.bind ((leaves_call outside_traces.beyond _).triple _) ?_
  intro conn
  refine Triple.bind ((kept conn).triple _) ?_
  intro _kept
  refine Triple.ite (fun _failed => closes) ?_
  intro _allocated
  refine Triple.bind ((leaves_call outside_traces.beyond _).triple _) ?_
  intro connected
  refine Triple.ite (fun _failed => closes) ?_
  intro _connected
  exact triple_pure fun _db same => same

theorem sound_step (use : Use W) (call : UseCall)
    (sound : Sound use.phase use.since (held use.db)) :
    Sound (step driver use call).phase (step driver use call).since
      (held (step driver use call).db) := by
  have same {α : Type} {method : Method W α} (leaves : Leaves held method) :
      Sound use.phase use.since (held (method use.db).2) := by
    rwa [leaves use.db]
  cases call with
  | append append => exact sound_append append sound
  | clearParams => rfl
  | execute sql => exact same (leaves_execute outside_held sql)
  | executeStoredProcedure sp => exact sound_procedure sp sound
  | getParam name =>
      rw [step, getParam_as]
      exact same (leaves_getParamAs outside_held deliver_held intValue none name)
  | getParamLongLong name =>
      exact same (leaves_getParamAs outside_held deliver_held longLongValue none name)
  | getParamString name =>
      exact same (leaves_getParamAs outside_held deliver_held stringValue (.ok none) name)

theorem sound_run (connStr : Bytes) (w : W) (calls : List UseCall) :
    Sound (run (step driver) (opened driver connStr w) calls).phase
      (run (step driver) (opened driver connStr w) calls).since
      (held (run (step driver) (opened driver connStr w) calls).db) := by
  apply @run_invariant _ _ (step driver) (opened driver connStr w)
    (fun use => Sound use.phase use.since (held use.db))
  · exact congrArg Prod.fst (connect_traces connStr (Object.new w) rfl)
  · exact sound_step

/-! ### GetParam finds the addresses given up -/

theorem strayed_step (use : Use W) (call : UseCall) :
    (step driver use call).db.strayed = false ↔
      use.db.strayed = false ∧ WritesInPlace driver use call := by
  have same {α : Type} {method : Method W α} (leaves : Leaves Object.strayed method) :
      (method use.db).2.strayed = false ↔ use.db.strayed = false ∧ True := by
    rw [leaves use.db, and_true]
  have drains : (settled driver use.db).strayed = false ↔
      use.db.strayed = false ∧ stray (lateWrites driver use.db) use.db.bindings = false := by
    rw [settled_strayed, Bool.or_eq_false_iff]
  cases call with
  | append append =>
      obtain ⟨param, _declared, _one, run⟩ := append.run_addParam
      apply same
      rw [run W]
      exact addParam_strayed param
  | clearParams => exact same (leaves_modify fun _db => rfl)
  | execute sql => exact same (leaves_execute outside_strayed sql)
  | executeStoredProcedure sp => exact same (executeStoredProcedure_strayed sp)
  | getParam name =>
      rw [step, getParam_eq]
      exact drains
  | getParamLongLong name =>
      rw [step, getParamLongLong, getParamAs_settled]
      exact drains
  | getParamString name =>
      rw [step, getParamString, getParamAs_settled]
      exact drains

/-- The driver has written in place all the way exactly where every GetParam made it. -/
theorem strayed_run (connStr : Bytes) (w : W) (calls : List UseCall) :
    (run (step driver) (opened driver connStr w) calls).db.strayed = false ↔
      Along (step driver) (opened driver connStr w) calls (WritesInPlace driver) := by
  induction calls using List.reverseRecOn with
  | nil =>
      have opens : (opened driver connStr w).db.strayed = false :=
        congrArg Prod.snd (connect_traces connStr (Object.new w) rfl)
      exact iff_of_true opens (along_nil _ _)
  | append_singleton calls call ih => rw [run_snoc, along_snoc, strayed_step, ih]

/-! ### A procedure binds what was appended since -/

theorem procedureCalls_declared (sp : String) (db : Object W) :
    (procedureCalls driver sp db).map DriverCall.declared <+:
        expectedCalls (db.params.map Param.declared) sp ∧
      ((Object.executeStoredProcedure driver sp db).1 = true →
        (procedureCalls driver sp db).map DriverCall.declared =
          expectedCalls (db.params.map Param.declared) sp) := by
  have made := @procedureCalls_expected W driver sp db
  rw [← expectedCalls_declared]
  exact ⟨made.1.map _, fun succeeded => congrArg (List.map DriverCall.declared) (made.2 succeeded)⟩

theorem binds_of_fresh {use : Use W} (sound : Sound use.phase use.since (held use.db))
    (inPlace : use.db.strayed = false) (call : UseCall) (fresh : NothingLeft use call) :
    BindsAppended driver use call := by
  cases call with
  | executeStoredProcedure sp =>
      have phase : use.phase = .fresh := fresh
      rw [phase] at sound
      have params : use.db.params.map Param.declared = appended use.since :=
        congrArg Prod.fst (show held use.db = (appended use.since, false) from sound)
      have made := @procedureCalls_declared W driver sp use.db
      rw [params] at made
      exact ⟨inPlace, made⟩
  | append _ => trivial
  | clearParams => trivial
  | execute _ => trivial
  | getParam _ => trivial
  | getParamLongLong _ => trivial
  | getParamString _ => trivial

theorem bindCalls_length (number : UInt16) (params : List Param) :
    (bindCalls number params).length = params.length := by
  induction params generalizing number with
  | nil => rfl
  | cons param rest ih => exact congrArg (· + 1) (ih (number + 1))

theorem expectedCalls_length (params : List Param) (sp : String) :
    (expectedCalls params sp).length = if params.isEmpty then 1 else params.length + 2 := by
  have all : (bindOrder params).length = params.length :=
    (List.filter_append_perm Param.isReturn params).length_eq
  rw [expectedCalls]
  split
  · rfl
  · rw [escapeCalls, List.length_cons, List.length_append, bindCalls_length, all]
    rfl

/-- A procedure that succeeds although something was left has bound too many parameters. -/
theorem stale_of_left {use : Use W} (sound : Sound use.phase use.since (held use.db)) {sp : String}
    (left : use.phase ≠ .fresh)
    (succeeded : (Object.executeStoredProcedure driver sp use.db).1 = true) :
    ¬BindsAppended driver use (.executeStoredProcedure sp) := by
  intro binds
  have more : (appended use.since).length < (use.db.params.map Param.declared).length := by
    cases phase : use.phase with
    | fresh => exact absurd phase left
    | spent =>
        rw [phase] at sound
        rw [sound.2.2]
        exact List.length_pos_of_ne_nil sound.1
    | kept =>
        rw [phase] at sound
        exact sound.1
  have made := (@procedureCalls_declared W driver sp use.db).2 succeeded
  have same := made.symm.trans (binds.2.2 succeeded)
  have lengths := congrArg List.length same
  have some : ¬(use.db.params.map Param.declared).isEmpty = true := by
    rw [List.isEmpty_iff]
    exact List.ne_nil_of_length_pos (Nat.zero_lt_of_lt more)
  rw [expectedCalls_length, expectedCalls_length, if_neg some] at lengths
  split at lengths
  · omega
  · omega

/-- Where ClearParams, or an Append after a success, stands between a procedure with
parameters and the next one, and no GetParam has the driver write to addresses given up,
every procedure binds what was appended since; one that succeeds does so in no other case. -/
theorem appended_bound (driver : Driver W) (connStr : Bytes) (w : W) (calls : List UseCall) :
    (Along (step driver) (opened driver connStr w) calls
          (fun use call => NothingLeft use call ∧ WritesInPlace driver use call) →
        Along (step driver) (opened driver connStr w) calls (BindsAppended driver)) ∧
      ∀ before sp after, calls = before ++ .executeStoredProcedure sp :: after →
        (Object.executeStoredProcedure driver sp
            (run (step driver) (opened driver connStr w) before).db).1 = true →
          (BindsAppended driver (run (step driver) (opened driver connStr w) before)
              (.executeStoredProcedure sp) ↔
            NothingLeft (run (step driver) (opened driver connStr w) before)
                (.executeStoredProcedure sp) ∧
              Along (step driver) (opened driver connStr w) before (WritesInPlace driver)) := by
  constructor
  · intro along before call after split
    have earlier : Along (step driver) (opened driver connStr w) before (WritesInPlace driver) := by
      rw [split, along_append] at along
      exact along.1.weaken fun _use _call both => both.2
    exact binds_of_fresh (sound_run connStr w before) ((strayed_run connStr w before).mpr earlier)
      call (along before call after split).1
  · intro before sp after _split succeeded
    have sound := @sound_run W driver connStr w before
    rw [← strayed_run]
    constructor
    · intro binds
      refine ⟨?_, binds.1⟩
      by_contra left
      exact stale_of_left sound left succeeded binds
    · intro both
      exact binds_of_fresh sound both.2 _ both.1

instance decidableNothingLeft (use : Use W) (call : UseCall) :
    Decidable (NothingLeft use call) :=
  match call with
  | .executeStoredProcedure _sp => inferInstanceAs (Decidable (use.phase = .fresh))
  | .append _ | .clearParams | .execute _ | .getParam _ | .getParamLongLong _
  | .getParamString _ => inferInstanceAs (Decidable True)

instance decidableWritesInPlace (driver : Driver W) (use : Use W) (call : UseCall) :
    Decidable (WritesInPlace driver use call) :=
  match call with
  | .getParam _ | .getParamLongLong _ | .getParamString _ =>
      inferInstanceAs (Decidable (stray (lateWrites driver use.db) use.db.bindings = false))
  | .append _ | .clearParams | .execute _ | .executeStoredProcedure _ =>
      inferInstanceAs (Decidable True)

/-- The two procedures of the smoke test, the second of them without ClearParams before it. -/
theorem appended_bound_smoke :
    Along (step (emptyDriver true)) (opened (emptyDriver true) [] ())
      [.append (.iInteger "@i_int" 21), .append .rInteger,
        .executeStoredProcedure "dbo.sp__odbc_param_smoke", .getParam "RETURN_VALUE",
        .append (.iBigint "@i_big" 5000000000), .append .rInteger,
        .executeStoredProcedure "dbo.sp__odbc_param_smoke2"]
      (BindsAppended (emptyDriver true)) :=
  (appended_bound (emptyDriver true) [] () _).1 (by decide +kernel)

/-- A driver whose SQLExecute fails. -/
def refusingDriver : Driver Unit := { emptyDriver true with execute := pure (.error, []) }

/-- After a failure the next procedure binds the old parameters before its own, after a
success a procedure without parameters binds those of the last one, and a GetParam behind an
Append has an output of the last one written over what was appended. -/
theorem stale_parameters :
    ¬Along (step refusingDriver) (opened refusingDriver [] ())
        [.append (.iInteger "@UserNum" 1), .executeStoredProcedure "dbo.sp_First",
          .append (.iInteger "@ChaNum" 2), .executeStoredProcedure "dbo.sp_Second"]
        (BindsAppended refusingDriver) ∧
      ¬Along (step (emptyDriver true)) (opened (emptyDriver true) [] ())
        [.append (.iInteger "@UserNum" 1), .executeStoredProcedure "dbo.sp_First",
          .executeStoredProcedure "dbo.sp_Second"]
        (BindsAppended (emptyDriver true)) ∧
      ¬Along (step (procedureDriver returnsOne)) (opened (procedureDriver returnsOne) [] [])
        [.append (.oInteger "@UserNum"), .executeStoredProcedure "dbo.sp_First",
          .append (.iInteger "@ChaNum" 2), .getParam "@ChaNum",
          .executeStoredProcedure "dbo.sp_Second"]
        (BindsAppended (procedureDriver returnsOne)) := by
  refine ⟨?_, ?_, ?_⟩
  · intro along
    have made := (along [_, _, _] (.executeStoredProcedure "dbo.sp_Second") [] rfl).2.1.length_le
    revert made
    decide +kernel
  · intro along
    have made := (along [_, _] (.executeStoredProcedure "dbo.sp_Second") [] rfl).2.1.length_le
    revert made
    decide +kernel
  · intro along
    have strayed := (along [_, _, _, _] (.executeStoredProcedure "dbo.sp_Second") [] rfl).1
    revert strayed
    decide +kernel

end Use

end RanOnline.Db
