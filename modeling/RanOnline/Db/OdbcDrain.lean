/-
Output parameters wait for the last result set (db/odbc_db.h, odbc_db.cpp).

ODBC writes the outputs of a procedure when SQLMoreResults finds no more results.  The
first GetParam asks for further results as long as the answer is SQL_SUCCESS; an answer
with a diagnostic ends the loop as well.
-/
import RanOnline.Db.DriverCalls

namespace RanOnline.Db

open Memory Methods

variable {W : Type}

structure Driver.DefersOutputs (driver : Driver W) : Prop where
  execute : ∀ w, (driver.execute w).1.2 = []
  moreResults : ∀ w, (driver.moreResults w).1.1 ≠ .noData → (driver.moreResults w).1.2 = []

/-- The answers of SQLMoreResults from here up to SQL_NO_DATA, and what is written with it. -/
inductive Results (driver : Driver W) : W → List SqlReturn → List Written → Prop
  | last {w : W} {written : List Written} (ended : (driver.moreResults w).1 = (.noData, written)) :
      Results driver w [] written
  | more {w : W} {status : SqlReturn} {statuses : List SqlReturn} {written : List Written}
      (answer : (driver.moreResults w).1.1 = status) (ok : status.ok = true)
      (rest : Results driver (driver.moreResults w).2 statuses written) :
      Results driver w (status :: statuses) written

/-- What may be read of the rows before the outputs. -/
inductive RowRead
  | next
  | getCollect (column : String)
  | getCollectString (column : String)

namespace Object

def readRow (driver : Driver W) (db : Object W) : RowRead → Object W
  | .next => (next driver db).2
  | .getCollect column => (getCollect driver column db).2
  | .getCollectString column => (getCollectString driver column db).2

def readRows (driver : Driver W) (db : Object W) (reads : List RowRead) : Object W :=
  reads.foldl (readRow driver) db

/-- What GetParam asks of the driver. -/
def paramCalls {α : Type} (driver : Driver W) (value : Bytes × Int → α) (unknown : α)
    (name : String) (db : Object W) : List DriverCall :=
  (getParamAs driver.recorded value unknown name db.withRecord).2.record

/-- What the driver writes while further results are skipped. -/
def skippedWrites (driver : Driver W) : Nat → W → List Written
  | 0, _ => []
  | fuel + 1, w =>
      (driver.moreResults w).1.2 ++
        if (driver.moreResults w).1.1 = .success then
          skippedWrites driver fuel (driver.moreResults w).2
        else []

/-- What a GetParam makes it write. -/
def lateWrites (driver : Driver W) (db : Object W) : List Written :=
  if !db.resultsDrained && db.stmt then
    skippedWrites driver (driver.resultsLeft db.driver + 1) db.driver
  else []

/-- The value of a parameter by its name. -/
def valueIn {α : Type} (value : Bytes × Int → α) (unknown : α) (name : String)
    (params : List Param) : α :=
  ((params.find? fun param => lower param.name = lower (text name)).map
    fun param => value (param.buf, param.ind)).getD unknown

variable {driver : Driver W}

/-! ### A procedure that ran -/

/-- A statement is there, its results are not drained, and these are the parameters. -/
def readiness (db : Object W) : Bool × Bool × List Param := (db.stmt, db.resultsDrained, db.params)

theorem beyond_readiness : Beyond (readiness : Object W → Bool × Bool × List Param) :=
  fun _db _driver _eof _cols => rfl

/-- And where their addresses lead, and what was written there. -/
def reach (db : Object W) : List Written × Bindings × Bool × Bool × List Param :=
  (db.written, db.bindings, readiness db)

theorem beyond_reach :
    Beyond (reach : Object W → List Written × Bindings × Bool × Bool × List Param) :=
  fun _db _driver _eof _cols => rfl

theorem freeStmt_drained : Sets Object.resultsDrained false (freeStmt driver) := by
  unfold freeStmt
  apply Sets.last
  intro _freed
  exact sets_modify fun _db => rfl

theorem freeStmt_undrained (bound : List Param) :
    Triple (fun db : Object W => db.params = bound) (freeStmt driver)
      (fun _freed db => (db.resultsDrained, db.params) = (false, bound)) := by
  intro db same
  have params : (freeStmt driver db).2.params = bound :=
    (leaves_freeStmt outside_params db).trans same
  rw [freeStmt_drained db, params]

theorem allocStmt_readiness (bound : List Param) :
    Triple (fun db : Object W => (db.resultsDrained, db.params) = (false, bound))
      (allocStmt driver) (fun allocated db => readiness db = (allocated, false, bound)) := by
  intro db same
  exact congrArg (Prod.mk (driver.allocHandle .stmt db.driver).1) same

theorem reached_nil (params : List Param) (bindings : Bindings) :
    reached [] params bindings = params := by
  cases bindings with
  | none => rfl
  | intact => rw [reached, received, receiveFrom_nil]
  | dangling _ => rfl

theorem deliver_nothing (db : Object W) : reach (deliver [] db).2 = reach db := by
  change (db.written ++ [], db.bindings, db.stmt, db.resultsDrained,
    reached [] db.params db.bindings) = reach db
  rw [reached_nil, List.append_nil]
  rfl

theorem execCall_reach (defers : driver.DefersOutputs) (sp : String) (bound : List Param) :
    Triple (fun db : Object W => db.params = bound) (execCall driver sp)
      (fun succeeded db => succeeded = true → reach db = ([], .intact, true, false, bound)) := by
  have outline : CallOutline driver (fun db => db.params = bound)
      (fun succeeded db => succeeded = true → reach db = ([], .intact, true, false, bound)) :=
    { freed := fun db => (db.resultsDrained, db.params) = (false, bound)
      allocated := fun allocated db => readiness db = (allocated, false, bound)
      held := fun db => readiness db = (true, false, bound)
      forgotten := fun db => reach db = ([], .intact, true, false, bound)
      answered := fun answer db => answer.2 = [] ∧ reach db = ([], .intact, true, false, bound)
      ran := fun db => reach db = ([], .intact, true, false, bound)
      mapped := fun db => reach db = ([], .intact, true, false, bound)
      positioned := fun db => reach db = ([], .intact, true, false, bound)
      refuses := fun _db _given _closed impossible => Bool.noConfusion impossible
      givesUp := fun _db _given impossible => Bool.noConfusion impossible
      frees := freeStmt_undrained bound
      allocates := allocStmt_readiness bound
      holds := fun _db same => same
      prepares := fun _text => (leaves_call beyond_readiness _).triple _
      binds := fun params => (leaves_bindAll beyond_readiness 1 params).triple _
      forgets := fun _db same => congrArg (fun ready => ([], Bindings.intact, ready)) same
      executes := by
        intro db same
        exact ⟨defers.execute db.driver, (leaves_call beyond_reach _ db).trans same⟩
      delivers := by
        intro answer
        apply Triple.known
        intro nothing
        rw [nothing]
        exact Leaves.triple deliver_nothing _
      maps := (leaves_buildColumnMap beyond_reach).triple _
      fetches := (leaves_fetchRow beyond_reach).triple _
      marks := by
        intro db same _succeeded
        have written : db.written = [] := congrArg Prod.fst same
        have bindings : db.bindings = .intact := congrArg (·.2.1) same
        have held : db.stmt = true := congrArg (·.2.2.1) same
        have params : db.params = bound := congrArg (·.2.2.2.2) same
        change (db.written, db.bindings, db.stmt, false, db.params) = _
        rw [written, bindings, held, params] }
  exact outline.triple sp

theorem readRows_reach (db : Object W) (reads : List RowRead) :
    reach (readRows driver db reads) = reach db := by
  induction reads generalizing db with
  | nil => rfl
  | cons read reads ih =>
      refine (ih (readRow driver db read)).trans ?_
      cases read with
      | next => exact leaves_next beyond_reach db
      | getCollect column => exact leaves_getCollect beyond_reach column db
      | getCollectString column => exact leaves_getCollectString beyond_reach column db

/-! ### The loop -/

/-- The answers that the loop sees. -/
def answered : List SqlReturn → List SqlReturn
  | [] => [.noData]
  | status :: statuses => if status = .success then status :: answered statuses else [status]

theorem answered_complete (statuses : List SqlReturn) (all : ∀ status ∈ statuses, status = .success) :
    answered statuses = statuses ++ [.noData] := by
  induction statuses with
  | nil => rfl
  | cons status statuses ih =>
      rw [answered, if_pos (all status List.mem_cons_self),
        ih fun other member => all other (List.mem_cons_of_mem status member), List.cons_append]

theorem success_of_answered {statuses : List SqlReturn}
    (complete : answered statuses = statuses ++ [.noData]) :
    ∀ status ∈ statuses, status = .success := by
  induction statuses with
  | nil => intro status member; cases member
  | cons status statuses ih =>
      rw [answered] at complete
      split at complete
      · rename_i succeeded
        rw [List.cons_append] at complete
        intro other member
        rcases List.mem_cons.mp member with first | later
        · rw [first, succeeded]
        · exact ih (List.cons.inj complete).2 other later
      · have lengths := congrArg List.length complete
        rw [List.length_append, List.length_cons, List.length_cons] at lengths
        change 1 = _ + 1 + 1 at lengths
        omega

/-- The parameters after these answers; the writes come with the last one. -/
def afterAnswers (written : List Written) (params : List Param) : List SqlReturn → List Param
  | [] => received written params
  | status :: statuses =>
      if status = .success then afterAnswers written params statuses else params

theorem afterAnswers_complete (written : List Written) (params : List Param)
    {statuses : List SqlReturn} (all : ∀ status ∈ statuses, status = .success) :
    afterAnswers written params statuses = received written params := by
  induction statuses with
  | nil => rfl
  | cons status statuses ih =>
      rw [afterAnswers, if_pos (all status List.mem_cons_self)]
      exact ih fun other member => all other (List.mem_cons_of_mem status member)

/-- The object after one SQLMoreResults. -/
def askedMore (driver : Driver W) (db : Object W) : Object W :=
  (deliver (driver.moreResults db.driver).1.2 (call driver.moreResults db).2).2

theorem skipResults_succ (fuel : Nat) (db : Object W) :
    skipResults driver (fuel + 1) db =
      if (driver.moreResults db.driver).1.1 = .success then
        skipResults driver fuel (askedMore driver db)
      else ((), askedMore driver db) := by
  change (if (driver.moreResults db.driver).1.1 = .success then
      skipResults driver fuel else pure ()) (askedMore driver db) = _
  split
  · rfl
  · rfl

/-! ### What the loop makes the driver write -/

/-- The object as GetParam reads it, but for the marks of the drain. -/
theorem settled_skipped {ι : Type} {view : Object W → ι}
    (unmarked : ∀ (db : Object W) drained eof,
      view { db with resultsDrained := drained, eof := eof } = view db) (db : Object W) :
    view (settled driver db) =
      if (!db.resultsDrained && db.stmt) = true then
        view (skipResults driver (driver.resultsLeft db.driver + 1) db).2
      else view db := by
  unfold settled
  cases drained : db.resultsDrained with
  | true => rfl
  | false =>
      rw [if_neg Bool.false_ne_true, Bool.not_false, Bool.true_and]
      cases held : db.stmt with
      | true =>
          have skips : whenSet Object.stmt (do
              skipResults driver (driver.resultsLeft (← get).driver + 1)) db =
              skipResults driver (driver.resultsLeft db.driver + 1) db := by
            unfold whenSet
            rw [if_pos held]
            rfl
          unfold drainResults
          rw [bind_of_eq skips, if_pos rfl]
          exact unmarked _ true true
      | false =>
          have skips : whenSet Object.stmt (do
              skipResults driver (driver.resultsLeft (← get).driver + 1)) db = ((), db) := by
            unfold whenSet
            rw [if_neg (by rw [held]; exact Bool.false_ne_true)]
          unfold drainResults
          rw [bind_of_eq skips, if_neg Bool.false_ne_true]
          exact unmarked db true true

theorem skipResults_answered (defers : driver.DefersOutputs) {w : W} {statuses : List SqlReturn}
    {written : List Written} (results : Results driver w statuses written)
    {db : Object (Recorded W)} (here : db.driver.1 = w) (intact : db.bindings = .intact) {fuel : Nat}
    (enough : driver.resultsLeft w < fuel) :
    (skipResults driver.recorded fuel db).2.record =
        db.record ++ (answered statuses).map DriverCall.moreResults ∧
      (skipResults driver.recorded fuel db).2.params =
        afterAnswers written db.params statuses := by
  obtain ⟨fuel, rfl⟩ := Nat.exists_eq_succ_of_ne_zero (Nat.ne_zero_of_lt enough)
  induction results generalizing db fuel with
  | @last w written ended =>
      subst here
      have stops : ¬(driver.recorded.moreResults db.driver).1.1 = .success := by
        change ¬(driver.moreResults db.driver.1).1.1 = .success
        rw [ended]
        exact SqlReturn.noConfusion
      rw [skipResults_succ, if_neg stops]
      constructor
      · change db.record ++ [.moreResults (driver.moreResults db.driver.1).1.1] = _
        rw [ended]
        rfl
      · change reached (driver.moreResults db.driver.1).1.2 db.params db.bindings = _
        rw [ended, intact]
        rfl
  | @more w status statuses written answer ok rest ih =>
      subst here
      have quiet : (driver.moreResults db.driver.1).1.2 = [] := by
        apply defers.moreResults
        intro ended
        rw [← answer, ended] at ok
        cases ok
      have record : (askedMore driver.recorded db).record = db.record ++ [.moreResults status] := by
        rw [← answer]
        rfl
      have params : (askedMore driver.recorded db).params = db.params := by
        change reached (driver.moreResults db.driver.1).1.2 db.params db.bindings = _
        rw [quiet, reached_nil]
      rw [skipResults_succ]
      by_cases succeeded : status = .success
      · have again : (driver.recorded.moreResults db.driver).1.1 = .success := answer.trans succeeded
        have fewer := driver.moreResults_resultsLeft db.driver.1 again
        obtain ⟨fuel, rfl⟩ := Nat.exists_eq_succ_of_ne_zero (show fuel ≠ 0 by omega)
        obtain ⟨recordRest, paramsRest⟩ := @ih (askedMore driver.recorded db) rfl intact fuel (by omega)
        rw [if_pos again, recordRest, paramsRest, record, params, answered, if_pos succeeded,
          afterAnswers, if_pos succeeded, List.map_cons, List.append_assoc, List.singleton_append]
        exact ⟨rfl, rfl⟩
      · have stops : ¬(driver.recorded.moreResults db.driver).1.1 = .success := by
          intro again
          exact succeeded (answer.symm.trans again)
        rw [if_neg stops, answered, if_neg succeeded, afterAnswers, if_neg succeeded]
        exact ⟨record, params⟩

theorem paramCalls_answered (defers : driver.DefersOutputs) {statuses : List SqlReturn}
    {written : List Written} {params : List Param} {db : Object W}
    (ready : reach db = ([], .intact, true, false, params))
    (results : Results driver db.driver statuses written) {α : Type} (value : Bytes × Int → α)
    (unknown : α) (name : String) :
    paramCalls driver value unknown name db = (answered statuses).map DriverCall.moreResults ∧
      (getParamAs driver value unknown name db).1 =
        valueIn value unknown name (afterAnswers written params statuses) := by
  have intact : db.withRecord.bindings = .intact := congrArg (·.2.1) ready
  have held : db.withRecord.stmt = true := congrArg (·.2.2.1) ready
  have undrained : (!db.withRecord.resultsDrained) = true := by
    rw [show db.withRecord.resultsDrained = false from congrArg (·.2.2.2.1) ready]
    rfl
  have bound : db.withRecord.params = params := congrArg (·.2.2.2.2) ready
  have mirrors := mirrors_getParamAs driver.recorded_shows value unknown name db.withRecord
  have loop := @skipResults_answered W driver defers db.driver statuses written results
    db.withRecord rfl intact (driver.resultsLeft db.driver + 1) (Nat.lt_succ_self _)
  have drained : (drainResults driver.recorded db.withRecord).2 =
      { (skipResults driver.recorded (driver.resultsLeft db.driver + 1) db.withRecord).2 with
        resultsDrained := true, eof := true } := by
    have skips : whenSet Object.stmt (do
        skipResults driver.recorded (driver.recorded.resultsLeft (← get).driver + 1))
        db.withRecord =
        skipResults driver.recorded (driver.resultsLeft db.driver + 1) db.withRecord := by
      unfold whenSet
      rw [if_pos held]
      rfl
    unfold drainResults
    rw [bind_of_eq skips]
    rfl
  have drains : whenSet (fun db => !db.resultsDrained) (drainResults driver.recorded) db.withRecord =
      ((), (drainResults driver.recorded db.withRecord).2) := by
    unfold whenSet
    rw [if_pos undrained]
    rfl
  have read : getParamAs driver.recorded value unknown name db.withRecord =
      (valueIn value unknown name (drainResults driver.recorded db.withRecord).2.params,
        (drainResults driver.recorded db.withRecord).2) := by
    unfold getParamAs
    rw [bind_of_eq drains]
    rfl
  constructor
  · rw [paramCalls, read, drained]
    exact loop.1
  · have same := mirrors.1
    rw [read, drained] at same
    rw [← bound, ← loop.2]
    exact same.symm

/-- The first GetParam after a procedure drains its results, whatever was read of its rows, and
returns what was written exactly when no further result comes with a diagnostic. -/
theorem getParam_drains_iff (defers : driver.DefersOutputs) {db : Object W} {sp : String}
    (given : db.params ≠ []) (executed : (executeStoredProcedure driver sp db).1 = true)
    (reads : List RowRead) {statuses : List SqlReturn} {written : List Written}
    (results : Results driver
      (readRows driver (executeStoredProcedure driver sp db).2 reads).driver statuses written)
    {α : Type} (value : Bytes × Int → α) (unknown : α) (name : String) :
    (paramCalls driver value unknown name
          (readRows driver (executeStoredProcedure driver sp db).2 reads) =
        statuses.map DriverCall.moreResults ++ [.moreResults .noData] ∧
      (getParamAs driver value unknown name
          (readRows driver (executeStoredProcedure driver sp db).2 reads)).1 =
        valueIn value unknown name (received written db.params)) ↔
      ∀ status ∈ statuses, status = .success := by
  have chosen : executeStoredProcedure driver sp db = execCall driver sp db := by
    unfold executeStoredProcedure
    rw [bind_get, if_neg]
    exact fun none => given (List.isEmpty_iff.mp none)
  have ready : reach (readRows driver (executeStoredProcedure driver sp db).2 reads) =
      ([], .intact, true, false, db.params) := by
    rw [readRows_reach, chosen]
    apply execCall_reach defers sp db.params db rfl
    rw [← chosen]
    exact executed
  obtain ⟨calls, found⟩ := paramCalls_answered defers ready results value unknown name
  rw [calls, found]
  constructor
  · intro complete
    apply success_of_answered
    have same := complete.1
    have whole : (answered statuses).map DriverCall.moreResults =
        (statuses ++ [SqlReturn.noData]).map DriverCall.moreResults := by
      rw [same, List.map_append]
      rfl
    exact List.map_injective_iff.mpr (fun _first _second equal => DriverCall.moreResults.inj equal)
      whole
  · intro all
    rw [answered_complete statuses all, afterAnswers_complete written db.params all, List.map_append]
    exact ⟨rfl, rfl⟩

/-- A driver whose procedure has these further results and writes its outputs behind them. -/
def procedureDriver (written : List Written) : Driver (List SqlReturn) where
  allocHandle := fun _handle => pure true
  setEnvAttr := pure ()
  driverConnect := fun _connStr => pure true
  disconnect := pure ()
  freeHandle := fun _handle => pure ()
  execDirect := fun _sql => pure .success
  prepare := fun _call => pure true
  bindParameter := fun _number _param => pure true
  execute := pure (.success, [])
  numResultCols := pure (some 0)
  describeCol := fun _col => pure none
  fetch := pure .noData
  getDataLong := fun _col => pure (.error, none)
  getDataChar := fun _col _size => pure (.error, 0, fun _ => 0)
  moreResults := fun statuses =>
    match statuses with
    | [] => ((.noData, written), [])
    | status :: rest => ((status, []), rest)
  rowsLeft := fun _statuses => 0
  resultsLeft := List.length
  fetch_rowsLeft := fun _statuses fetched => Bool.noConfusion fetched
  getDataLong_rowsLeft := fun _col _statuses => rfl
  getDataChar_rowsLeft := fun _col _size _statuses => rfl
  moreResults_resultsLeft := by
    intro statuses more
    cases statuses with
    | nil => cases more
    | cons status rest => exact Nat.lt_succ_self rest.length

theorem procedureDriver_defers (written : List Written) : (procedureDriver written).DefersOutputs where
  execute := fun _statuses => rfl
  moreResults := by
    intro statuses early
    cases statuses with
    | nil => exact absurd rfl early
    | cons status rest => rfl

theorem procedureDriver_results (written : List Written) {statuses : List SqlReturn}
    (all : ∀ status ∈ statuses, status.ok = true) :
    Results (procedureDriver written) statuses statuses written := by
  induction statuses with
  | nil => exact Results.last rfl
  | cons status rest ih =>
      exact Results.more rfl (all status List.mem_cons_self)
        (ih fun other member => all other (List.mem_cons_of_mem status member))

/-- RETURN_VALUE is 1. -/
def returnsOne : List Written := [{ number := 1, bytes := [1, 0, 0, 0], ind := 4 }]

/-- A connected object with a return value appended. -/
def returnCall (statuses : List SqlReturn) : Object (List SqlReturn) :=
  ((do
    let _opened ← connect (procedureDriver returnsOne) []
    appendRParamInteger : Method (List SqlReturn) Unit) (Object.new statuses)).2

theorem getParam_drains_iff_oneResult :
    (paramCalls (procedureDriver returnsOne) intValue none "RETURN_VALUE"
          (readRows (procedureDriver returnsOne)
            (executeStoredProcedure (procedureDriver returnsOne) "dbo.gs_user_verify"
              (returnCall [.success])).2 [.next]) =
        [SqlReturn.success].map DriverCall.moreResults ++ [.moreResults .noData] ∧
      (getParamAs (procedureDriver returnsOne) intValue none "RETURN_VALUE"
          (readRows (procedureDriver returnsOne)
            (executeStoredProcedure (procedureDriver returnsOne) "dbo.gs_user_verify"
              (returnCall [.success])).2 [.next])).1 =
        valueIn intValue none "RETURN_VALUE"
          (received returnsOne (returnCall [.success]).params)) ↔
      ∀ status ∈ [SqlReturn.success], status = .success := by
  have ready : (readRows (procedureDriver returnsOne)
      (executeStoredProcedure (procedureDriver returnsOne) "dbo.gs_user_verify"
        (returnCall [.success])).2 [.next]).driver = [.success] := by decide +kernel
  apply getParam_drains_iff (procedureDriver_defers returnsOne)
  · exact List.cons_ne_nil _ _
  · decide +kernel
  · rw [ready]
    exact procedureDriver_results returnsOne (by decide)

/-- A diagnostic on the second result set hides the outputs: there is no return value, though
the procedure returned 1. -/
theorem getParam_hidden :
    paramCalls (procedureDriver returnsOne) intValue none "RETURN_VALUE"
        (executeStoredProcedure (procedureDriver returnsOne) "dbo.gs_user_verify"
          (returnCall [.successWithInfo])).2 = [.moreResults .successWithInfo] ∧
      (getParam (procedureDriver returnsOne) "RETURN_VALUE"
        (executeStoredProcedure (procedureDriver returnsOne) "dbo.gs_user_verify"
          (returnCall [.successWithInfo])).2).1 = none ∧
      valueIn intValue none "RETURN_VALUE"
        (received returnsOne (returnCall [.successWithInfo]).params) = some 1 := by
  refine ⟨?_, ?_, ?_⟩
  · decide +kernel
  · decide +kernel
  · decide +kernel

end Object

end RanOnline.Db
