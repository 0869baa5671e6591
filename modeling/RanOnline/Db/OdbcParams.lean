/-
Output parameters of OdbcDb, from the driver's writes to GetParam.

What GetParam finds in a bound parameter is its initial buffer, NULL, with every
write that the driver made since SQLExecute laid over it.
-/
import RanOnline.Db.OdbcFrames

namespace RanOnline.Db

open Memory Methods

namespace Object

variable {W : Type}

/-! ### Writes lie over each other -/

theorem filled_append (first second : List Written) (number : UInt16) (value : Bytes × Int) :
    filled (first ++ second) number value = filled second number (filled first number value) :=
  List.foldl_append

theorem receive_isReturn (written : List Written) (number : UInt16) (param : Param) :
    (receive written number param).isReturn = param.isReturn := by
  unfold receive
  split
  · rfl
  · rfl

theorem receive_append (first second : List Written) (number : UInt16) (param : Param) :
    receive (first ++ second) number param = receive second number (receive first number param) := by
  cases param with
  | mk name ioType isReturn cType sqlType columnSize decimalDigits buf ind =>
      cases ioType with
      | input => rfl
      | output => simp only [receive, filled_append]

theorem receiveFrom_append (first second : List Written) (returning other : UInt16)
    (params : List Param) :
    receiveFrom (first ++ second) returning other params =
      receiveFrom second returning other (receiveFrom first returning other params) := by
  induction params generalizing returning other with
  | nil => rfl
  | cons param rest ih =>
      simp only [receiveFrom]
      by_cases returns : param.isReturn = true
      · rw [if_pos returns, if_pos returns, receiveFrom,
          if_pos ((receive_isReturn first returning param).trans returns), receive_append, ih]
      · rw [if_neg returns, if_neg returns, receiveFrom,
          if_neg (by rw [receive_isReturn]; exact returns), receive_append, ih]

theorem countP_receiveFrom (written : List Written) (returning other : UInt16)
    (params : List Param) :
    (receiveFrom written returning other params).countP Param.isReturn =
      params.countP Param.isReturn := by
  induction params generalizing returning other with
  | nil => rfl
  | cons param rest ih =>
      simp only [receiveFrom]
      split
      · rw [List.countP_cons, List.countP_cons, ih, receive_isReturn]
      · rw [List.countP_cons, List.countP_cons, ih, receive_isReturn]

theorem received_append (first second : List Written) (params : List Param) :
    received (first ++ second) params = received second (received first params) := by
  simp only [received, countP_receiveFrom, receiveFrom_append]

/-! ### Calls that set the parameters -/

theorem givenUp_givenUp (first second : List Param) (bindings : Bindings) :
    givenUp second (givenUp first bindings) = givenUp first bindings := by
  cases bindings with
  | none => rfl
  | intact => rfl
  | dangling _ => rfl

theorem clearParams_bind {α : Type} (rest : Unit → Method W α) (db : Object W) :
    (clearParams >>= rest) db = rest () (withParams [] db) := rfl

theorem addParam_bind {α : Type} (param : Param) (before : List Param) (rest : Unit → Method W α)
    (db : Object W) :
    (addParam param >>= rest) (withParams before db) =
      rest () (withParams (before ++ [param]) db) := by
  have same := givenUp_givenUp db.params before db.bindings
  change rest () { withParams before db with
    params := before ++ [param]
    bindings := givenUp before (givenUp db.params db.bindings) } = _
  rw [same]
  rfl

/-! ### The parameters of a procedure that ran -/

/-- The parameters are those that were bound, as the driver filled them, and it reaches them. -/
def Filled (bound : List Param) (db : Object W) : Prop :=
  db.params = received db.written bound ∧ db.bindings = .intact

theorem receiveFrom_nil (returning other : UInt16) (params : List Param) :
    receiveFrom [] returning other params = params := by
  have same (number : UInt16) (param : Param) : receive [] number param = param := by
    unfold receive
    split
    · rfl
    · rfl
  induction params generalizing returning other with
  | nil => rfl
  | cons param rest ih =>
      simp only [receiveFrom, same, ih]
      split
      · rfl
      · rfl

theorem beyond_filled (bound : List Param) : Beyond (Filled bound : Object W → Prop) :=
  fun _db _driver _eof _cols => rfl

theorem deliver_filled (bound : List Param) (written : List Written) :
    Triple (Filled bound) (deliver written : Method W Unit) (fun _done => Filled bound) := by
  intro db holds
  rcases holds with ⟨filled, intact⟩
  change reached written db.params db.bindings = received (db.written ++ written) bound ∧
    db.bindings = .intact
  rw [intact, reached, received_append, ← filled]
  exact ⟨rfl, rfl⟩

variable {driver : Driver W}

theorem execCall_filled (sp : String) (bound : List Param) :
    Triple (fun db : Object W => db.params = bound) (execCall driver sp)
      (fun executed db => executed = true → Filled bound db) := by
  have outline : CallOutline driver (fun db => db.params = bound)
      (fun executed db => executed = true → Filled bound db) :=
    { freed := fun db => db.params = bound
      allocated := fun _allocated db => db.params = bound
      held := fun db => db.params = bound
      forgotten := Filled bound
      answered := fun _answer => Filled bound
      ran := Filled bound
      mapped := Filled bound
      positioned := Filled bound
      refuses := fun _db _given _closed impossible => Bool.noConfusion impossible
      givesUp := fun _db _given impossible => Bool.noConfusion impossible
      frees := (leaves_freeStmt outside_params).triple bound
      allocates := (leaves_allocStmt outside_params).triple bound
      holds := fun _db same => same
      prepares := fun _text => (leaves_call outside_params.beyond _).triple bound
      binds := fun params => (leaves_bindAll outside_params.beyond 1 params).triple bound
      forgets := by
        intro db same
        change db.params = received [] bound ∧ Bindings.intact = .intact
        rw [received, receiveFrom_nil, same]
        exact ⟨rfl, rfl⟩
      executes := (leaves_call (beyond_filled bound) _).keeps
      delivers := fun answer => deliver_filled bound answer.2
      maps := (leaves_buildColumnMap (beyond_filled bound)).keeps
      fetches := (leaves_fetchRow (beyond_filled bound)).keeps
      marks := fun _db filled _executed => filled }
  exact outline.triple sp

theorem filled_drainOutline (bound : List Param) :
    DrainOutline driver (Filled bound) (Filled bound) where
  enters := fun _db filled _held => filled
  asks := (leaves_call (beyond_filled bound) _).keeps
  delivers := deliver_filled bound
  ends := fun _db filled => filled
  marks := fun _db filled => filled

/-- The loop ends before its fuel does. -/
theorem skipResults_fuel {fuel : Nat} (db : Object W)
    (enough : driver.resultsLeft db.driver < fuel) (more : Nat) :
    skipResults driver (fuel + more) db = skipResults driver fuel db := by
  induction fuel generalizing db with
  | zero => exact absurd enough (Nat.not_lt_zero _)
  | succ fuel ih =>
      rw [Nat.succ_add, skipResults, skipResults]
      by_cases again : (driver.moreResults db.driver).1.1 = .success
      · have fewer := driver.moreResults_resultsLeft db.driver again
        change (if (driver.moreResults db.driver).1.1 = .success then
            skipResults driver (fuel + more) else pure ()) _ =
          (if (driver.moreResults db.driver).1.1 = .success then
            skipResults driver fuel else pure ()) _
        rw [if_pos again, if_pos again]
        exact ih _ (by change driver.resultsLeft (driver.moreResults db.driver).2 < fuel; omega)
      · change (if (driver.moreResults db.driver).1.1 = .success then
            skipResults driver (fuel + more) else pure ()) _ =
          (if (driver.moreResults db.driver).1.1 = .success then
            skipResults driver fuel else pure ()) _
        rw [if_neg again, if_neg again]

/-! ### GetParam -/

/-- The object as GetParam reads it. -/
def settled (driver : Driver W) (db : Object W) : Object W :=
  if db.resultsDrained then db else (drainResults driver db).2

theorem drains_settled (db : Object W) :
    whenSet (fun db => !db.resultsDrained) (drainResults driver) db = ((), settled driver db) := by
  unfold whenSet settled
  cases drained : db.resultsDrained with
  | true => simp only [drained, Bool.not_true, Bool.false_eq_true, if_false, if_true]
  | false =>
      simp only [drained, Bool.not_false, Bool.false_eq_true, if_false, if_true]
      rfl

theorem getParam_eq (name : String) (db : Object W) :
    getParam driver name db = (readParam (settled driver db) name, settled driver db) := by
  unfold getParam
  rw [bind_of_eq (drains_settled db)]
  rfl

theorem getParamAs_settled {α : Type} (value : Bytes × Int → α) (unknown : α) (name : String)
    (db : Object W) : (getParamAs driver value unknown name db).2 = settled driver db := by
  unfold getParamAs
  rw [bind_of_eq (drains_settled db)]
  rfl

theorem settled_drained (db : Object W) : (settled driver db).resultsDrained = true := by
  unfold settled
  cases drained : db.resultsDrained with
  | true => rwa [if_pos rfl]
  | false =>
      rw [if_neg Bool.false_ne_true]
      rfl

theorem settled_settled (db : Object W) : settled driver (settled driver db) = settled driver db :=
  if_pos (settled_drained db)

theorem DrainOutline.settles {around within : Object W → Prop}
    (outline : DrainOutline driver around within) {db : Object W} (holds : around db) :
    around (settled driver db) := by
  unfold settled
  split
  · exact holds
  · exact outline.drains db holds

theorem settled_filled {bound : List Param} {db : Object W} (filled : Filled bound db) :
    Filled bound (settled driver db) :=
  (filled_drainOutline bound).settles filled

/-- What the driver delivered in the integer output parameter with that number: none
where it never wrote it or left it NULL. -/
def outputInt (written : List Written) (number : UInt16) : Option Int :=
  intValue (filled written number (List.replicate 4 0, sqlNullData))

/-- GetParam finds a return value that is appended before all other parameters. -/
theorem readParam_return {db : Object W} {name : String} {rest : List Param}
    (filled : Filled (outputParam (text name) true .slong .integer 10 4 :: rest) db) :
    readParam db name = outputInt db.written 1 := by
  have returns : (outputParam (text name) true .slong .integer 10 4).isReturn = true := rfl
  unfold readParam findParam
  rw [filled.1, received, receiveFrom, if_pos returns, List.find?_cons_of_pos]
  · rfl
  · rw [decide_eq_true_eq]
    rfl

/-! ### The interface of the servers -/

theorem next_eq (db : Object W) :
    next driver db = if db.stmt = true then fetchRow driver db else (false, { db with eof := true }) := by
  by_cases held : db.stmt = true
  · have present : ¬(!db.stmt) = true := by
      rw [held]
      exact Bool.false_ne_true
    rw [if_pos held]
    exact congrFun (if_neg present) db
  · have missing : (!db.stmt) = true := by
      rw [Bool.not_eq_true] at held
      rw [held]
      rfl
    rw [if_neg held]
    exact congrFun (if_pos missing) db

theorem next_eof (db : Object W) : (next driver db).2.eof = !(next driver db).1 := by
  rw [next_eq]
  split
  · rfl
  · rfl

theorem next_rowsLeft (db : Object W) (more : (next driver db).1 = true) :
    driver.rowsLeft (next driver db).2.driver < driver.rowsLeft db.driver := by
  rw [next_eq] at more ⊢
  split at more
  · rename_i held
    rw [if_pos held]
    exact driver.fetch_rowsLeft db.driver more
  · cases more

theorem getCollect_rowsLeft (column : String) :
    Leaves (fun db : Object W => driver.rowsLeft db.driver) (getCollect driver column) := by
  unfold getCollect
  apply leaves_get.bind
  intro db
  cases colIndex db column with
  | none => exact leaves_pure none
  | some idx =>
      apply Leaves.bind
      · exact fun db => driver.getDataLong_rowsLeft idx db.driver
      · intro value
        exact leaves_pure _

theorem getCollectString_rowsLeft (column : String) :
    Leaves (fun db : Object W => driver.rowsLeft db.driver) (getCollectString driver column) := by
  unfold getCollectString
  apply leaves_get.bind
  intro db
  cases colIndex db column with
  | none => exact leaves_pure _
  | some idx =>
      apply Leaves.bind
      · exact fun db => driver.getDataChar_rowsLeft idx 4096 db.driver
      · intro value
        exact (leaves_pure _).ite ((leaves_pure _).ite (leaves_pure _))

/-- A value that is read past its buffer counts as missing. -/
def odbcDb (driver : Driver W) : OdbcDb (Object W) where
  isOpened := isOpened
  clearParams := clearParams
  appendIParamInteger := appendIParamInteger
  appendIParamVarchar := appendIParamVarchar
  appendOParamInteger := appendOParamInteger
  appendRParamInteger := appendRParamInteger
  execute := execute driver
  executeStoredProcedure := executeStoredProcedure driver
  getEOF := Object.eof
  next := next driver
  getCollect := getCollect driver
  getCollectString := fun column db =>
    ((match (getCollectString driver column db).1 with
      | .ok value => value
      | .error _fault => none), (getCollectString driver column db).2)
  getParam := getParam driver
  rowsLeft := fun db => driver.rowsLeft db.driver
  next_eof := next_eof
  next_rowsLeft := next_rowsLeft
  getCollect_rowsLeft := getCollect_rowsLeft
  getCollectString_rowsLeft := getCollectString_rowsLeft

end Object

end RanOnline.Db
