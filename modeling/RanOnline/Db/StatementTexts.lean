/-
The texts that a server gives its database to execute.

A text reaches the driver as a statement of its own or as the call escape of a procedure.
The escape is made of the name of the procedure and of one marker for each parameter, so
which texts the driver sees depends on no value that is bound.
-/
import RanOnline.Db.DriverCalls
import RanOnline.Db.OdbcParams

namespace RanOnline.Db

open Memory Methods

/-- The call escape for parameters of these directions; true stands for a return value. -/
def escapeText (returns : List Bool) (sp : String) : Bytes :=
  let markers := returns.countP fun isReturn => !isReturn
  Object.text "\x7b " ++ (if returns.any id then Object.text "? = " else []) ++
    Object.text ("call " ++ sp) ++
    (if 0 < markers then
      Object.text " (" ++
        ((List.range markers).flatMap fun i => Object.text (if i = 0 then "?" else ",?")) ++
        Object.text ")"
    else []) ++ Object.text " \x7d"

theorem callText_escapeText (params : List Param) (sp : String) :
    Object.callText params sp = escapeText (params.map Param.isReturn) sp := by
  have markers : (params.map Param.isReturn).countP (fun isReturn => !isReturn) =
      params.countP fun param => !param.isReturn := List.countP_map
  have returns : (params.map Param.isReturn).any id = params.any Param.isReturn := List.any_map
  rw [escapeText, markers, returns]
  rfl

/-! ### The rules -/

/-- Which texts may be given, and what holds of a database that was given no others: between
two procedures, and while the parameters of the next one are appended. -/
structure OdbcDb.Texts {D : Type} (odbc : OdbcDb D) where
  direct : Bytes → Prop
  prepared : Bytes → Prop
  within : D → Prop
  appending : List Bool → D → Prop
  clearParams : Triple within odbc.clearParams fun _cleared => appending []
  appendIParamInteger : ∀ name value returns,
    Triple (appending returns) (odbc.appendIParamInteger name value)
      fun _appended => appending (returns ++ [false])
  appendIParamVarchar : ∀ name value size returns,
    Triple (appending returns) (odbc.appendIParamVarchar name value size)
      fun _appended => appending (returns ++ [false])
  appendOParamInteger : ∀ name returns,
    Triple (appending returns) (odbc.appendOParamInteger name)
      fun _appended => appending (returns ++ [false])
  appendRParamInteger : ∀ returns,
    Triple (appending returns) odbc.appendRParamInteger
      fun _appended => appending (returns ++ [true])
  execute : ∀ sql, direct sql → Triple within (odbc.execute sql) fun _executed => within
  executeStoredProcedure : ∀ sp returns, returns ≠ [] → prepared (escapeText returns sp) →
    Triple (appending returns) (odbc.executeStoredProcedure sp) fun _executed => within
  next : Triple within odbc.next fun _fetched => within
  getCollect : ∀ column, Triple within (odbc.getCollect column) fun _value => within
  getCollectString : ∀ column, Triple within (odbc.getCollectString column) fun _value => within
  getParam : ∀ name, Triple within (odbc.getParam name) fun _value => within

/-! ### What OdbcDb gives its driver -/

namespace Driver

variable {W : Type}

/-- A record that has begun before goes on in the same way. -/
theorem recorded_shows_later (driver : Driver W) (before : List DriverCall) :
    driver.recorded.Shows driver.recorded fun state => (state.1, before ++ state.2) where
  allocHandle := fun _handle _state => ⟨rfl, rfl⟩
  freeHandle := fun _handle _state => ⟨rfl, rfl⟩
  execDirect := fun _sql _state => ⟨rfl, Prod.ext rfl (List.append_assoc _ _ _).symm⟩
  prepare := fun _text _state => ⟨rfl, Prod.ext rfl (List.append_assoc _ _ _).symm⟩
  bindParameter := fun _number _param _state => ⟨rfl, Prod.ext rfl (List.append_assoc _ _ _).symm⟩
  execute := fun _state => ⟨rfl, Prod.ext rfl (List.append_assoc _ _ _).symm⟩
  numResultCols := fun _state => ⟨rfl, rfl⟩
  describeCol := fun _col _state => ⟨rfl, rfl⟩
  fetch := fun _state => ⟨rfl, rfl⟩
  getDataLong := fun _col _state => ⟨rfl, rfl⟩
  getDataChar := fun _col _size _state => ⟨rfl, rfl⟩
  moreResults := fun _state => ⟨rfl, Prod.ext rfl (List.append_assoc _ _ _).symm⟩
  resultsLeft := fun _state => rfl

end Driver

namespace Object

variable {W : Type} {driver : Driver W} (direct prepared : Bytes → Prop)

/-- The texts of the record are among these. -/
def AllowedCall : DriverCall → Prop
  | .direct sql => direct sql
  | .prepare text => prepared text
  | _ => True

def Within (db : Object (Recorded W)) : Prop :=
  ∀ call, call ∈ db.record → AllowedCall direct prepared call

/-- The parameters appended so far, by their directions. -/
structure Appending (returns : List Bool) (db : Object (Recorded W)) : Prop where
  within : db.Within direct prepared
  params : db.params.map Param.isReturn = returns
  begun : db.paramsExecuted = false

variable {direct prepared}

theorem withRecord_later (db : Object (Recorded W)) :
    (db.seen Prod.fst).withRecord.seen (fun state => (state.1, db.record ++ state.2)) = db := by
  change { db with driver := (db.driver.1, db.record ++ []) } = db
  rw [List.append_nil]
  rfl

theorem executeStoredProcedure_record (sp : String) (db : Object (Recorded W)) :
    (executeStoredProcedure driver.recorded sp db).2.record =
      db.record ++ procedureCalls driver sp (db.seen Prod.fst) := by
  have later := (mirrors_executeStoredProcedure (driver.recorded_shows_later db.record) sp
    (db.seen Prod.fst).withRecord).2
  rw [withRecord_later] at later
  rw [← later]
  rfl

theorem execute_record (sql : Bytes) (db : Object (Recorded W)) :
    ∃ asked, asked <+: [.direct sql] ∧
      (execute driver.recorded sql db).2.record = db.record ++ asked := by
  have later := (mirrors_execute (driver.recorded_shows_later db.record) sql
    (db.seen Prod.fst).withRecord).2
  rw [withRecord_later] at later
  refine ⟨(execute driver.recorded sql (db.seen Prod.fst).withRecord).2.record, ?_, ?_⟩
  · exact (execute_complete sql (db.seen Prod.fst).withRecord rfl).1
  · rw [← later]
    rfl

theorem Within.append {db after : Object (Recorded W)} (within : db.Within direct prepared)
    {asked whole : List DriverCall} (grown : after.record = db.record ++ asked)
    (first : asked <+: whole) (allowed : ∀ call, call ∈ whole → AllowedCall direct prepared call) :
    after.Within direct prepared := by
  intro call member
  rw [grown] at member
  rcases List.mem_append.mp member with earlier | now
  · exact within call earlier
  · exact allowed call (first.subset now)

theorem execute_within {sql : Bytes} (allowed : direct sql) :
    Triple (Within direct prepared) (execute driver.recorded sql)
      fun _executed => Within direct prepared := by
  intro db within
  obtain ⟨asked, first, grown⟩ := @execute_record W driver sql db
  apply within.append grown first
  intro call member
  rw [List.mem_singleton.mp member]
  exact allowed

theorem executeStoredProcedure_within {sp : String} {returns : List Bool} (some : returns ≠ [])
    (allowed : prepared (escapeText returns sp)) :
    Triple (Appending direct prepared returns) (executeStoredProcedure driver.recorded sp)
      fun _executed => Within direct prepared := by
  intro db appending
  apply appending.within.append (executeStoredProcedure_record sp db)
    (procedureCalls_expected sp (db.seen Prod.fst)).1
  have same : (db.seen Prod.fst).params = db.params := rfl
  rw [same]
  have appended : ¬db.params.isEmpty = true := by
    intro empty
    apply some
    rw [← appending.params, List.isEmpty_iff.mp empty]
    rfl
  intro call member
  rw [expectedCalls, if_neg appended] at member
  rcases List.mem_cons.mp member with prepares | later
  · rw [prepares]
    change prepared (callText db.params sp)
    rw [callText_escapeText, appending.params]
    exact allowed
  · rcases List.mem_append.mp later with binds | executes
    · obtain ⟨bound, _numbered, binding⟩ := List.mem_map.mp binds
      rw [← binding]
      trivial
    · rw [List.mem_singleton.mp executes]
      trivial

theorem addParam_appending (param : Param) (returns : List Bool) :
    Triple (Appending direct prepared returns) (addParam param : Method (Recorded W) Unit)
      fun _appended => Appending direct prepared (returns ++ [param.isReturn]) := by
  intro db appending
  have unbegun : (beginParam db).2 = db := by
    change (if db.paramsExecuted then _ else db) = db
    rw [appending.begun]
    rfl
  have added : (addParam param db).2 =
      { db with
        params := db.params ++ [param]
        bindings := givenUp db.params db.bindings } := by
    change { (beginParam db).2 with
      params := (beginParam db).2.params ++ [param]
      bindings := givenUp (beginParam db).2.params (beginParam db).2.bindings } = _
    rw [unbegun]
  rw [added]
  refine ⟨appending.within, ?_, appending.begun⟩
  change (db.params ++ [param]).map Param.isReturn = _
  rw [List.map_append, appending.params]
  rfl

theorem clearParams_appending :
    Triple (Within direct prepared) (clearParams : Method (Recorded W) Unit)
      fun _cleared => Appending direct prepared [] := by
  intro db within
  exact ⟨within, rfl, rfl⟩

/-! ### Cursors and values give no text -/

theorem Leaves.within {α : Type} {method : Method (Recorded W) α} (leaves : Leaves record method) :
    Triple (Within direct prepared) method fun _result => Within direct prepared := by
  intro db within
  unfold Within
  rw [leaves db]
  exact within

theorem leaves_record_next : Leaves record (next driver.recorded) := by
  unfold next
  apply leaves_get.bind
  intro db
  apply Leaves.ite
  · apply Leaves.bind
    · exact leaves_modify fun _db => rfl
    · intro _ended
      exact leaves_pure false
  · exact leaves_record_fetchRow

theorem leaves_record_getCollect (column : String) :
    Leaves record (getCollect driver.recorded column) := by
  unfold getCollect
  apply leaves_get.bind
  intro db
  cases colIndex db column with
  | none => exact leaves_pure none
  | some idx =>
      apply Leaves.bind
      · exact leaves_shown_call fun _state => rfl
      · intro answer
        exact leaves_pure _

theorem leaves_record_getCollectString (column : String) :
    Leaves record (getCollectString driver.recorded column) := by
  unfold getCollectString
  apply leaves_get.bind
  intro db
  cases colIndex db column with
  | none => exact leaves_pure _
  | some idx =>
      apply Leaves.bind
      · exact leaves_shown_call fun _state => rfl
      · intro answer
        exact (leaves_pure _).ite ((leaves_pure _).ite (leaves_pure _))

theorem getParam_within (name : String) :
    Triple (Within direct prepared) (getParam driver.recorded name)
      fun _value => Within direct prepared := by
  have outline : DrainOutline driver.recorded (Within direct prepared) (Within direct prepared) :=
    { enters := fun _db within _held => within
      asks := by
        intro db within call member
        rcases List.mem_append.mp member with earlier | now
        · exact within call earlier
        · rw [List.mem_singleton.mp now]
          trivial
      delivers := fun written => Leaves.within (deliver_record written)
      ends := fun _db within => within
      marks := fun _db within => within }
  rw [getParam_as]
  exact outline.reads intValue none name

/-- OdbcDb over any driver keeps to the rules. -/
def texts (driver : Driver W) (direct prepared : Bytes → Prop) :
    (odbcDb driver.recorded).Texts where
  direct := direct
  prepared := prepared
  within := Within direct prepared
  appending := Appending direct prepared
  clearParams := clearParams_appending
  appendIParamInteger := fun _name _value returns => addParam_appending _ returns
  appendIParamVarchar := fun _name _value _size returns => addParam_appending _ returns
  appendOParamInteger := fun _name returns => addParam_appending _ returns
  appendRParamInteger := fun returns => addParam_appending _ returns
  execute := fun _sql allowed => execute_within allowed
  executeStoredProcedure := fun _sp _returns some allowed =>
    executeStoredProcedure_within some allowed
  next := Leaves.within leaves_record_next
  getCollect := fun column => Leaves.within (leaves_record_getCollect column)
  getCollectString := fun column db within =>
    Leaves.within (leaves_record_getCollectString column) db within
  getParam := getParam_within

end Object

end RanOnline.Db
