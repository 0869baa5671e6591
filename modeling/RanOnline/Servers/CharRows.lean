/-
Whether a character list is complete, row by row (agent_server.cpp, ProcessCharList).

The loop ends where the cursor is at its end, and an error of SQLFetch puts it there as
well as SQL_NO_DATA.  A row whose number is not delivered counts as one without a number.
-/
import RanOnline.Db.OdbcRows
import RanOnline.Servers.ShownDb

namespace RanOnline.Servers

open Memory Net Db Methods

variable {W : Type} {driver : Driver W}

/-- The ChaNum of each row in a result set of which the driver gave these answers.  Nothing is
known of the rows behind an error. -/
inductive ResultRows : List Answer → List (Option Int) → Prop
  | unasked (rows : List (Option Int)) : ResultRows [] rows
  | ended : ResultRows [.fetched .noData] []
  | failed (rows : List (Option Int)) : ResultRows [.fetched .error] rows
  | row {r got : SqlReturn} {idx : Nat} {value chaNum : Option Int} {log : List Answer}
      {rows : List (Option Int)} (fetched : r.ok = true)
      (delivered : got.ok = true → chaNum = value) (rest : ResultRows log rows) :
      ResultRows (.fetched r :: .gotLong idx got value :: log) (chaNum :: rows)
  | unread {r : SqlReturn} {chaNum : Option Int} {log : List Answer} {rows : List (Option Int)}
      (fetched : r.ok = true) (rest : ResultRows log rows) :
      ResultRows (.fetched r :: log) (chaNum :: rows)

/-- The positive numbers in row order. -/
def positives (rows : List (Option Int)) : List Int :=
  (rows.filterMap id).filter fun chaNum => 0 < chaNum

/-- A list that is reported as one is that of all rows, and an error of SQLFetch is reported. -/
structure ListReported (log : List Answer) (listed : Bool × List Int) : Prop where
  complete : listed.1 = true → ∀ rows, ResultRows log rows → listed.2 = positives rows
  failed : .fetched .error ∈ log → listed.1 = false

/-- Row after row was fetched and its number delivered, and SQL_NO_DATA ended them. -/
inductive AllRead : List Answer → Prop
  | ended : AllRead [.fetched .noData]
  | row {r got : SqlReturn} {idx : Nat} {value : Option Int} {log : List Answer}
      (fetched : r.ok = true) (delivered : got.ok = true) (rest : AllRead log) :
      AllRead (.fetched r :: .gotLong idx got value :: log)

/-! ### What the loop collects -/

/-- The number that a row adds. -/
def pushed (chaNum : Option Int) : List Int := if 0 < chaNum.getD 0 then [chaNum.getD 0] else []

theorem positives_cons (chaNum : Option Int) (rows : List (Option Int)) :
    positives (chaNum :: rows) = pushed chaNum ++ positives rows := by
  cases chaNum with
  | none => rfl
  | some number =>
      change (number :: rows.filterMap id).filter (fun chaNum => 0 < chaNum) =
        (if 0 < number then [number] else []) ++ positives rows
      rw [List.filter_cons]
      by_cases positive : 0 < number
      · rw [if_pos (decide_eq_true positive), if_pos positive]
        rfl
      · rw [if_neg (mt of_decide_eq_true positive), if_neg positive]
        rfl

/-- The numbers that the loop collects where the driver gives these answers. -/
inductive Listed : List Answer → List Int → Prop
  | unasked : Listed [] []
  | ended {r : SqlReturn} (ended : r.ok = false) : Listed [.fetched r] []
  | row {r got : SqlReturn} {idx : Nat} {value : Option Int} {log : List Answer}
      {charNums : List Int} (fetched : r.ok = true) (rest : Listed log charNums) :
      Listed (.fetched r :: .gotLong idx got value :: log)
        (pushed (if got.ok then value else none) ++ charNums)
  | unread {r : SqlReturn} {log : List Answer} {charNums : List Int} (fetched : r.ok = true)
      (rest : Listed log charNums) : Listed (.fetched r :: log) charNums

theorem append_pushed (charNums : List Int) (chaNum : Option Int) :
    (if chaNum.getD 0 > 0 then charNums ++ [chaNum.getD 0] else charNums) =
      charNums ++ pushed chaNum := by
  rw [pushed]
  split
  · rfl
  · rw [List.append_nil]

theorem charListRows_more {D : Type} {odbc : OdbcDb D} {charNums : List Int} {db : D}
    (more : odbc.getEOF db = false) :
    charListRows odbc charNums db =
      charListRows odbc (charNums ++ pushed (odbc.getCollect "ChaNum" db).1)
        (odbc.next (odbc.getCollect "ChaNum" db).2).2 := by
  rw [charListRows_next more, append_pushed]

/-- What the loop has read, over a logged driver: the answers since and the numbers that it
collected. -/
def Collects (driver : Driver W) (charNums : List Int) (db : Object (Logged W))
    (answers : List Answer) (found : List Int) : Prop :=
  (charListRows (Object.odbcDb driver.logged) charNums db).2.log = db.log ++ answers ∧
    (charListRows (Object.odbcDb driver.logged) charNums db).1 = charNums ++ found

/-- Next and the rest of the loop, where the rest is known. -/
theorem collects_next (charNums : List Int) (db : Object (Logged W))
    (rest : (Object.next driver.logged db).2.eof = false →
      ∃ answers found, Collects driver charNums (Object.next driver.logged db).2 answers found ∧
        ∀ r : SqlReturn, r.ok = true → Listed (.fetched r :: answers) found) :
    ∃ tail found, (charListRows (Object.odbcDb driver.logged) charNums
          (Object.next driver.logged db).2).2.log = db.log ++ tail ∧
      (charListRows (Object.odbcDb driver.logged) charNums
          (Object.next driver.logged db).2).1 = charNums ++ found ∧ Listed tail found := by
  have eof := @Object.next_eof (Logged W) driver.logged db
  have stops (ended : (Object.next driver.logged db).1 = false) :
      charListRows (Object.odbcDb driver.logged) charNums (Object.next driver.logged db).2 =
        (charNums, (Object.next driver.logged db).2) := by
    apply charListRows_ended
    rw [ended] at eof
    exact eof
  rcases (@Object.next_log W driver db).2 with ⟨r, logged, answered⟩ | ⟨logged, answered⟩
  · cases began : r.ok with
    | false =>
        rw [began] at answered
        refine ⟨[.fetched r], [], ?_, ?_, Listed.ended began⟩
        · rw [stops answered, logged]
        · rw [stops answered, List.append_nil]
    | true =>
        rw [began] at answered
        rw [answered] at eof
        obtain ⟨answers, found, ⟨log, numbers⟩, listed⟩ := rest eof
        refine ⟨.fetched r :: answers, found, ?_, numbers, listed r began⟩
        rw [log, logged, List.append_assoc, List.singleton_append]
  · refine ⟨[], [], ?_, ?_, Listed.unasked⟩
    · rw [stops answered, logged, List.append_nil]
    · rw [stops answered, List.append_nil]

/-- Behind a row that was fetched, the log goes on and the numbers are those of it. -/
theorem charListRows_listed (charNums : List Int) (db : Object (Logged W)) (more : db.eof = false) :
    ∃ answers found, Collects driver charNums db answers found ∧
      ∀ r : SqlReturn, r.ok = true → Listed (.fetched r :: answers) found := by
  induction charNums, db using charListRows.induct (Object.odbcDb driver.logged) with
  | case1 charNums db _more _chaNum ih =>
      have collected := append_pushed charNums (Object.getCollect driver.logged "ChaNum" db).1
      have rest : (Object.next driver.logged (Object.getCollect driver.logged "ChaNum" db).2).2.eof =
          false → ∃ answers found, Collects driver
            (charNums ++ pushed (Object.getCollect driver.logged "ChaNum" db).1)
            (Object.next driver.logged (Object.getCollect driver.logged "ChaNum" db).2).2
            answers found ∧
          ∀ r : SqlReturn, r.ok = true → Listed (.fetched r :: answers) found := by
        rw [← collected]
        exact ih
      obtain ⟨tail, found, log, numbers, listed⟩ := collects_next _ _ rest
      have steps : charListRows (Object.odbcDb driver.logged) charNums db = _ := charListRows_more more
      unfold Collects
      rw [steps]
      cases column : Object.colIndex db "ChaNum" with
      | none =>
          have read := @Object.getCollect_none (Logged W) driver.logged "ChaNum" db column
          have logged : (Object.getCollect driver.logged "ChaNum" db).2.log = db.log := by rw [read]
          have value : (Object.getCollect driver.logged "ChaNum" db).1 = none := by rw [read]
          rw [logged] at log
          refine ⟨tail, found, ⟨log, ?_⟩, fun r fetched => Listed.unread fetched listed⟩
          refine numbers.trans ?_
          rw [value, List.append_assoc]
          rfl
      | some idx =>
          have read := @Object.getCollect_some (Logged W) driver.logged "ChaNum" db idx column
          have logged : (Object.getCollect driver.logged "ChaNum" db).2.log =
              db.log ++ [.gotLong idx (driver.getDataLong idx db.driver.1).1.1
                (driver.getDataLong idx db.driver.1).1.2] := by
            rw [read]
            rfl
          have value : (Object.getCollect driver.logged "ChaNum" db).1 =
              if (driver.getDataLong idx db.driver.1).1.1.ok then
                (driver.getDataLong idx db.driver.1).1.2 else none := by
            rw [read]
            rfl
          rw [logged, List.append_assoc] at log
          rw [value, List.append_assoc] at numbers
          refine ⟨_, _, ⟨log, ?_⟩, fun r fetched => Listed.row fetched listed⟩
          refine Eq.trans ?_ numbers
          rw [← value]
          rfl
  | case2 charNums db ended => exact absurd more ended

/-! ### Which lists are those of all rows -/

theorem Listed.rows {log : List Answer} {found : List Int} (listed : Listed log found) :
    ∃ rows, ResultRows log rows := by
  induction listed with
  | unasked => exact ⟨[], ResultRows.unasked []⟩
  | @ended r ended =>
      cases r with
      | success => cases ended
      | successWithInfo => cases ended
      | noData => exact ⟨[], ResultRows.ended⟩
      | error => exact ⟨[], ResultRows.failed []⟩
  | @row r got idx value log charNums fetched _rest ih =>
      obtain ⟨rows, known⟩ := ih
      refine ⟨value :: rows, ResultRows.row fetched ?_ known⟩
      intro _delivered
      rfl
  | unread fetched _rest ih =>
      obtain ⟨rows, known⟩ := ih
      exact ⟨none :: rows, ResultRows.unread fetched known⟩

/-- Where the number of a row is not known, there are tables with one and without. -/
theorem unknown_row {log : List Answer} {rows : List (Option Int)} {found : List Int}
    (known : ∀ chaNum, ResultRows log (chaNum :: rows))
    (complete : ∀ rows, ResultRows log rows → found = positives rows) : False := by
  have one := complete _ (known (some 1))
  have nothing := complete _ (known none)
  rw [positives_cons] at one nothing
  have same : [1] ++ positives rows = [] ++ positives rows := one.symm.trans nothing
  have differ := List.append_cancel_right same
  cases differ

theorem Listed.allRead {log : List Answer} {found : List Int} (listed : Listed log found)
    (complete : ∀ rows, ResultRows log rows → found = positives rows)
    (noError : .fetched .error ∉ log) : AllRead log := by
  induction listed with
  | unasked =>
      have one := complete [some 1] (ResultRows.unasked _)
      cases one
  | @ended r ended =>
      cases r with
      | success => cases ended
      | successWithInfo => cases ended
      | noData => exact AllRead.ended
      | error => exact absurd List.mem_cons_self noError
  | @row r got idx value log charNums fetched rest ih =>
      cases delivered : got.ok with
      | false =>
          obtain ⟨rows, known⟩ := rest.rows
          refine (@unknown_row _ rows _ ?_ complete).elim
          intro chaNum
          refine ResultRows.row fetched ?_ known
          intro impossible
          rw [delivered] at impossible
          cases impossible
      | true =>
          refine AllRead.row fetched delivered (ih ?_ ?_)
          · intro rows known
            have listed := complete (value :: rows)
              (ResultRows.row fetched (fun _delivered => rfl) known)
            rw [if_pos delivered, positives_cons] at listed
            exact List.append_cancel_left listed
          · intro failed
            exact noError (List.mem_cons_of_mem _ (List.mem_cons_of_mem _ failed))
  | unread fetched rest _ih =>
      obtain ⟨rows, known⟩ := rest.rows
      refine (@unknown_row _ rows _ ?_ complete).elim
      intro chaNum
      exact ResultRows.unread fetched known

theorem AllRead.noError {log : List Answer} (read : AllRead log) : .fetched .error ∉ log := by
  induction read with
  | ended =>
      intro member
      cases List.mem_singleton.mp member
  | @row r got idx value log fetched _delivered _rest ih =>
      intro member
      rcases List.mem_cons.mp member with same | later
      · rw [← Answer.fetched.inj same] at fetched
        cases fetched
      · rcases List.mem_cons.mp later with impossible | inRest
        · cases impossible
        · exact ih inRest

theorem AllRead.complete {log : List Answer} {found : List Int} (read : AllRead log)
    (listed : Listed log found) (rows : List (Option Int)) (known : ResultRows log rows) :
    found = positives rows := by
  induction read generalizing found rows with
  | ended =>
      cases listed with
      | ended _ended =>
          cases known with
          | ended => rfl
          | unread impossible _rest => cases impossible
      | unread impossible _rest => cases impossible
  | row _fetched delivered _read ih =>
      cases listed with
      | row _fetched rest =>
          cases known with
          | row _fetched value knownRest =>
              rw [value delivered, positives_cons, ← ih rest _ knownRest, if_pos delivered]
          | unread _fetched impossible => cases impossible
      | unread _fetched impossible => cases impossible

theorem Listed.reported_iff {log : List Answer} {found : List Int} (listed : Listed log found) :
    ListReported log (true, found) ↔ AllRead log := by
  constructor
  · intro reported
    apply listed.allRead (reported.complete rfl)
    intro failed
    have impossible := reported.failed failed
    cases impossible
  · intro read
    constructor
    · intro _complete
      exact read.complete listed
    · intro failed
      exact absurd failed read.noError

/-! ### The whole request -/

/-- The request for the rows. -/
def charListCall {D : Type} (odbc : OdbcDb D) (userNum : Int) : StateM D Bool := do
  odbc.clearParams
  odbc.appendIParamInteger "@UserNum" userNum
  odbc.appendIParamInteger "@ServerGroup" 1
  odbc.executeStoredProcedure "dbo.sp_ChaListAgent"

theorem processCharList_eq {D : Type} (odbc : OdbcDb D) (userNum : Int) (db : D) :
    processCharList odbc userNum db =
      if (charListCall odbc userNum db).1 = false then ((false, []), (charListCall odbc userNum db).2)
      else ((true, (charListRows odbc [] (charListCall odbc userNum db).2).1),
        (charListRows odbc [] (charListCall odbc userNum db).2).2) := by
  have call : processCharList odbc userNum db =
      (do
        if !(charListCall odbc userNum db).1 then return (false, [])
        let charNums ← charListRows odbc []
        return (true, charNums) : StateM D (Bool × List Int)) (charListCall odbc userNum db).2 := rfl
  rw [call]
  cases (charListCall odbc userNum db).1 with
  | false => rfl
  | true => rfl

theorem charListCall_executed (userNum : Int) :
    Triple (fun db : Object (Logged W) => db.log = [])
      (charListCall (Object.odbcDb driver.logged) userNum) Object.Executed := by
  have cleared : Leaves Object.log (Object.clearParams : Method (Logged W) Unit) :=
    leaves_modify fun _db => rfl
  unfold charListCall
  refine Triple.bind (cleared.triple []) ?_
  intro _cleared
  refine Triple.bind ((Object.leaves_shown_addParam _).triple []) ?_
  intro _userNum
  refine Triple.bind ((Object.leaves_shown_addParam _).triple []) ?_
  intro _serverGroup
  exact Object.executeStoredProcedure_executed _

/-- The loop from the first row, which the call has asked for. -/
theorem charListRows_positioned {db : Object (Logged W)} (positioned : Object.Positioned db) :
    (charListRows (Object.odbcDb driver.logged) [] db).2.log ≠ [] ∧
      Listed (charListRows (Object.odbcDb driver.logged) [] db).2.log
        (charListRows (Object.odbcDb driver.logged) [] db).1 := by
  obtain ⟨r, logged, ended, _distinct⟩ := positioned
  cases began : r.ok with
  | false =>
      rw [began] at ended
      have stops : charListRows (Object.odbcDb driver.logged) [] db = _ := charListRows_ended ended
      rw [stops, logged]
      exact ⟨List.cons_ne_nil _ _, Listed.ended began⟩
  | true =>
      rw [began] at ended
      obtain ⟨answers, found, ⟨log, numbers⟩, listed⟩ := @charListRows_listed W driver [] db ended
      rw [log, numbers, logged]
      exact ⟨List.cons_ne_nil _ _, listed r began⟩

/-- A failed call has asked for no row, and another one lists those that were fetched. -/
theorem charList_listed (userNum : Int) (db : Object (Logged W)) (empty : db.log = []) :
    let answered := processCharList (Object.odbcDb driver.logged) userNum db
    (answered.2.log = [] ∧ answered.1 = (false, [])) ∨
      ∃ found, answered.2.log ≠ [] ∧ answered.1 = (true, found) ∧ Listed answered.2.log found := by
  have executed := @charListCall_executed W driver userNum db empty
  simp only [processCharList_eq]
  generalize charListCall (Object.odbcDb driver.logged) userNum db = called at executed ⊢
  obtain ⟨done, db⟩ := called
  cases done with
  | false => exact Or.inl ⟨executed, rfl⟩
  | true =>
      obtain ⟨asked, listed⟩ := @charListRows_positioned W driver _ executed
      exact Or.inr ⟨_, asked, rfl, listed⟩

/-! ### The log of a request -/

theorem processCharList_logged (userNum : Int) :
    Mirrors Object.unlogged (processCharList (Object.odbcDb driver.logged) userNum)
      (processCharList (Object.odbcDb driver) userNum) :=
  mirrors_processCharList (Object.odbcDb_shows driver.logged_shows) userNum

/-- What the driver answers to SQLFetch and SQLGetData during the request. -/
def charListLog (driver : Driver W) (userNum : Int) (db : Object W) : List Answer :=
  (processCharList (Object.odbcDb driver.logged) userNum db.withLog).2.log

/-- A character list is complete or reported as failed, whatever the rows are, exactly when
the call fails before the first row, or SQL_NO_DATA ends the rows and each number before it
is delivered. -/
theorem processCharList_reported_iff (driver : Driver W) (userNum : Int) (db : Object W) :
    ListReported (charListLog driver userNum db)
        (processCharList (Object.odbcDb driver) userNum db).1 ↔
      charListLog driver userNum db = [] ∨ AllRead (charListLog driver userNum db) := by
  have same := (@processCharList_logged W driver userNum db.withLog).1
  have listed := @charList_listed W driver userNum db.withLog rfl
  simp only [same] at listed
  rcases listed with ⟨unasked, answered⟩ | ⟨found, asked, answered, listed⟩
  · have unread : charListLog driver userNum db = [] := unasked
    have failed : (processCharList (Object.odbcDb driver) userNum db).1 = (false, []) := answered
    rw [unread, failed]
    constructor
    · intro _reported
      exact Or.inl rfl
    · intro _unasked
      constructor
      · intro impossible
        cases impossible
      · intro impossible
        cases impossible
  · have complete : (processCharList (Object.odbcDb driver) userNum db).1 = (true, found) := answered
    rw [complete]
    constructor
    · intro reported
      exact Or.inr (listed.reported_iff.mp reported)
    · intro holds
      rcases holds with unread | read
      · exact absurd unread asked
      · exact listed.reported_iff.mpr read

def fetchFailed : Answer → Bool
  | .fetched .error => true
  | .fetched _ | .gotLong _ _ _ | .gotChar _ _ _ _ => false

theorem fetchFailed_eq {answer : Answer} (failed : fetchFailed answer = true) :
    answer = .fetched .error := by
  cases answer with
  | fetched r =>
      cases r with
      | success => cases failed
      | successWithInfo => cases failed
      | noData => cases failed
      | error => rfl
  | gotLong => cases failed
  | gotChar => cases failed

/-- Its only row has the number 5, and behind it SQLFetch fails. -/
def lostRowDriver : Driver Bool :=
  { oneRowDriver [] (Object.text "ChaNum") 0 fun _index => 0 with
    fetch := fun row => (if row then .success else .error, false)
    getDataLong := fun _col => pure (.success, some 5)
    fetch_rowsLeft := by
      intro row fetched
      cases row with
      | false => cases fetched
      | true => exact Nat.zero_lt_one }

/-- The list that it lost a row of is reported as complete. -/
theorem lostRow_reported :
    ¬ListReported (charListLog lostRowDriver 7 { Object.new true with conn := true })
      (processCharList (Object.odbcDb lostRowDriver) 7 { Object.new true with conn := true }).1 := by
  have complete : (processCharList (Object.odbcDb lostRowDriver) 7
      { Object.new true with conn := true }).1.1 = true := by
    rw [processCharList_eq, if_neg (by decide +kernel)]
  have logged : (charListLog lostRowDriver 7 { Object.new true with conn := true }).any
      fetchFailed = true := by
    rw [charListLog, processCharList_eq, if_neg (by decide +kernel),
      charListRows_more (by decide +kernel), charListRows_ended (by decide +kernel)]
    decide +kernel
  obtain ⟨answer, member, fails⟩ := List.any_eq_true.mp logged
  rw [fetchFailed_eq fails] at member
  intro reported
  rw [reported.failed member] at complete
  cases complete

end RanOnline.Servers
