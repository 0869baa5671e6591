/-
The handles of m_db over Start and Stop (net/net_server.cpp with OnStart and OnStop of the
five servers).

A Start, a Stop and the work of a tick are calls on one OdbcDb, one after another.  What
the ledger says of the handles is then what it says of these calls.
-/
import RanOnline.Db.HandleLedger
import RanOnline.Servers.Startup

namespace RanOnline.Servers.DbServer

open Memory Db StepRun Object

variable {W : Type} (driver : Driver W)

/-! ### The calls of a step -/

def onStartCalls (s : DbServer W) : List HandleCall :=
  if s.dbConn.isEmpty then []
  else
    let opened := Object.connect driver s.dbConn s.db
    .connect s.dbConn ::
      if opened.1 then
        let probed := Object.execute driver probeQuery opened.2
        .execute probeQuery ::
          if probed.1 then if probed.2.eof then [] else [.getCollectString "name"] else []
      else []

def onStopCalls (s : DbServer W) : List HandleCall := if s.db.isOpened then [.close] else []

def startCalls (s : DbServer W) (listen : Bool) : List HandleCall :=
  if s.running then []
  else
    onStartCalls driver s ++
      let started := s.onStart driver
      if started.1 ≠ 0 then [] else if listen then [] else onStopCalls started.2

def stopCalls (s : DbServer W) : List HandleCall := if s.running then onStopCalls s else []

def Work.call : Work → HandleCall
  | .clearParams => .clearParams
  | .appendParam param => .addParam param
  | .execute sql => .execute sql
  | .executeStoredProcedure sp => .executeStoredProcedure sp
  | .next => .next
  | .getCollect column => .getCollect column
  | .getCollectString column => .getCollectString column
  | .getParam name => .getParam name

def calls (s : DbServer W) : Event → List HandleCall
  | .start listen => startCalls driver s listen
  | .stop => stopCalls s
  | .work work => if s.running then [work.call] else []

def history (s : DbServer W) : List Event → List HandleCall
  | [] => []
  | event :: events => calls driver s event ++ history (s.step driver event) events

/-- A Start that opens its database finds no environment there. -/
def OpensFresh (s : DbServer W) : Event → Prop
  | .start _listen => s.running = false → s.dbConn ≠ [] → s.db.env = false
  | _ => True

variable {driver}

/-! ### They are what the step does -/

theorem onStart_db (s : DbServer W) :
    (s.onStart driver).2.db = run (apply driver) s.db (onStartCalls driver s) := by
  unfold onStart onStartCalls
  split
  · rfl
  · dsimp only
    split
    · split
      · unfold readFirstTable
        split
        · rfl
        · rfl
      · rfl
    · rfl

theorem onStop_db (s : DbServer W) :
    (s.onStop driver).db = run (apply driver) s.db (onStopCalls s) := by
  unfold onStop onStopCalls
  split
  · rfl
  · rfl

theorem start_db (s : DbServer W) (listen : Bool) :
    (s.start driver listen).2.db = run (apply driver) s.db (startCalls driver s listen) := by
  unfold start startCalls
  split
  · rfl
  · dsimp only
    rw [run_append, ← onStart_db]
    split
    · rfl
    · split
      · rfl
      · exact onStop_db _

theorem stop_db (s : DbServer W) :
    (s.stop driver).db = run (apply driver) s.db (stopCalls s) := by
  unfold stop stopCalls
  split
  · exact onStop_db s
  · rfl

theorem perform_call (db : Object W) (work : Work) :
    perform driver db work = apply driver db work.call := by
  cases work <;> rfl

theorem step_db (s : DbServer W) (event : Event) :
    (s.step driver event).db = run (apply driver) s.db (calls driver s event) := by
  cases event with
  | start listen => exact start_db s listen
  | stop => exact stop_db s
  | work work =>
      change (if s.running then { s with db := perform driver s.db work } else s).db =
        run (apply driver) s.db (if s.running then [work.call] else [])
      split
      · exact perform_call s.db work
      · rfl

theorem history_db (s : DbServer W) (events : List Event) :
    (run (step driver) s events).db = run (apply driver) s.db (history driver s events) := by
  induction events generalizing s with
  | nil => rfl
  | cons event events ih =>
      rw [history, run_append, ← step_db]
      exact ih (s.step driver event)

/-! ### Where handles are lost -/

theorem along_fresh (db : Object W) {calls : List HandleCall}
    (each : ∀ call, call ∈ calls → ∀ db : Object W, Unheld db call) :
    Along (apply driver) db calls Unheld := by
  intro before call after split
  apply each
  rw [split]
  exact List.mem_append_right _ List.mem_cons_self

theorem onStopCalls_fresh (s : DbServer W) (db : Object W) :
    Along (apply driver) db (onStopCalls s) Unheld := by
  apply along_fresh
  intro call member db
  unfold onStopCalls at member
  split at member
  · rw [List.mem_singleton.mp member]
    trivial
  · cases member

theorem onStartCalls_fresh (s : DbServer W) :
    Along (apply driver) s.db (onStartCalls driver s) Unheld ↔ (s.dbConn ≠ [] → s.db.env = false) := by
  unfold onStartCalls
  split
  · next empty =>
      apply iff_of_true (along_nil _ _)
      exact fun named => absurd (List.isEmpty_iff.mp empty) named
  · next named =>
      dsimp only
      rw [along_cons]
      have rest : ∀ call, call ∈ (if (Object.connect driver s.dbConn s.db).1 then
          .execute probeQuery ::
            if (Object.execute driver probeQuery (Object.connect driver s.dbConn s.db).2).1 then
              if (Object.execute driver probeQuery
                  (Object.connect driver s.dbConn s.db).2).2.eof then []
              else [.getCollectString "name"]
            else []
          else []) → ∀ db : Object W, Unheld db call := by
        intro call member db
        cases call with
        | connect connStr => split_ifs at member <;> simp at member
        | _ => trivial
      constructor
      · exact fun both _named => both.1
      · intro fresh
        refine ⟨fresh ?_, along_fresh _ rest⟩
        exact fun empty => named (List.isEmpty_iff.mpr empty)

theorem calls_fresh (s : DbServer W) (event : Event) :
    Along (apply driver) s.db (calls driver s event) Unheld ↔ OpensFresh s event := by
  cases event with
  | start listen =>
      change Along (apply driver) s.db (startCalls driver s listen) Unheld ↔
        (s.running = false → s.dbConn ≠ [] → s.db.env = false)
      unfold startCalls
      split
      · next running =>
          apply iff_of_true (along_nil _ _)
          intro down
          rw [running] at down
          cases down
      · next down =>
          rw [along_append, onStartCalls_fresh]
          constructor
          · exact fun both _down => both.1
          · intro fresh
            refine ⟨fresh (Bool.not_eq_true _ ▸ down), ?_⟩
            dsimp only
            split
            · exact along_nil _ _
            · split
              · exact along_nil _ _
              · exact onStopCalls_fresh _ _
  | stop =>
      apply iff_of_true _ trivial
      change Along (apply driver) s.db (stopCalls s) Unheld
      unfold stopCalls
      split
      · exact onStopCalls_fresh s s.db
      · exact along_nil _ _
  | work work =>
      apply iff_of_true _ trivial
      apply along_fresh
      intro call member db
      rw [calls] at member
      split at member
      · rw [List.mem_singleton.mp member]
        cases work <;> trivial
      · cases member

theorem history_fresh (s : DbServer W) (events : List Event) :
    Along (apply driver) s.db (history driver s events) Unheld ↔
      Along (step driver) s events OpensFresh := by
  induction events generalizing s with
  | nil => exact iff_of_true (along_nil _ _) (along_nil _ _)
  | cons event events ih =>
      rw [history, along_append, along_cons, calls_fresh, ← step_db, ih]

/-- Over every run of Start, Stop and work, with every outcome of the driver's calls and of the
listen setup: the database handles are used and freed only while they are there, and some are
lost exactly where a Start opened a database whose environment an earlier Start had left. -/
theorem handles_lost_iff (driver : Driver W) (dbConn : Bytes) (w : W) (events : List Event) :
    (ledgerAfter driver w (history driver (.new dbConn w) events)).misused = false ∧
      ((ledgerAfter driver w (history driver (.new dbConn w) events)).leaked = 0 ↔
        Along (step driver) (.new dbConn w) events OpensFresh) := by
  obtain ⟨unspoilt, _env, _dbc, _stmt, fresh⟩ :=
    handles_accounted driver w (history driver (.new dbConn w) events)
  exact ⟨unspoilt, fresh.trans (history_fresh (.new dbConn w) events)⟩

end RanOnline.Servers.DbServer
