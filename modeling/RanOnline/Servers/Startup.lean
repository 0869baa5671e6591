/-
Start and Stop of a server with a database: NetServer::Start and Stop
(net/net_server.cpp) with the OnStart and OnStop that AuthServer, LoginServer,
AgentServer, SessionServer and FieldServer have in common but for the log texts.

Here a whole Start or Stop is one step, since no handler of the pool touches the
connection itself.  The outcomes of Open and of the probe are the driver's, that of
the listen setup comes with the call.
-/
import RanOnline.Db.OdbcFrames
import RanOnline.Lib.StepRun

namespace RanOnline.Servers

open Memory Db StepRun Methods

structure DbServer (W : Type) where
  running : Bool
  dbConn : Bytes
  db : Object W
  dbReady : Bool

namespace DbServer

variable {W : Type} (driver : Driver W)

def new (dbConn : Bytes) (db : W) : DbServer W :=
  { running := false
    dbConn := dbConn
    db := .new db
    dbReady := false }

def probeQuery : Bytes := Object.text "SELECT TOP 1 name FROM sys.tables ORDER BY name"

/-- The name is only logged. -/
def readFirstTable (db : Object W) : Object W :=
  if db.eof then db else (Object.getCollectString driver "name" db).2

/-- The result is the return code; an empty connection string skips the database. -/
def onStart (s : DbServer W) : Int × DbServer W :=
  if s.dbConn.isEmpty then (0, s)
  else
    let opened := Object.connect driver s.dbConn s.db
    if opened.1 then
      let probed := Object.execute driver probeQuery opened.2
      if probed.1 then (0, { s with db := readFirstTable driver probed.2, dbReady := true })
      else (-1, { s with db := probed.2 })
    else (-1, { s with db := opened.2 })

def onStop (s : DbServer W) : DbServer W :=
  if s.db.isOpened then { s with db := (Object.close driver s.db).2 } else s

/-- NetServer::Start; m_running goes back to false where it fails. -/
def start (s : DbServer W) (listen : Bool) : Int × DbServer W :=
  if s.running then (0, s)
  else
    let started := s.onStart driver
    if started.1 ≠ 0 then started
    else if listen then (0, { started.2 with running := true })
    else (-1, started.2.onStop driver)

def stop (s : DbServer W) : DbServer W :=
  if s.running then { s.onStop driver with running := false } else s

/-- What the tick of a running server calls on m_db. -/
inductive Work
  | clearParams
  | appendParam (param : Param)
  | execute (sql : Bytes)
  | executeStoredProcedure (sp : String)
  | next
  | getCollect (column : String)
  | getCollectString (column : String)
  | getParam (name : String)

def perform (db : Object W) : Work → Object W
  | .clearParams => (Object.clearParams db).2
  | .appendParam param => (Object.addParam param db).2
  | .execute sql => (Object.execute driver sql db).2
  | .executeStoredProcedure sp => (Object.executeStoredProcedure driver sp db).2
  | .next => (Object.next driver db).2
  | .getCollect column => (Object.getCollect driver column db).2
  | .getCollectString column => (Object.getCollectString driver column db).2
  | .getParam name => (Object.getParam driver name db).2

inductive Event
  | start (listen : Bool)
  | stop
  | work (work : Work)

def step (s : DbServer W) : Event → DbServer W
  | .start listen => (s.start driver listen).2
  | .stop => s.stop driver
  | .work work => if s.running then { s with db := perform driver s.db work } else s

/-- DbReady() only with an open m_db, and m_db closed while the server is down. -/
def Consistent (s : DbServer W) : Prop :=
  (s.dbReady = true → s.db.isOpened = true) ∧ (s.running = false → s.db.isOpened = false)

/-- A Start whose Open succeeds gets past the probe and the listen setup, and a Stop
ends a run without a database. -/
def CleanCall (s : DbServer W) : Event → Prop
  | .start listen =>
      s.running = false → s.dbConn ≠ [] → (Object.connect driver s.dbConn s.db).1 = true →
        (Object.execute driver probeQuery (Object.connect driver s.dbConn s.db).2).1 = true ∧
          listen = true
  | .stop => s.running = true → s.dbReady = false
  | .work _ => True

variable {driver}

theorem perform_conn (db : Object W) (work : Work) : (perform driver db work).conn = db.conn := by
  cases work with
  | clearParams => rfl
  | appendParam param => exact Object.addParam_conn param db
  | execute sql => exact Object.leaves_execute Object.outside_conn sql db
  | executeStoredProcedure sp => exact Object.executeStoredProcedure_conn sp db
  | next => exact Object.leaves_next Object.outside_conn.beyond db
  | getCollect column => exact Object.leaves_getCollect Object.outside_conn.beyond column db
  | getCollectString column => exact Object.leaves_getCollectString Object.outside_conn.beyond column db
  | getParam name => exact Object.getParam_conn name db

theorem onStop_conn (s : DbServer W) : (s.onStop driver).db.conn = false := by
  unfold onStop
  split
  · exact Object.close_conn s.db
  · rename_i closed
    rwa [Object.isOpened, Bool.not_eq_true] at closed

theorem onStop_dbReady (s : DbServer W) : (s.onStop driver).dbReady = s.dbReady := by
  unfold onStop
  split
  · rfl
  · rfl

theorem readFirstTable_conn (db : Object W) : (readFirstTable driver db).conn = db.conn := by
  unfold readFirstTable
  split
  · rfl
  · exact Object.leaves_getCollectString Object.outside_conn.beyond "name" db

variable (driver) in
/-- What OnStart does to a server that is down, with m_db closed. -/
theorem onStart_cases (s : DbServer W) (closed : s.db.conn = false) :
    (s.dbConn = [] ∧ s.onStart driver = (0, s)) ∨
      (s.dbConn ≠ [] ∧ (Object.connect driver s.dbConn s.db).1 = false ∧
        ∃ db, db.conn = false ∧ s.onStart driver = (-1, { s with db := db })) ∨
      (s.dbConn ≠ [] ∧ (Object.connect driver s.dbConn s.db).1 = true ∧
        (Object.execute driver probeQuery (Object.connect driver s.dbConn s.db).2).1 = false ∧
        ∃ db, db.conn = true ∧ s.onStart driver = (-1, { s with db := db })) ∨
      (s.dbConn ≠ [] ∧ (Object.connect driver s.dbConn s.db).1 = true ∧
        (Object.execute driver probeQuery (Object.connect driver s.dbConn s.db).2).1 = true ∧
        ∃ db, db.conn = true ∧ s.onStart driver = (0, { s with db := db, dbReady := true })) := by
  have opened : (Object.connect driver s.dbConn s.db).2.conn =
      (Object.connect driver s.dbConn s.db).1 := Object.connect_conn s.dbConn s.db closed
  have probed : (Object.execute driver probeQuery (Object.connect driver s.dbConn s.db).2).2.conn =
      (Object.connect driver s.dbConn s.db).2.conn := Object.leaves_execute Object.outside_conn probeQuery _
  unfold onStart
  cases conn : s.dbConn with
  | nil => exact Or.inl ⟨rfl, rfl⟩
  | cons first rest =>
      rw [conn] at opened probed
      right
      have named : first :: rest ≠ [] := List.cons_ne_nil first rest
      cases connected : (Object.connect driver (first :: rest) s.db).1 with
      | false =>
          rw [connected] at opened
          left
          refine ⟨named, rfl, (Object.connect driver (first :: rest) s.db).2, opened, ?_⟩
          simp only [List.isEmpty_cons, Bool.false_eq_true, if_false, connected]
      | true =>
          rw [connected] at opened
          right
          cases answered : (Object.execute driver probeQuery
              (Object.connect driver (first :: rest) s.db).2).1 with
          | false =>
              left
              refine ⟨named, rfl, rfl, _, probed.trans opened, ?_⟩
              simp only [List.isEmpty_cons, Bool.false_eq_true, if_false, connected, if_true,
                answered]
          | true =>
              right
              have stillOpen := (@readFirstTable_conn W driver _).trans (probed.trans opened)
              refine ⟨named, rfl, rfl, _, stillOpen, ?_⟩
              simp only [List.isEmpty_cons, Bool.false_eq_true, if_false, connected, if_true,
                answered]

theorem consistent_start {s : DbServer W} (consistent : s.Consistent) (listen : Bool) :
    (s.start driver listen).2.Consistent ↔ s.CleanCall driver (.start listen) := by
  unfold start
  by_cases running : s.running = true
  · rw [if_pos running]
    constructor
    · intro _kept down
      rw [running] at down
      cases down
    · exact fun _clean => consistent
  · rw [if_neg running]
    rw [Bool.not_eq_true] at running
    have closed : s.db.conn = false := consistent.2 running
    have unready : s.dbReady ≠ true := by
      intro ready
      have opened : s.db.conn = true := consistent.1 ready
      rw [closed] at opened
      cases opened
    rcases onStart_cases driver s closed with
      ⟨unnamed, started⟩ | ⟨named, failed, db, dbClosed, started⟩ |
      ⟨named, connected, failed, db, dbOpen, started⟩ | ⟨named, connected, answered, db, dbOpen, started⟩
    · have clean : s.CleanCall driver (.start listen) := fun _down named => absurd unnamed named
      apply iff_of_true _ clean
      rw [started]
      cases listen with
      | false =>
          constructor
          · exact fun ready => absurd ((onStop_dbReady s).symm.trans ready) unready
          · exact fun _down => onStop_conn s
      | true =>
          constructor
          · exact fun ready => absurd ready unready
          · exact fun down => Bool.noConfusion down
    · have clean : s.CleanCall driver (.start listen) := by
        intro _down _named connected
        rw [failed] at connected
        cases connected
      apply iff_of_true _ clean
      rw [started]
      constructor
      · exact fun ready => absurd ready unready
      · exact fun _down => dbClosed
    · have unclean : ¬s.CleanCall driver (.start listen) := by
        intro clean
        have answered := (clean running named connected).1
        rw [failed] at answered
        cases answered
      apply iff_of_false _ unclean
      rw [started]
      intro kept
      have stillClosed : db.conn = false := kept.2 running
      rw [dbOpen] at stillClosed
      cases stillClosed
    · rw [started]
      cases listen with
      | false =>
          have unclean : ¬s.CleanCall driver (.start false) := by
            intro clean
            exact Bool.false_ne_true (clean running named connected).2
          apply iff_of_false _ unclean
          intro kept
          have opened : (onStop driver { s with db := db, dbReady := true }).db.conn = true :=
            kept.1 (onStop_dbReady _)
          rw [onStop_conn] at opened
          cases opened
      | true =>
          have clean : s.CleanCall driver (.start true) := fun _down _named _connected =>
            ⟨answered, rfl⟩
          apply iff_of_true _ clean
          exact ⟨fun _ready => dbOpen, fun down => Bool.noConfusion down⟩

/-- One Start or Stop of a consistent server. -/
theorem consistent_step {s : DbServer W} (consistent : s.Consistent) (event : Event) :
    (s.step driver event).Consistent ↔ s.CleanCall driver event := by
  cases event with
  | start listen => exact consistent_start consistent listen
  | stop =>
      change (s.stop driver).Consistent ↔ _
      unfold stop
      by_cases running : s.running = true
      · rw [if_pos running]
        constructor
        · intro kept _running
          by_contra ready
          rw [Bool.not_eq_false] at ready
          have opened := kept.1 ((onStop_dbReady s).trans ready)
          rw [Object.isOpened, onStop_conn] at opened
          cases opened
        · intro clean
          have unready : s.dbReady ≠ true := by
            rw [clean running]
            exact Bool.false_ne_true
          constructor
          · exact fun ready => absurd ((onStop_dbReady s).symm.trans ready) unready
          · exact fun _down => onStop_conn s
      · rw [if_neg running]
        exact ⟨fun _kept up => absurd up running, fun _clean => consistent⟩
  | work work =>
      apply iff_of_true _ trivial
      change Consistent (if s.running then { s with db := perform driver s.db work } else s)
      split
      · rw [Consistent, Object.isOpened, perform_conn]
        exact consistent
      · exact consistent

/-- The state of the database stays consistent over a run of Start and Stop calls
exactly when every one of them is clean. -/
theorem database_consistent_iff (driver : Driver W) (dbConn : Bytes) (db : W)
    (events : List Event) :
    Always (step driver) (.new dbConn db) events Consistent ↔
      Along (step driver) (.new dbConn db) events (CleanCall driver) := by
  refine @always_iff_along _ _ (step driver) (.new dbConn db) (fun _s => True) Consistent
    (CleanCall driver) trivial ?_ ?_ ?_ events
  · exact ⟨fun ready => Bool.noConfusion ready, fun _down => rfl⟩
  · exact fun _s _event _holds => trivial
  · exact fun _s event _holds consistent => consistent_step consistent event

end DbServer

/-- DbReady() after a Stop, and an open connection after a Start that returned -1. -/
theorem database_inconsistent :
    ¬DbServer.Consistent (run (DbServer.step (emptyDriver true)) (.new [68] ())
        [.start true, .stop]) ∧
      ¬DbServer.Consistent (run (DbServer.step (emptyDriver false)) (.new [68] ())
        [.start true]) := by
  constructor
  · intro consistent
    have opened := consistent.1 (by decide +kernel)
    revert opened
    decide +kernel
  · intro consistent
    have closed := consistent.2 (by decide +kernel)
    revert closed
    decide +kernel

end RanOnline.Servers
