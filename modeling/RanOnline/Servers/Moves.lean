/-
The sessions of the five servers over whole runs: their write sides and the table
that lists them.
-/
import RanOnline.Net.Moves
import RanOnline.Servers.GameServers

namespace RanOnline.Servers

open Memory Net Db StepRun Threads

/-- The five servers, each with the state it has before its first accept. -/
inductive Started (lzo : Lzo) : {α ω : Type} → NetServer α ω → α → Prop
  | auth {D : Type} (odbc : OdbcDb D) (beyond : Message → Bytes) (db : D) :
      Started lzo (authServer lzo odbc beyond) { db := db }
  | login : Started lzo (loginServer lzo) ()
  | session : Started lzo (sessionServer lzo) ()
  | field : Started lzo (fieldServer lzo) ()
  | agent {D : Type} (odbc : OdbcDb D) (db : D) (dbReady : Bool) :
      Started lzo (agentServer lzo odbc)
        { db := db
          dbReady := dbReady
          loginSessions := ∅ }

/-! ### Their sections -/

section Handlers

variable {D : Type} (lzo : Lzo) (odbc : OdbcDb D)

theorem moves_echo : (echoServer lzo).Moves lzo :=
  fun c msg => moves_sendTo lzo keepApp c (encodeMessage msg.type msg.payload)

theorem moves_authServer (beyond : Message → Bytes) : (authServer lzo odbc beyond).Moves lzo := by
  intro c msg
  have sends (framed : Bytes) :
      (sendTo lzo keepApp c framed : Thread (Shared (AuthApp D) Empty) Unit).Guarantees
        (Shared.Section lzo keepApp) := moves_sendTo lzo keepApp c framed
  change (authHandle lzo odbc beyond c msg).Guarantees _
  unfold authHandle
  split
  · simp only [handleCertification]
    split
    · exact Thread.guarantees_pure _ _
    · split
      · exact Thread.guarantees_pure _ _
      · cases CertRequest.parse (decryptAuthData (requestAuthData msg (beyond msg))) with
        | none => exact Thread.guarantees_pure _ _
        | some req =>
            apply Thread.Guarantees.bind
            · exact Thread.guarantees_atomically fun s => .told s.recv _ []
            · exact fun _res => sends _
  · exact sends _

theorem moves_rules (c : Nat) :
    HandlerRules lzo c (@Shared.Section (AgentApp D) AgentEvent lzo agentOnClose) where
  refl := .refl lzo agentOnClose
  logins := fun s _loginSessions event => .told s.recv _ [.app event]
  closes := moves_closeSession lzo agentOnClose c
  replies := fun _type _payload => moves_sendTo lzo agentOnClose c _

theorem moves_query {β : Type} (procedure : StateM D β) (event : β → AgentEvent)
    (s : AgentState D) : s.Section lzo agentOnClose (s.query procedure event).1 :=
  .told s.recv _ [.app _]

theorem moves_agentServer : (agentServer lzo odbc).Moves lzo := by
  intro c msg
  change (agentHandle lzo odbc c msg).Guarantees _
  unfold agentHandle
  split
  · exact (moves_rules lzo c).handleLogin (fun _ _ _ _ => moves_query lzo _ _) msg
  · split
    · exact (moves_rules lzo c).handleCharList (fun _ _ => moves_query lzo _ _) msg
    · split
      · exact (moves_rules lzo c).handleCharDetail (fun _ _ _ => moves_query lzo _ _) msg
      · split
        · exact (moves_rules lzo c).handlePassCheck (fun _ _ _ _ => moves_query lzo _ _) msg
        · exact (moves_rules lzo c).replies msg.type msg.payload

end Handlers

variable {lzo : Lzo} {α ω : Type} {server : NetServer α ω} {app : α}

theorem Started.moves (started : Started lzo server app) : server.Moves lzo := by
  cases started with
  | auth odbc beyond db => exact moves_authServer lzo odbc beyond
  | login => exact moves_echo lzo
  | session => exact moves_echo lzo
  | field => exact moves_echo lzo
  | agent odbc db dbReady => exact moves_agentServer lzo odbc

/-! ### Over every run -/

/-- In every run of a server the write side of each connection does what its queue does on its
own.  So one async_write at most is outstanding for a connection, its packets are handed over
in the order of their sends, and a queue that is not empty is served until the session closes. -/
theorem write_sides (started : Started lzo server app) (events : List Event) (c : Nat) :
    let w := ((run (System.step lzo server) (.start app) events).shared.conns c).writer
    (∃ steps, w = run Writer.step .new steps) ∧ w.picked.length + w.inFlight.length ≤ 1 ∧
      w.handed.Sublist w.enqueued ∧ (w.writeQueue = [] ∨ w.working = 1 ∨ w.Doomed) := by
  intro w
  obtain ⟨steps, ran⟩ := started.moves.queued app events c
  have served : Writer.Served
      ((run (System.step lzo server) (.start app) events).shared.conns c).writer := by
    rw [ran]
    exact run_invariant Writer.served_new (fun _w event served => Writer.served_step served event)
      steps
  refine ⟨⟨steps, ran⟩, ?_, served.inv.handed_sublist, ?_⟩
  · have single : w.starting + w.picked.length + w.inFlight.length ≤ 1 := served.inv.single_le
    omega
  · by_cases empty : w.writeQueue = []
    · exact Or.inl empty
    · exact Or.inr (served.busy (served.waits empty))

theorem write_sides_login :
    let w := ((run (System.step literalLzo (loginServer literalLzo)) (.start ())
      (oneClient [encodeMessage 101 [1, 2, 3]] 9)).shared.conns 0).writer
    (∃ steps, w = run Writer.step .new steps) ∧ w.picked.length + w.inFlight.length ≤ 1 ∧
      w.handed.Sublist w.enqueued ∧ (w.writeQueue = [] ∨ w.working = 1 ∨ w.Doomed) :=
  write_sides .login (oneClient [encodeMessage 101 [1, 2, 3]] 9) 0

/-- In every run of a server m_sessions lists an accepted connection that alone has its client id
as long as m_closed is not set, and not any more once the callbacks of its Close have run; and
whatever it lists is an accepted connection under its own id. -/
theorem session_table (started : Started lzo server app) (events : List Event) :
    let s := (run (System.step lzo server) (.start app) events).shared
    (∀ clientId c, s.sessions.lookup clientId = some c →
      c < s.accepted ∧ clientId = clientIdOf c) ∧
    ∀ c, c < s.accepted → OwnId s c → (s.conns c).writer.clearing = 0 →
      (s.conns c).writer.notifying = 0 →
        (s.sessions.lookup (clientIdOf c) = some c ↔ (s.conns c).writer.closed = false) := by
  intro s
  have tabled : s.Tabled := started.moves.tabled app events
  exact ⟨tabled.listed, fun _c present own => tabled.listed_iff present own⟩

/-- A client of the LoginServer that has gone, in the middle of its Close and after it. -/
def leaves : List Event :=
  [.io (.accept none), .io (.readError 0), .io (.write 0 .closeMark), .io (.write 0 .closeClear),
    .io (.notify 0)]

theorem session_table_login :
    let s := (run (System.step literalLzo (loginServer literalLzo)) (.start ()) leaves).shared
    s.sessions.lookup (clientIdOf 0) = some 0 ↔ (s.conns 0).writer.closed = false := by
  have own : OwnId (run (System.step literalLzo (loginServer literalLzo)) (.start ()) leaves).shared
      0 := by
    intro other present _same
    exact Nat.lt_one_iff.mp present
  exact (session_table .login leaves).2 0 (by decide) own rfl rfl

end RanOnline.Servers
