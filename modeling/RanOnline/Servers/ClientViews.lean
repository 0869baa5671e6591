/-
What the clients of the five servers read at any moment of a run, and in the end.
-/
import RanOnline.Net.WireLive
import RanOnline.Servers.Conversations
import RanOnline.Servers.Moves

namespace RanOnline.Servers

open Memory Net Db StepRun Threads

/-- The five servers with what they answer, and the state before the first accept. -/
inductive Talking (lzo : Lzo) : {α ω : Type} → Talker lzo α ω → α → Prop
  | auth {D : Type} (odbc : OdbcDb D) (beyond : Message → Bytes) (db : D) :
      Talking lzo (authTalker lzo odbc beyond) { db := db }
  | login : Talking lzo (loginTalker lzo) ()
  | session : Talking lzo (sessionTalker lzo) ()
  | field : Talking lzo (fieldTalker lzo) ()
  | agent {D : Type} (odbc : OdbcDb D) (db : D) (dbReady : Bool) :
      Talking lzo (agentTalker lzo odbc)
        { db := db
          dbReady := dbReady
          loginSessions := ∅ }

namespace Talking

variable {lzo : Lzo} {α ω : Type} {server : Talker lzo α ω} {app : α}

theorem started (talking : Talking lzo server app) : Started lzo server.toNetServer app := by
  cases talking with
  | auth odbc beyond db => exact .auth odbc beyond db
  | login => exact .login
  | session => exact .session
  | field => exact .field
  | agent odbc db dbReady => exact .agent odbc db dbReady

theorem encodes (talking : Talking lzo server app) (c : Nat) (msg : Message) (events : List ω)
    (frames : List Bytes) (answers : server.answers c msg events frames) :
    ∀ frame ∈ frames, ∃ type payload, frame = encodeMessage type payload := by
  have echoed (answers : EchoAnswers c msg events frames) :
      ∀ frame ∈ frames, ∃ type payload, frame = encodeMessage type payload := by
    rw [answers.2]
    exact encodes_one _ _
  cases talking with
  | auth odbc beyond db => exact AuthAnswers.encodes answers
  | login => exact echoed answers
  | session => exact echoed answers
  | field => exact echoed answers
  | agent odbc db dbReady => exact AgentAnswers.encodes answers

end Talking

/-- Under a fair schedule some OnUpdate of the AuthServer or the AgentServer returns with answers
to all that a client had sent by a given time.  Some time after it the client reads them in order
from what the socket has taken, unless its session has been closed by then. -/
theorem clients_answered (lzo : Lzo) (roundTrip : lzo.RoundTrip) {α ω : Type}
    {server : Talker lzo α ω} {app : α} (talking : Talking lzo server app)
    (flushes : server.flushes = true) {schedule : Nat → Event} {c : Nat} (fair : Fair c schedule)
    (time : Nat)
    (present : c < (reached lzo server.toGameServer app
      (eventsBefore schedule time)).shared.accepted)
    (accepted : (framerFeed lzo [] ((reached lzo server.toGameServer app
      (eventsBefore schedule time)).shared.conns c).received).ok = true) :
    ∃ returned later, time ≤ returned ∧ returned ≤ later ∧
      let update := reached lzo server.toGameServer app (eventsBefore schedule returned)
      let sys := reached lzo server.toGameServer app (eventsBefore schedule later)
      update.tick.isIdle = true ∧
        (OwnId sys.shared c → (sys.shared.conns c).writer.closed = false →
          (∀ frame ∈ (sys.shared.conns c).sent, frame.length ≤ netDataBufsize) →
          ∃ replies, Arrived server c
            ((framerFeed lzo [] ((reached lzo server.toGameServer app
              (eventsBefore schedule time)).shared.conns c).received).out.map
                (stamp (clientIdOf c))) update sys replies) := by
  obtain ⟨returned, later, since, after, idle, reads⟩ := eventually_read talking.started.moves app
    roundTrip flushes fair time present accepted
  refine ⟨returned, later, since, after, idle, ?_⟩
  intro own opened small
  have spoken := reached_spoken server app (eventsBefore schedule later)
  exact reads own opened (readable_of_answers spoken talking.encodes small)

/-- A client sends one message; then its session, the timer, the tick and the socket take
turns. -/
def oneAnswer : Nat → Event :=
  roundRobin [.io (.accept none), .io (.read 0 (encodeMessage 101 [1, 2, 3]))] 6 fun turn =>
    if turn = 0 then .io (.deliver 0) else if turn = 1 then .update else if turn = 2 then .next
    else if turn = 3 then .io (.write 0 .pick) else if turn = 4 then .io (.write 0 (.launch 0))
    else .io (.write 0 (.succeed 0))

theorem fair_oneAnswer : Fair 0 oneAnswer where
  delivers := often_roundRobin _ _ (show 0 < 6 by decide)
  ticks := often_roundRobin _ _ (show 1 < 6 by decide)
  runs := often_roundRobin _ _ (show 2 < 6 by decide)
  picks := often_roundRobin _ _ (show 3 < 6 by decide)
  launches := often_roundRobin _ _ (show 4 < 6 by decide)
  succeeds := often_roundRobin _ _ (show 5 < 6 by decide)
  up := by
    intro time index
    unfold oneAnswer roundRobin
    rcases time with _ | _ | time
    · nofun
    · nofun
    · have turn : (time + 2) % 6 < 6 := Nat.mod_lt _ (by decide)
      generalize (time + 2) % 6 = now at turn ⊢
      obtain rfl | rfl | rfl | rfl | rfl | rfl :
          now = 0 ∨ now = 1 ∨ now = 2 ∨ now = 3 ∨ now = 4 ∨ now = 5 := by omega
      all_goals nofun

theorem clients_answered_auth :
    let server := authTalker literalLzo (scriptedDb 7) fun _msg => []
    ∃ returned later, 2 ≤ returned ∧ returned ≤ later ∧
      let update := reached literalLzo server.toGameServer { db := .start [] }
        (eventsBefore oneAnswer returned)
      let sys := reached literalLzo server.toGameServer { db := .start [] }
        (eventsBefore oneAnswer later)
      update.tick.isIdle = true ∧
        (OwnId sys.shared 0 → (sys.shared.conns 0).writer.closed = false →
          (∀ frame ∈ (sys.shared.conns 0).sent, frame.length ≤ netDataBufsize) →
          ∃ replies, Arrived server 0
            ((framerFeed literalLzo [] ((reached literalLzo server.toGameServer
              { db := .start [] } (eventsBefore oneAnswer 2)).shared.conns 0).received).out.map
                (stamp (clientIdOf 0))) update sys replies) :=
  clients_answered literalLzo literalLzo_roundTrip
    (.auth (scriptedDb 7) (fun _msg => []) (.start [])) rfl fair_oneAnswer 2
    (by decide +kernel) (by decide +kernel)

end RanOnline.Servers
