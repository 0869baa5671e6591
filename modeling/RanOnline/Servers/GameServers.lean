/-
The five servers of the port as instances of the server frame: none of their
handlers touches the receive queue, the accepts or the reading side of a session.
-/
import RanOnline.Net.Pipeline
import RanOnline.Servers.AgentServer
import RanOnline.Servers.AuthServer
import RanOnline.Servers.EchoServers

namespace RanOnline.Servers

open Memory Net Db StepRun Threads

/-! ### The servers that only echo -/

theorem outward_echo {α ω : Type} (lzo : Lzo) (c : Nat) (msg : Message) :
    (echo lzo c msg : Thread (Shared α ω) Unit).Guarantees Shared.Outward :=
  outward_sendTo lzo keepApp c _

def loginGame (lzo : Lzo) : GameServer Unit Empty :=
  { loginServer lzo with outward := outward_echo lzo }

def sessionGame (lzo : Lzo) : GameServer Unit Empty :=
  { sessionServer lzo with outward := outward_echo lzo }

def fieldGame (lzo : Lzo) : GameServer Unit Empty :=
  { fieldServer lzo with outward := outward_echo lzo }

/-- Two clients connect and send a message each, the second one first. -/
def twoClients : List Event :=
  [.io (.accept none), .io (.accept none), .io (.read 1 (encodeMessage 7 [])),
    .io (.read 0 (encodeMessage 8 [])), .io (.deliver 1), .io (.deliver 0)]

/-- The sections of a tick that echoes both, with another message on its way. -/
def echoBoth : List Event :=
  [.next, .next, .next, .io (.read 0 (encodeMessage 9 [])), .next, .io (.deliver 0), .next, .next,
    .next, .next, .next]

theorem oneUpdate_echoBoth : OneUpdate literalLzo (loginServer literalLzo)
    (reached literalLzo (loginGame literalLzo) () twoClients) echoBoth := by
  have busy : ∀ count < echoBoth.length, (run (System.step literalLzo (loginServer literalLzo))
      (reached literalLzo (loginGame literalLzo) () twoClients)
      (.update :: echoBoth.take count)).tick.isIdle = false := by decide +kernel
  constructor
  · decide +kernel
  · intro first rest split nonempty
    have shorter := congrArg List.length split
    rw [List.length_append] at shorter
    have positive := List.length_pos_iff.mpr nonempty
    have cut := busy first.length (by omega)
    rw [split, List.take_left] at cut
    exact cut
  · decide +kernel

theorem inbound_pipeline_twoClients :
    ((insertedBy literalLzo (loginGame literalLzo) () twoClients).map fun entry =>
        (entry.1, entry.2.type)) = [(1, 7), (0, 8)] ∧
      dispatched literalLzo (loginGame literalLzo) () (twoClients ++ .update :: echoBoth) =
        (insertedBy literalLzo (loginGame literalLzo) () twoClients).map Prod.snd :=
  ⟨by decide +kernel,
    (inbound_pipeline literalLzo (loginGame literalLzo) ()).updates _ _ oneUpdate_echoBoth⟩

/-! ### The AuthServer -/

section Auth

variable {D : Type}

theorem outward_authHandle (lzo : Lzo) (odbc : OdbcDb D) (beyond : Message → Bytes) (c : Nat)
    (msg : Message) : (authHandle lzo odbc beyond c msg).Guarantees Shared.Outward := by
  unfold authHandle
  split
  · simp only [handleCertification]
    split
    · exact Thread.guarantees_pure _ _
    · split
      · exact Thread.guarantees_pure _ _
      · cases CertRequest.parse (decryptAuthData (requestAuthData msg (beyond msg))) with
        | none => exact Thread.guarantees_pure _ _
        | some req =>
            apply Thread.Guarantees.bind
            · apply Thread.guarantees_atomically
              intro s
              exact { Shared.Outward.refl s with }
            · intro res
              exact outward_sendTo lzo keepApp c _
  · exact outward_echo lzo c msg

def authGame (lzo : Lzo) (odbc : OdbcDb D) (beyond : Message → Bytes) :
    GameServer (AuthApp D) Empty :=
  { authServer lzo odbc beyond with outward := outward_authHandle lzo odbc beyond }

end Auth

/-! ### The AgentServer -/

section Agent

variable {D : Type}

theorem outward_agentReply (lzo : Lzo) (c : Nat) (type : UInt32) (payload : Bytes) :
    (agentReply lzo c type payload : AgentThread D Unit).Guarantees Shared.Outward :=
  outward_sendTo lzo agentOnClose c _

theorem outward_query {β : Type} (procedure : StateM D β) (event : β → AgentEvent)
    (s : AgentState D) : s.Outward (s.query procedure event).1 :=
  .app s _ _

theorem outward_rules (lzo : Lzo) (c : Nat) :
    HandlerRules lzo c (@Shared.Outward (AgentApp D) AgentEvent) where
  refl := .refl
  logins := fun s _loginSessions event => .app s _ event
  closes := outward_closeSession agentOnClose c
  replies := outward_agentReply lzo c

theorem outward_agentHandle (lzo : Lzo) (odbc : OdbcDb D) (c : Nat) (msg : Message) :
    (agentHandle lzo odbc c msg).Guarantees Shared.Outward := by
  unfold agentHandle
  split
  · exact (outward_rules lzo c).handleLogin (fun _ _ _ _ => outward_query _ _) msg
  · split
    · exact (outward_rules lzo c).handleCharList (fun _ _ => outward_query _ _) msg
    · split
      · exact (outward_rules lzo c).handleCharDetail (fun _ _ _ => outward_query _ _) msg
      · split
        · exact (outward_rules lzo c).handlePassCheck (fun _ _ _ _ => outward_query _ _) msg
        · exact outward_agentReply lzo c msg.type msg.payload

def agentGame (lzo : Lzo) (odbc : OdbcDb D) : GameServer (AgentApp D) AgentEvent :=
  { agentServer lzo odbc with outward := outward_agentHandle lzo odbc }

end Agent

end RanOnline.Servers
