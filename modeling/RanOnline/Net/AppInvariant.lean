/-
What a server keeps of its own state over whole runs.

The pool reaches that state through the m_onClose callback only, and the tick through the
sections of its handlers.
-/
import RanOnline.Net.NetServer

namespace RanOnline.Net

open Memory StepRun Threads

variable {α ω : Type}

/-- A section that keeps a property of the server's own state. -/
def KeepsApp (good : α → Prop) (s later : Shared α ω) : Prop := good s.app → good later.app

/-- The tick is a thread whose sections keep the property. -/
def Tick.KeepsApp (good : α → Prop) : Tick α ω → Prop
  | .running thread => thread.Guarantees (Net.KeepsApp good)
  | _ => True

/-- Every handler and the callback keep the property. -/
structure NetServer.KeepsApp (server : NetServer α ω) (good : α → Prop) : Prop where
  handle : ∀ c msg, (server.handle c msg).Guarantees (Net.KeepsApp good)
  onClose : ∀ clientId app, good app → good (server.onClose clientId app)

variable {good : α → Prop}

theorem keepsApp_notify {onClose : UInt32 → α → α}
    (closes : ∀ clientId app, good app → good (onClose clientId app)) (c : Nat)
    (s : Shared α ω) : KeepsApp good s (s.notify onClose c) := by
  intro holds
  unfold Shared.notify
  split
  · exact closes _ _ holds
  · exact holds

theorem keepsApp_closeSession {onClose : UInt32 → α → α}
    (closes : ∀ clientId app, good app → good (onClose clientId app)) (c : Nat) :
    (closeSession onClose c : Thread (Shared α ω) Unit).Guarantees (KeepsApp good) :=
  guarantees_closeSession (fun _s _change holds => holds) (keepsApp_notify closes c)

theorem keepsApp_sendTo (lzo : Lzo) {onClose : UInt32 → α → α}
    (closes : ∀ clientId app, good app → good (onClose clientId app)) (c : Nat) (framed : Bytes) :
    (sendTo lzo onClose c framed : Thread (Shared α ω) Unit).Guarantees (KeepsApp good) :=
  guarantees_sendTo (fun _s holds => holds) (keepsApp_closeSession closes c)

namespace NetServer.KeepsApp

variable {lzo : Lzo} {server : NetServer α ω} (keeps : server.KeepsApp good)

include keeps

theorem io (s : Shared α ω) (event : IoEvent) : Net.KeepsApp good s (s.io lzo server.onClose event) := by
  intro holds
  cases event with
  | accept remote => exact holds
  | read c chunk => exact holds
  | readError c => exact holds
  | deliver c =>
      rw [Shared.io]
      split
      · exact holds
      · exact holds
  | endpoint c remote => exact holds
  | write c event =>
      rw [Shared.io]
      split
      · exact holds
      · exact holds
  | notify c => exact keepsApp_notify keeps.onClose c s holds

theorem dispatch (msg : Message) :
    (Net.dispatch server msg).Guarantees (Net.KeepsApp good) := by
  unfold Net.dispatch
  apply Thread.Guarantees.bind
  · apply Thread.guarantees_atomically
    intro s holds
    unfold lookupSession
    split
    · exact holds
    · exact holds
  · intro found
    cases found with
    | none => exact Thread.guarantees_pure _ _
    | some c => exact keeps.handle c msg

theorem step (sys : System α ω) (event : Event) (holds : good sys.shared.app)
    (tick : sys.tick.KeepsApp good) :
    good (sys.step lzo server event).shared.app ∧
      (sys.step lzo server event).tick.KeepsApp good := by
  cases event with
  | io event => exact ⟨keeps.io sys.shared event holds, tick⟩
  | update =>
      rw [System.step]
      split
      · exact ⟨holds, trivial⟩
      · exact ⟨holds, tick⟩
  | next =>
      rw [System.step, System.advance]
      split
      · exact ⟨holds, tick⟩
      · split
        · constructor
          · change good (sys.shared.finish lzo server).app
            unfold Shared.finish
            split
            · exact holds
            · exact holds
          · trivial
        · exact ⟨holds, keeps.dispatch _⟩
      · exact ⟨holds, trivial⟩
      · next act next running =>
          rw [running] at tick
          exact ⟨(tick sys.shared).1 holds, (tick sys.shared).2⟩

/-- It holds of every state that a run reaches. -/
theorem run {app : α} (holds : good app) (events : List Event) :
    good (StepRun.run (System.step lzo server) (.start app) events).shared.app := by
  have both : good (StepRun.run (System.step lzo server) (.start app) events).shared.app ∧
      (StepRun.run (System.step lzo server) (.start app) events).tick.KeepsApp good := by
    induction events using List.reverseRecOn with
    | nil => exact ⟨holds, trivial⟩
    | append_singleton events event ih =>
        rw [run_snoc]
        exact keeps.step _ event ih.1 ih.2
  exact both.1

end NetServer.KeepsApp

end RanOnline.Net
