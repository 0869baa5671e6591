/-
The moves of a running server, and what they mean for its table of sessions.

Whatever the handlers do, the state that the threads share changes by a step of the
pool, by one section of Close or Send, by the flush loop, or by what the tick notes
down for itself.  The write side of each connection goes through the steps of its
queue, and m_sessions lists a connection from its accept until it has been closed.
-/
import RanOnline.Net.Conversation
import RanOnline.Net.WriteQueueLive

namespace RanOnline.Net

open Memory StepRun Threads

variable {α ω : Type}

/-! ### One move -/

/-- What a section of a handler or of the tick does to the state that the threads share. -/
inductive Shared.Section (lzo : Lzo) (onClose : UInt32 → α → α) (s : Shared α ω) :
    Shared α ω → Prop
  | told (recv : MsgManager) (app : α) (events : List (Observation ω)) :
      Section lzo onClose s { s with recv := recv, app := app, log := events ++ s.log }
  | tested (c : Nat) : Section lzo onClose s (s.onWriter c Writer.closeTest)
  | marked (c : Nat) : Section lzo onClose s (s.onWriter c Writer.closeMark)
  | cleared (c : Nat) : Section lzo onClose s (s.onWriter c Writer.closeClear)
  | notified (c : Nat) : Section lzo onClose s (s.notify onClose c)
  | sent (c : Nat) (framed : Bytes) :
      Section lzo onClose s (s.setConn c ((s.conns c).send lzo framed).1)
  | flushed : Section lzo onClose s (s.flushAll lzo)

inductive Shared.Move (lzo : Lzo) (onClose : UInt32 → α → α) (s : Shared α ω) :
    Shared α ω → Prop
  | pool (event : IoEvent) : Move lzo onClose s (s.io lzo onClose event)
  | tick (later : Shared α ω) (does : s.Section lzo onClose later) : Move lzo onClose s later

/-- A server whose handlers consist of these sections. -/
def NetServer.Moves (lzo : Lzo) (server : NetServer α ω) : Prop :=
  ∀ c msg, (server.handle c msg).Guarantees (Shared.Section lzo server.onClose)

def Tick.Moves (lzo : Lzo) (onClose : UInt32 → α → α) : Tick α ω → Prop
  | .running thread => thread.Guarantees (Shared.Section lzo onClose)
  | .idle | .draining => True

section Handlers

variable (lzo : Lzo) (onClose : UInt32 → α → α)

theorem Shared.Section.refl (s : Shared α ω) : s.Section lzo onClose s := .told s.recv s.app []

theorem moves_closeSession (c : Nat) :
    (closeSession onClose c : Thread (Shared α ω) Unit).Guarantees
      (Shared.Section lzo onClose) := by
  unfold closeSession
  apply Thread.Guarantees.bind
  · exact Thread.guarantees_atomically fun _s => .tested c
  · intro closed
    split
    · exact Thread.guarantees_pure _ _
    · apply Thread.Guarantees.bind
      · exact Thread.guarantees_atomically fun _s => .marked c
      · intro _marked
        apply Thread.Guarantees.bind
        · exact Thread.guarantees_atomically fun _s => .cleared c
        · intro _cleared
          exact Thread.guarantees_atomically fun _s => .notified c

theorem moves_sendTo (c : Nat) (framed : Bytes) :
    (sendTo lzo onClose c framed : Thread (Shared α ω) Unit).Guarantees
      (Shared.Section lzo onClose) :=
  guarantees_sendTo (fun _s => .sent c framed) (moves_closeSession lzo onClose c)

end Handlers

namespace NetServer.Moves

variable {lzo : Lzo} {server : NetServer α ω} (moves : server.Moves lzo)

include moves

theorem dispatch (msg : Message) :
    (Net.dispatch server msg).Guarantees (Shared.Section lzo server.onClose) := by
  unfold Net.dispatch
  apply Thread.Guarantees.bind
  · apply Thread.guarantees_atomically
    intro s
    unfold lookupSession
    split
    · exact .told s.recv s.app [.begun _ msg]
    · exact .refl lzo server.onClose s
  · intro found
    cases found with
    | none => exact Thread.guarantees_pure _ _
    | some c => exact moves c msg

/-- The tick does one section at a time. -/
theorem advance (sys : System α ω) (tick : sys.tick.Moves lzo server.onClose) :
    sys.shared.Section lzo server.onClose (sys.advance lzo server).shared ∧
      (sys.advance lzo server).tick.Moves lzo server.onClose := by
  have still := Shared.Section.refl lzo server.onClose sys.shared
  rw [System.advance]
  split
  · exact ⟨still, tick⟩
  · split
    · refine ⟨?_, trivial⟩
      unfold Shared.finish
      split
      · exact .flushed
      · exact still
    · rename_i msg recv _taken
      exact ⟨.told recv sys.shared.app [.taken msg], moves.dispatch msg⟩
  · exact ⟨still, trivial⟩
  · rename_i act next running
    rw [running] at tick
    exact tick sys.shared

theorem step (sys : System α ω) (event : Event) (tick : sys.tick.Moves lzo server.onClose) :
    sys.shared.Move lzo server.onClose (sys.step lzo server event).shared ∧
      (sys.step lzo server event).tick.Moves lzo server.onClose := by
  cases event with
  | io event => exact ⟨.pool event, tick⟩
  | update =>
      rw [System.step]
      split
      · exact ⟨.tick _ (.told _ _ []), trivial⟩
      · exact ⟨.tick _ (.refl lzo server.onClose sys.shared), tick⟩
  | next =>
      obtain ⟨does, later⟩ := moves.advance sys tick
      exact ⟨.tick _ does, later⟩

theorem tick (app : α) (events : List Event) :
    (StepRun.run (System.step lzo server) (.start app) events).tick.Moves lzo server.onClose := by
  induction events using List.reverseRecOn with
  | nil => trivial
  | append_singleton events event ih =>
      rw [run_snoc]
      exact (moves.step _ event ih).2

/-- What every move keeps holds of every state that a run reaches. -/
theorem run {good : Shared α ω → Prop} {app : α} (start : good (.start app))
    (kept : ∀ {s later : Shared α ω}, s.Move lzo server.onClose later → good s → good later)
    (events : List Event) :
    good (StepRun.run (System.step lzo server) (.start app) events).shared := by
  induction events using List.reverseRecOn with
  | nil => exact start
  | append_singleton events event ih =>
      have earlier := moves.tick app events
      rw [run_snoc]
      exact kept (moves.step _ event earlier).1 ih

end NetServer.Moves

/-! ### The write side of one session -/

/-- The write side takes steps of its queue of an allowed kind. -/
def Session.Writes (allowed : Writer.Event → Prop) (before after : Session) : Prop :=
  ∃ events : List Writer.Event, (∀ event ∈ events, allowed event) ∧
    after.writer = run Writer.step before.writer events

/-- A section of enqueueWrite or of Close before the callback. -/
def Writer.Aside : Writer.Event → Prop
  | .enqueue _ | .closeTest | .closeMark | .closeClear => True
  | .pick | .launch _ | .succeed _ | .fail _ | .closeNotify => False

namespace Session

section Writes

variable {allowed : Writer.Event → Prop}

theorem Writes.none {before after : Session} (same : after.writer = before.writer) :
    before.Writes allowed after :=
  ⟨[], fun _event impossible => absurd impossible List.not_mem_nil, same⟩

theorem Writes.one {before after : Session} (event : Writer.Event) (fine : allowed event)
    (stepped : after.writer = before.writer.step event) : before.Writes allowed after := by
  refine ⟨[event], ?_, stepped⟩
  intro other member
  rw [List.mem_singleton.mp member]
  exact fine

theorem Writes.trans {first second third : Session} (before : first.Writes allowed second)
    (after : second.Writes allowed third) : first.Writes allowed third := by
  obtain ⟨events, fine, stepped⟩ := before
  obtain ⟨more, others, further⟩ := after
  refine ⟨events ++ more, ?_, ?_⟩
  · intro event member
    rcases List.mem_append.mp member with earlier | later
    · exact fine event earlier
    · exact others event later
  · rw [further, stepped, run_append]

theorem Writes.imp {wider : Writer.Event → Prop} {before after : Session}
    (writes : before.Writes allowed after) (more : ∀ event, allowed event → wider event) :
    before.Writes wider after := by
  obtain ⟨events, fine, stepped⟩ := writes
  exact ⟨events, fun event member => more event (fine event member), stepped⟩

end Writes

theorem read_writes (lzo : Lzo) (s : Session) (chunk : Bytes) :
    s.Writes Writer.Aside (s.read lzo chunk) := by
  unfold read
  split
  · dsimp only
    split
    · exact .none rfl
    · exact .one .closeTest trivial rfl
  · exact .none rfl

theorem readError_writes (s : Session) : s.Writes Writer.Aside s.readError := by
  unfold readError
  split
  · exact .one .closeTest trivial rfl
  · exact .none rfl

theorem deliver_writes {s later : Session} {msg : Message}
    (delivered : s.deliver = some (msg, later)) : s.Writes Writer.Aside later := by
  unfold deliver at delivered
  split at delivered
  · cases delivered
  · cases delivered
    exact .none rfl

theorem drain_writes (lzo : Lzo) (s : Session) : s.Writes Writer.Aside (s.drain lzo) := by
  unfold drain
  dsimp only
  split
  · exact .one (.enqueue _) trivial rfl
  · exact .none rfl

theorem send_writes (lzo : Lzo) (s : Session) (framed : Bytes) :
    s.Writes Writer.Aside (s.send lzo framed).1 := by
  unfold send
  dsimp only
  split
  · exact .none rfl
  · exact .none rfl
  · obtain ⟨events, others, stepped⟩ := drain_writes lzo
      { s with sent := s.sent ++ [framed], out := (s.out.addMsg framed).1 }
    exact ⟨events, others, stepped⟩
  · obtain ⟨events, others, stepped⟩ := drain_writes lzo
      { s with sent := s.sent ++ [framed], out := (s.out.addMsg framed).1 }
    exact ⟨events, others, stepped⟩

end Session

/-! ### What a move changes -/

/-- A connection is accepted, a callback runs, or the write sides take allowed steps. -/
inductive Shared.Change (onClose : UInt32 → α → α) (allowed : Writer.Event → Prop)
    (s : Shared α ω) : Shared α ω → Prop
  | accepted (remote : Option Bytes) : Change onClose allowed s (s.accept remote)
  | notified (c : Nat) (leaving : c < s.accepted ∧ (s.conns c).writer.notifying ≠ 0) :
      Change onClose allowed s (s.notify onClose c)
  | inside (later : Shared α ω) (sessions : later.sessions = s.sessions)
      (nextId : later.nextClientId = s.nextClientId) (accepted : later.accepted = s.accepted)
      (clientId : ∀ c, (later.conns c).clientId = (s.conns c).clientId)
      (writes : ∀ c, (s.conns c).Writes allowed (later.conns c)) :
      Change onClose allowed s later

/-- Any section but the callback. -/
def Writer.Inward (event : Writer.Event) : Prop := event ≠ .closeNotify

theorem Writer.Aside.inward {event : Writer.Event} (aside : Writer.Aside event) :
    Writer.Inward event := by
  intro same
  rw [same] at aside
  cases aside

namespace Shared

variable {onClose : UInt32 → α → α} {allowed : Writer.Event → Prop}

theorem Change.imp {wider : Writer.Event → Prop} {s later : Shared α ω}
    (change : s.Change onClose allowed later) (more : ∀ event, allowed event → wider event) :
    s.Change onClose wider later := by
  cases change with
  | accepted remote => exact .accepted remote
  | notified c leaving => exact .notified c leaving
  | inside later sessions nextId accepted clientId writes =>
      exact .inside later sessions nextId accepted clientId fun c => (writes c).imp more

/-- A change inside one session. -/
theorem Change.setConn {s : Shared α ω} {c : Nat} {session : Session} (recv : MsgManager)
    (same : session.clientId = (s.conns c).clientId)
    (writes : (s.conns c).Writes allowed session) :
    s.Change onClose allowed { s.setConn c session with recv := recv } := by
  apply Change.inside
  · rfl
  · rfl
  · rfl
  · intro other
    change ((s.setConn c session).conns other).clientId = _
    by_cases here : other = c
    · subst here
      rw [setConn_same, same]
    · rw [s.setConn_other here]
  · intro other
    change (s.conns other).Writes allowed ((s.setConn c session).conns other)
    by_cases here : other = c
    · subst here
      rw [setConn_same]
      exact writes
    · rw [s.setConn_other here]
      exact .none rfl

theorem Change.still (s : Shared α ω) : s.Change onClose allowed s :=
  .inside s rfl rfl rfl (fun _c => rfl) fun _c => .none rfl

theorem Change.step {s : Shared α ω} {c : Nat} (event : Writer.Event) (fine : allowed event) :
    s.Change onClose allowed (s.onWriter c (Writer.step · event)) :=
  .setConn s.recv rfl (.one event fine rfl)

theorem Change.notify (s : Shared α ω) (c : Nat) :
    s.Change onClose allowed (s.notify onClose c) := by
  by_cases leaving : c < s.accepted ∧ (s.conns c).writer.notifying ≠ 0
  · exact .notified c leaving
  · rw [Shared.notify, if_neg leaving]
    exact .still s

/-- The pool steps a write side, or leaves the sections of doWrite and the completions alone. -/
theorem io_changes (lzo : Lzo) (s : Shared α ω) (event : IoEvent) :
    (∃ c step, event = .write c step ∧ step.pooled = true ∧
      s.io lzo onClose event = s.onWriter c (Writer.step · step)) ∨
    s.Change onClose Writer.Aside (s.io lzo onClose event) := by
  cases event with
  | accept remote => exact Or.inr (.accepted remote)
  | read c chunk =>
      exact Or.inr (.setConn s.recv ((s.conns c).read_quiet lzo chunk).clientId
        ((s.conns c).read_writes lzo chunk))
  | readError c =>
      exact Or.inr (.setConn s.recv (s.conns c).readError_quiet.clientId
        (s.conns c).readError_writes)
  | deliver c =>
      right
      rw [io]
      split
      · exact .still s
      · rename_i msg session delivered
        exact .setConn _ (Session.deliver_quiet delivered).clientId
          (Session.deliver_writes delivered)
  | endpoint c remote => exact Or.inr (.setConn s.recv rfl (.none rfl))
  | write c step =>
      rw [io]
      split
      · rename_i pooled
        exact Or.inl ⟨c, step, rfl, pooled, rfl⟩
      · exact Or.inr (.still s)
  | notify c => exact Or.inr (.notify s c)

theorem Section.changes {lzo : Lzo} {s later : Shared α ω}
    (does : s.Section lzo onClose later) : s.Change onClose Writer.Aside later := by
  cases does with
  | told recv app events => exact .inside _ rfl rfl rfl (fun _c => rfl) fun _c => .none rfl
  | tested c => exact .step .closeTest trivial
  | marked c => exact .step .closeMark trivial
  | cleared c => exact .step .closeClear trivial
  | notified c => exact .notify s c
  | sent c framed =>
      exact .setConn s.recv (Session.send_clientId lzo _ framed) (Session.send_writes lzo _ framed)
  | flushed =>
      apply Change.inside
      · rfl
      · rfl
      · rfl
      · exact s.flushAll_clientId lzo
      · intro c
        exact s.flushAll_keeps (fun session written => written.trans (session.drain_writes lzo))
          (.none rfl)

theorem Move.changes {lzo : Lzo} {s later : Shared α ω} (move : s.Move lzo onClose later) :
    s.Change onClose Writer.Inward later := by
  cases move with
  | pool event =>
      rcases @io_changes _ _ onClose lzo s event with
        ⟨c, step, _same, pooled, stepped⟩ | change
      · rw [stepped]
        apply Change.step step
        intro same
        rw [same] at pooled
        cases pooled
      · exact change.imp fun _event => Writer.Aside.inward
  | tick later does => exact does.changes.imp fun _event => Writer.Aside.inward

end Shared

/-! ### Every write side is a run of its queue -/

/-- Each connection has a run of the write queue of its own. -/
def Shared.Queued (s : Shared α ω) : Prop :=
  ∀ c, ∃ events, (s.conns c).writer = run Writer.step .new events

theorem queued_start (app : α) : (Shared.start app : Shared α ω).Queued :=
  fun _c => ⟨[], rfl⟩

theorem Shared.Queued.setConn {s : Shared α ω} (queued : s.Queued) {c : Nat} {session : Session}
    (ran : ∃ events, session.writer = run Writer.step .new events) :
    (s.setConn c session).Queued := by
  intro other
  by_cases here : other = c
  · subst here
    rw [setConn_same]
    exact ran
  · rw [s.setConn_other here]
    exact queued other

theorem Shared.Queued.change {onClose : UInt32 → α → α} {s later : Shared α ω}
    {allowed : Writer.Event → Prop} (queued : s.Queued)
    (change : s.Change onClose allowed later) : later.Queued := by
  cases change with
  | accepted remote =>
      have fresh : (s.setConn s.accepted (.start (s.nextClientId + 1) remote)).Queued :=
        queued.setConn ⟨[], rfl⟩
      exact fresh
  | notified c leaving =>
      rw [notify_of_leaving leaving]
      obtain ⟨events, ran⟩ := queued c
      apply queued.setConn
      refine ⟨events ++ [.closeNotify], ?_⟩
      rw [run_snoc, ← ran]
      rfl
  | inside later _sessions _nextId _accepted _clientId writes =>
      intro c
      obtain ⟨events, ran⟩ := queued c
      obtain ⟨more, _others, further⟩ := writes c
      refine ⟨events ++ more, ?_⟩
      rw [further, ran, run_append]

theorem NetServer.Moves.queued {lzo : Lzo} {server : NetServer α ω} (moves : server.Moves lzo)
    (app : α) (events : List Event) :
    (StepRun.run (System.step lzo server) (.start app) events).shared.Queued :=
  moves.run (queued_start app) (fun move queued => queued.change move.changes) events

/-! ### The table of sessions -/

namespace Writer

/-- m_closed is set, and no thread is on its way to the callback. -/
structure Departed (w : Writer) : Prop where
  closed : w.closed = true
  clearing : w.clearing = 0
  notifying : w.notifying = 0

/-- Only the callback brings a write side there. -/
theorem departed_before {w : Writer} {event : Event} (other : event ≠ .closeNotify)
    (departed : (w.step event).Departed) : w.Departed := by
  have tested {w : Writer} (departed : w.closeTest.Departed) : w.Departed := by
    unfold closeTest at departed
    split at departed
    · exact departed
    · exact { departed with }
  cases event with
  | enqueue bytes => exact { departed with }
  | pick =>
      simp only [step, pick] at departed
      split at departed
      · exact departed
      · split at departed
        · exact { departed with }
        · exact { departed with }
  | launch index =>
      simp only [step, launch] at departed
      split at departed
      · exact departed
      · exact { departed with }
  | succeed index =>
      simp only [step, succeed] at departed
      split at departed
      · exact departed
      · exact { departed with }
  | fail index =>
      simp only [step, fail] at departed
      split at departed
      · exact departed
      · exact { tested departed with }
  | closeTest => exact tested departed
  | closeMark =>
      simp only [step, closeMark] at departed
      split at departed
      · exact departed
      · exact absurd departed.clearing (Nat.succ_ne_zero _)
  | closeClear =>
      simp only [step, closeClear] at departed
      split at departed
      · exact departed
      · exact absurd departed.notifying (Nat.succ_ne_zero _)
  | closeNotify => exact absurd rfl other

end Writer

namespace Session

theorem Writes.departed {before after : Session} (writes : before.Writes Writer.Inward after)
    (departed : after.writer.Departed) : before.writer.Departed := by
  obtain ⟨events, others, stepped⟩ := writes
  rw [stepped] at departed
  clear stepped
  induction events using List.reverseRecOn with
  | nil => exact departed
  | append_singleton events event ih =>
      rw [run_snoc] at departed
      apply ih
      · exact Writer.departed_before (others event (List.mem_append_right _ List.mem_cons_self))
          departed
      · exact fun other member => others other (List.mem_append_left _ member)

theorem Writes.kept {before after : Session} (writes : before.Writes Writer.Inward after)
    {property : Writer → Prop} (step : ∀ w event, property w → property (Writer.step w event))
    (holds : property before.writer) : property after.writer := by
  obtain ⟨events, _others, stepped⟩ := writes
  rw [stepped]
  exact run_invariant holds step events

end Session

/-- m_sessions between the sections of all threads. -/
structure Shared.Tabled (s : Shared α ω) : Prop where
  nextId : s.nextClientId = UInt32.ofNat s.accepted
  clientIds : ∀ c, c < s.accepted → (s.conns c).clientId = clientIdOf c
  leaving : ∀ c, (s.conns c).writer.Leaving
  listed : ∀ clientId c, s.sessions.lookup clientId = some c →
    c < s.accepted ∧ clientId = clientIdOf c
  opened : ∀ c, c < s.accepted → OwnId s c → (s.conns c).writer.closed = false →
    s.sessions.lookup (clientIdOf c) = some c
  departed : ∀ c, (s.conns c).writer.Departed → ∀ clientId, s.sessions.lookup clientId ≠ some c

theorem tabled_start (app : α) : (Shared.start app : Shared α ω).Tabled := by
  constructor
  · rfl
  · intro c impossible
    cases impossible
  · exact fun _c => Writer.leaving_new
  · intro clientId c impossible
    cases impossible
  · intro c impossible
    cases impossible
  · intro c departed
    cases departed.closed

theorem clientIdOf_accepted {s : Shared α ω} (nextId : s.nextClientId = UInt32.ofNat s.accepted) :
    s.nextClientId + 1 = clientIdOf s.accepted := by
  rw [nextId, clientIdOf, UInt32.ofNat_add]
  rfl

theorem Shared.Tabled.accept {s : Shared α ω} (tabled : s.Tabled) (remote : Option Bytes) :
    (s.accept remote).Tabled := by
  have fresh := clientIdOf_accepted tabled.nextId
  have place (c : Nat) : (s.accept remote).conns c =
      if c = s.accepted then .start (s.nextClientId + 1) remote else s.conns c := by
    exact Function.update_apply _ _ _ _
  constructor
  · change s.nextClientId + 1 = UInt32.ofNat (s.accepted + 1)
    rw [fresh]
    rfl
  · intro c present
    rw [place]
    split
    · rename_i here
      rw [here]
      exact fresh
    · exact tabled.clientIds c (by change c < s.accepted + 1 at present; omega)
  · intro c
    rw [place]
    split
    · exact Writer.leaving_new
    · exact tabled.leaving c
  · intro clientId c found
    change (s.sessions.insert (s.nextClientId + 1) s.accepted).lookup clientId = some c at found
    change c < s.accepted + 1 ∧ _
    by_cases here : clientId = s.nextClientId + 1
    · rw [here, AList.lookup_insert] at found
      cases found
      exact ⟨Nat.lt_succ_self _, here.trans fresh⟩
    · rw [AList.lookup_insert_ne here] at found
      obtain ⟨present, own⟩ := tabled.listed clientId c found
      exact ⟨Nat.lt_succ_of_lt present, own⟩
  · intro c present own isOpen
    change (s.sessions.insert (s.nextClientId + 1) s.accepted).lookup (clientIdOf c) = some c
    rw [fresh]
    by_cases here : c = s.accepted
    · rw [here, AList.lookup_insert]
    · have earlier : c < s.accepted := by
        change c < s.accepted + 1 at present
        omega
      rw [AList.lookup_insert_ne]
      · rw [place, if_neg here] at isOpen
        exact tabled.opened c earlier (fun other bound => own other (Nat.lt_succ_of_lt bound)) isOpen
      · intro same
        exact here (own s.accepted (Nat.lt_succ_self _) same.symm).symm
  · intro c departed clientId found
    rw [place] at departed
    split at departed
    · cases departed.closed
    · rename_i old
      change (s.sessions.insert (s.nextClientId + 1) s.accepted).lookup clientId = some c at found
      by_cases here : clientId = s.nextClientId + 1
      · rw [here, AList.lookup_insert] at found
        exact old (Option.some.inj found).symm
      · rw [AList.lookup_insert_ne here] at found
        exact tabled.departed c departed clientId found

theorem Shared.Tabled.notify {s : Shared α ω} (tabled : s.Tabled) (onClose : UInt32 → α → α)
    {c : Nat} (leaving : c < s.accepted ∧ (s.conns c).writer.notifying ≠ 0) :
    (s.notify onClose c).Tabled := by
  have closed : (s.conns c).writer.closed = true := tabled.leaving c (Or.inr leaving.2)
  have own := tabled.clientIds c leaving.1
  have fewer : ∀ clientId other, (s.notify onClose c).sessions.lookup clientId = some other →
      s.sessions.lookup clientId = some other :=
    fun _clientId _other => s.notify_sessions onClose c
  have marked : (s.conns c).writer.closeNotify.closed = true := Writer.step_closed closed .closeNotify
  rw [notify_of_leaving leaving] at fewer ⊢
  have place (other : Nat) : (s.onWriter c Writer.closeNotify).conns other =
      if other = c then { s.conns c with writer := (s.conns c).writer.closeNotify }
      else s.conns other := by
    exact Function.update_apply _ _ _ _
  constructor
  · exact tabled.nextId
  · intro other present
    rw [← tabled.clientIds other present]
    change ((s.onWriter c Writer.closeNotify).conns other).clientId = _
    rw [place]
    split
    · rename_i here
      rw [here]
    · rfl
  · intro other
    change ((s.onWriter c Writer.closeNotify).conns other).writer.Leaving
    rw [place]
    split
    · exact Writer.step_leaving (tabled.leaving c) .closeNotify
    · exact tabled.leaving other
  · exact fun clientId other found => tabled.listed clientId other (fewer clientId other found)
  · intro other present alone isOpen
    change ((s.onWriter c Writer.closeNotify).conns other).writer.closed = false at isOpen
    rw [place] at isOpen
    split at isOpen
    · rw [marked] at isOpen
      cases isOpen
    · rename_i different
      change (s.sessions.erase (s.conns c).clientId).lookup (clientIdOf other) = some other
      rw [AList.lookup_erase_ne]
      · exact tabled.opened other present alone isOpen
      · intro same
        exact different (alone c leaving.1 (own.symm.trans same.symm)).symm
  · intro other departed clientId found
    change ((s.onWriter c Writer.closeNotify).conns other).writer.Departed at departed
    have before := fewer clientId other found
    rw [place] at departed
    split at departed
    · rename_i here
      rw [here] at before
      have gone : clientId = (s.conns c).clientId :=
        (tabled.listed clientId c before).2.trans own.symm
      change (s.sessions.erase (s.conns c).clientId).lookup clientId = some other at found
      rw [gone, AList.lookup_erase] at found
      cases found
    · exact tabled.departed other departed clientId before

theorem Shared.Tabled.change {onClose : UInt32 → α → α} {s later : Shared α ω}
    (tabled : s.Tabled) (change : s.Change onClose Writer.Inward later) : later.Tabled := by
  cases change with
  | accepted remote => exact tabled.accept remote
  | notified c leaving => exact tabled.notify onClose leaving
  | inside later sessions nextId accepted clientId writes =>
      constructor
      · rw [nextId, accepted]
        exact tabled.nextId
      · intro c present
        rw [accepted] at present
        rw [clientId]
        exact tabled.clientIds c present
      · intro c
        exact (writes c).kept (fun _w event leaving => Writer.step_leaving leaving event)
          (tabled.leaving c)
      · rw [sessions, accepted]
        exact tabled.listed
      · intro c present own isOpen
        rw [sessions]
        rw [accepted] at present
        rw [OwnId, accepted] at own
        apply tabled.opened c present own
        cases before : (s.conns c).writer.closed with
        | false => rfl
        | true =>
            have after := @Session.Writes.kept _ _ (writes c) (fun w => w.closed = true)
              (fun _w event closed => Writer.step_closed closed event) before
            rw [after] at isOpen
            cases isOpen
      · intro c departed
        rw [sessions]
        exact tabled.departed c ((writes c).departed departed)

theorem NetServer.Moves.tabled {lzo : Lzo} {server : NetServer α ω} (moves : server.Moves lzo)
    (app : α) (events : List Event) :
    (StepRun.run (System.step lzo server) (.start app) events).shared.Tabled :=
  moves.run (tabled_start app) (fun move tabled => tabled.change move.changes) events

/-- Where no thread is on its way to the callback of a connection, m_sessions lists the
connection exactly if it has not been closed. -/
theorem Shared.Tabled.listed_iff {s : Shared α ω} (tabled : s.Tabled) {c : Nat}
    (present : c < s.accepted) (own : OwnId s c) (clearing : (s.conns c).writer.clearing = 0)
    (notifying : (s.conns c).writer.notifying = 0) :
    s.sessions.lookup (clientIdOf c) = some c ↔ (s.conns c).writer.closed = false := by
  constructor
  · intro found
    cases closed : (s.conns c).writer.closed with
    | false => rfl
    | true => exact absurd found (tabled.departed c ⟨closed, clearing, notifying⟩ _)
  · exact tabled.opened c present own

end RanOnline.Net
