/-
The server frame that the five servers share (net/net_server.h, net/msg_manager.h
and the OnAccept, OnUpdate and dispatch prologue that each of them repeats).

I/O workers run the handlers of the sessions while the update tick dispatches
queued messages.  Every critical section is one step of a run, so that a run is
any interleaving of accepts, reads, writes, closes and the tick.  One tick runs at
a time: OnUpdate returns before the timer is armed again.
-/
import Mathlib.Data.List.AList
import RanOnline.Lib.History
import RanOnline.Lib.Thread
import RanOnline.Net.Session

namespace RanOnline.Net

open Memory StepRun Threads Relation

/-! ### MsgManager -/

structure MsgManager where
  front : List Message
  back : List Message
  deriving DecidableEq, Repr

namespace MsgManager

def empty : MsgManager :=
  { front := []
    back := [] }

def msgQueueInsert (queue : MsgManager) (msg : Message) : MsgManager :=
  { queue with front := queue.front ++ [msg] }

def msgQueueFlip (queue : MsgManager) : MsgManager :=
  { front := []
    back := queue.back ++ queue.front }

def getMsg (queue : MsgManager) : Option (Message × MsgManager) :=
  match queue.back with
  | [] => none
  | msg :: rest => some (msg, { queue with back := rest })

end MsgManager

/-! ### The shared state of a server -/

/-- What happened: a connection was accepted, its m_onClose callback ran, GetMsg
took a message, dispatch found the session of its sender, and what a server adds
to that. -/
inductive Observation (ω : Type)
  | accepted (c : Nat) (clientId : UInt32)
  | closed (c : Nat) (clientId : UInt32)
  | taken (msg : Message)
  | begun (c : Nat) (msg : Message)
  | app (event : ω)
  deriving DecidableEq, Repr

/-- What happens on the I/O pool, at any time. -/
def Observation.pooled {ω : Type} : Observation ω → Bool
  | .accepted _ _ | .closed _ _ => true
  | .taken _ | .begun _ _ | .app _ => false

def Observation.isClosed {ω : Type} : Observation ω → Bool
  | .closed _ _ => true
  | .accepted _ _ | .taken _ | .begun _ _ | .app _ => false

/-- Connections are numbered in the order of their accepts; `sessions` is
m_sessions, from client ids to connections. -/
structure Shared (α ω : Type) where
  recv : MsgManager
  nextClientId : UInt32
  accepted : Nat
  sessions : AList fun _clientId : UInt32 => Nat
  conns : Nat → Session
  app : α
  log : List (Observation ω)

/-- What the workers of the I/O pool do between two sections of the tick. -/
inductive IoEvent
  | accept (remote : Option Bytes)
  | read (c : Nat) (chunk : Bytes)
  | readError (c : Nat)
  | deliver (c : Nat)
  | endpoint (c : Nat) (remote : Option Bytes)
  | write (c : Nat) (event : Writer.Event)
  | notify (c : Nat)
  deriving DecidableEq, Repr

/-- The steps that the I/O pool takes on the write side: packets come from the
tick alone, and the callback is a step on the whole state. -/
def Writer.Event.pooled : Writer.Event → Bool
  | .enqueue _ | .closeTest | .closeNotify => false
  | .pick | .launch _ | .succeed _ | .fail _ | .closeMark | .closeClear => true

structure NetServer (α ω : Type) where
  handle : Nat → Message → Thread (Shared α ω) Unit
  flushes : Bool
  onClose : UInt32 → α → α

variable {α ω : Type}

namespace Shared

def start (app : α) : Shared α ω :=
  { recv := .empty
    nextClientId := 0
    accepted := 0
    sessions := ∅
    conns := fun _ => .absent
    app := app
    log := [] }

def setConn (s : Shared α ω) (c : Nat) (session : Session) : Shared α ω :=
  { s with conns := Function.update s.conns c session }

def onWriter (s : Shared α ω) (c : Nat) (change : Writer → Writer) : Shared α ω :=
  s.setConn c { s.conns c with writer := change (s.conns c).writer }

def note (s : Shared α ω) (event : ω) : Shared α ω := { s with log := .app event :: s.log }

/-- OnAccept. -/
def accept (s : Shared α ω) (remote : Option Bytes) : Shared α ω :=
  let clientId := s.nextClientId + 1
  { s with
    nextClientId := clientId
    accepted := s.accepted + 1
    sessions := s.sessions.insert clientId s.accepted
    conns := Function.update s.conns s.accepted (.start clientId remote)
    log := .accepted s.accepted clientId :: s.log }

/-- The m_onClose callback of a connection that exists. -/
def notify (onClose : UInt32 → α → α) (s : Shared α ω) (c : Nat) : Shared α ω :=
  if c < s.accepted ∧ (s.conns c).writer.notifying ≠ 0 then
    { s.onWriter c Writer.closeNotify with
      sessions := s.sessions.erase (s.conns c).clientId
      app := onClose (s.conns c).clientId s.app
      log := .closed c (s.conns c).clientId :: s.log }
  else s

def io (lzo : Lzo) (onClose : UInt32 → α → α) (s : Shared α ω) : IoEvent → Shared α ω
  | .accept remote => s.accept remote
  | .read c chunk => s.setConn c ((s.conns c).read lzo chunk)
  | .readError c => s.setConn c (s.conns c).readError
  | .deliver c =>
      match (s.conns c).deliver with
      | none => s
      | some (msg, session) => { s.setConn c session with recv := s.recv.msgQueueInsert msg }
  | .endpoint c remote => s.setConn c { s.conns c with remote := remote }
  | .write c event => if event.pooled then s.onWriter c (Writer.step · event) else s
  | .notify c => s.notify onClose c

/-- The loop over m_sessions at the end of OnUpdate.  Flush of one session touches
no other, so the order does not matter. -/
def flushAll (lzo : Lzo) (s : Shared α ω) : Shared α ω :=
  { s with
    conns := s.sessions.entries.foldl
      (fun conns entry => Function.update conns entry.2 ((conns entry.2).flush lzo)) s.conns }

/-- The flip at the start of OnUpdate. -/
def flip (s : Shared α ω) : Shared α ω := { s with recv := s.recv.msgQueueFlip }

def take (s : Shared α ω) (msg : Message) (recv : MsgManager) : Shared α ω :=
  { s with
    recv := recv
    log := .taken msg :: s.log }

/-- What OnUpdate does once GetMsg has returned false. -/
def finish (lzo : Lzo) (server : NetServer α ω) (s : Shared α ω) : Shared α ω :=
  if server.flushes then s.flushAll lzo else s

end Shared

/-! ### Sections of the dispatching thread -/

section Dispatch

variable (lzo : Lzo) (onClose : UInt32 → α → α)

/-- Session::Close. -/
def closeSession (c : Nat) : Thread (Shared α ω) Unit := do
  let closed ← Thread.atomically fun s =>
    (s.onWriter c Writer.closeTest, (s.conns c).writer.closed)
  if closed then pure ()
  else
    Thread.update fun s => s.onWriter c Writer.closeMark
    Thread.update fun s => s.onWriter c Writer.closeClear
    Thread.update fun s => s.notify onClose c

/-- Session::Send. -/
def sendTo (c : Nat) (framed : Bytes) : Thread (Shared α ω) Unit := do
  let failed ← Thread.atomically fun s =>
    (s.setConn c ((s.conns c).send lzo framed).1, ((s.conns c).send lzo framed).2)
  if failed then closeSession onClose c else pure ()

def lookupSession (msg : Message) (s : Shared α ω) : Shared α ω × Option Nat :=
  match s.sessions.lookup msg.clientId with
  | some c => ({ s with log := .begun c msg :: s.log }, some c)
  | none => (s, none)

def dispatch (server : NetServer α ω) (msg : Message) : Thread (Shared α ω) Unit := do
  let session ← Thread.atomically (lookupSession msg)
  match session with
  | none => pure ()
  | some c => server.handle c msg

end Dispatch

/-! ### Runs -/

inductive Tick (α ω : Type)
  | idle
  | draining
  | running (thread : Thread (Shared α ω) Unit)

/-- OnUpdate is not running. -/
def Tick.isIdle {α ω : Type} : Tick α ω → Bool
  | .idle => true
  | .draining | .running _ => false

structure System (α ω : Type) where
  shared : Shared α ω
  tick : Tick α ω

inductive Event
  | io (event : IoEvent)
  | update
  | next
  deriving DecidableEq, Repr

namespace System

def start (app : α) : System α ω :=
  { shared := .start app
    tick := .idle }

/-- OnUpdate, one section at a time: the flip, GetMsg, the sections of dispatch,
and the flush loop where the server has one. -/
def advance (lzo : Lzo) (server : NetServer α ω) (sys : System α ω) : System α ω :=
  match sys.tick with
  | .idle => sys
  | .draining =>
      match sys.shared.recv.getMsg with
      | none =>
          { shared := sys.shared.finish lzo server
            tick := .idle }
      | some (msg, recv) =>
          { shared := sys.shared.take msg recv
            tick := .running (dispatch server msg) }
  | .running (.ret _) => { sys with tick := .draining }
  | .running (.step act next) =>
      { shared := act sys.shared
        tick := .running (next sys.shared) }

def step (lzo : Lzo) (server : NetServer α ω) (sys : System α ω) : Event → System α ω
  | .io event => { sys with shared := sys.shared.io lzo server.onClose event }
  | .update =>
      match sys.tick with
      | .idle =>
          { shared := sys.shared.flip
            tick := .draining }
      | _ => sys
  | .next => sys.advance lzo server

end System

/-- One client connects and sends its frames in one read, and one tick answers. -/
def oneClient (frames : List Bytes) (sections : Nat) : List Event :=
  [.io (.accept none), .io (.read 0 frames.flatten)] ++
    List.replicate frames.length (.io (.deliver 0)) ++ [.update] ++ List.replicate sections .next

/-! ### What the pool can do -/

/-- One step of the pool: an accept, an m_onClose callback, or a step inside one
session that leaves its sending side alone and may hand a message to the queue. -/
inductive PoolStep (onClose : UInt32 → α → α) (s : Shared α ω) : Shared α ω → Prop
  | accepted (remote : Option Bytes) : PoolStep onClose s (s.accept remote)
  | notified (c : Nat) (leaving : c < s.accepted ∧ (s.conns c).writer.notifying ≠ 0) :
      PoolStep onClose s (s.notify onClose c)
  | inside (c : Nat) (session : Session) (recv : MsgManager)
      (quiet : (s.conns c).Quiet session) :
      PoolStep onClose s { s.setConn c session with recv := recv }

/-- The sections of Close and Send stand in a relation that the write side and the callback do. -/
theorem guarantees_closeSession {relation : Shared α ω → Shared α ω → Prop}
    {onClose : UInt32 → α → α} {c : Nat}
    (writer : ∀ (s : Shared α ω) change, relation s (s.onWriter c change))
    (notify : ∀ s : Shared α ω, relation s (s.notify onClose c)) :
    (closeSession onClose c).Guarantees relation := by
  unfold closeSession
  apply Thread.Guarantees.bind
  · exact Thread.guarantees_atomically fun s => writer s Writer.closeTest
  · intro closed
    split
    · exact Thread.guarantees_pure _ _
    · apply Thread.Guarantees.bind
      · exact Thread.guarantees_atomically fun s => writer s Writer.closeMark
      · intro _marked
        apply Thread.Guarantees.bind
        · exact Thread.guarantees_atomically fun s => writer s Writer.closeClear
        · intro _cleared
          exact Thread.guarantees_atomically notify

theorem guarantees_sendTo {relation : Shared α ω → Shared α ω → Prop} {lzo : Lzo}
    {onClose : UInt32 → α → α} {c : Nat} {framed : Bytes}
    (sends : ∀ s : Shared α ω, relation s (s.setConn c ((s.conns c).send lzo framed).1))
    (closes : (closeSession onClose c).Guarantees relation) :
    (sendTo lzo onClose c framed).Guarantees relation := by
  unfold sendTo
  apply Thread.Guarantees.bind
  · exact Thread.guarantees_atomically sends
  · intro failed
    split
    · exact closes
    · exact Thread.guarantees_pure _ _

theorem Shared.setConn_self (s : Shared α ω) (c : Nat) : s.setConn c (s.conns c) = s := by
  rw [Shared.setConn, Function.update_eq_self]

theorem PoolStep.setConn {onClose : UInt32 → α → α} {s : Shared α ω} {c : Nat}
    {session : Session} (quiet : (s.conns c).Quiet session) :
    PoolStep onClose s (s.setConn c session) :=
  .inside c session s.recv quiet

theorem PoolStep.still {onClose : UInt32 → α → α} (s : Shared α ω) : PoolStep onClose s s := by
  have same : PoolStep onClose s (s.setConn 0 (s.conns 0)) := .setConn (.refl _)
  rwa [s.setConn_self] at same

theorem PoolStep.writer {onClose : UInt32 → α → α} (s : Shared α ω) (c : Nat)
    {change : Writer → Writer} (enqueued : ∀ w, (change w).enqueued = w.enqueued) :
    PoolStep onClose s (s.onWriter c change) :=
  .setConn ((s.conns c).quiet_writer (enqueued _))

theorem Shared.io_poolStep (lzo : Lzo) (onClose : UInt32 → α → α) (s : Shared α ω)
    (event : IoEvent) : PoolStep onClose s (s.io lzo onClose event) := by
  cases event with
  | accept remote => exact .accepted remote
  | read c chunk => exact .setConn ((s.conns c).read_quiet lzo chunk)
  | readError c => exact .setConn (s.conns c).readError_quiet
  | endpoint c remote =>
      exact .setConn { clientId := rfl, out := rfl, enqueued := rfl, sent := rfl }
  | deliver c =>
      simp only [Shared.io]
      split
      · exact .still s
      · rename_i msg session delivered
        exact .inside c session _ (Session.deliver_quiet delivered)
  | write c event =>
      simp only [Shared.io]
      split
      · rename_i pooled
        apply PoolStep.writer s c
        intro w
        apply w.enqueued_of_not_enqueue
        intro bytes same
        rw [same] at pooled
        cases pooled
      · exact .still s
  | notify c =>
      simp only [Shared.io]
      by_cases leaving : c < s.accepted ∧ (s.conns c).writer.notifying ≠ 0
      · exact .notified c leaving
      · rw [Shared.notify, if_neg leaving]
        exact .still s

theorem Shared.notify_of_leaving {onClose : UInt32 → α → α} {s : Shared α ω} {c : Nat}
    (leaving : c < s.accepted ∧ (s.conns c).writer.notifying ≠ 0) :
    s.notify onClose c =
      { s.onWriter c Writer.closeNotify with
        sessions := s.sessions.erase (s.conns c).clientId
        app := onClose (s.conns c).clientId s.app
        log := .closed c (s.conns c).clientId :: s.log } := by
  rw [Shared.notify, if_pos leaving]

theorem Shared.setConn_conns (s : Shared α ω) (c : Nat) (session : Session) :
    (s.setConn c session).conns = Function.update s.conns c session := rfl

@[simp] theorem Shared.setConn_same (s : Shared α ω) (c : Nat) (session : Session) :
    (s.setConn c session).conns c = session := by
  rw [setConn_conns, Function.update_self]

theorem Shared.setConn_other (s : Shared α ω) {c other : Nat} (different : other ≠ c)
    (session : Session) : (s.setConn c session).conns other = s.conns other := by
  rw [setConn_conns, Function.update_of_ne different]

theorem Shared.setConn_quiet {s : Shared α ω} {c : Nat} {session : Session}
    (quiet : (s.conns c).Quiet session) (other : Nat) :
    (s.conns other).Quiet ((s.setConn c session).conns other) := by
  by_cases here : other = c
  · subst here
    rw [setConn_same]
    exact quiet
  · rw [setConn_other s here]
    exact .refl _

theorem Session.closeNotify_quiet (session : Session) :
    session.Quiet { session with writer := session.writer.closeNotify } := by
  apply session.quiet_writer
  unfold Writer.closeNotify
  split <;> rfl

/-- The loop of OnUpdate flushes a session as often as m_sessions lists it. -/
theorem Shared.flushAll_conns (lzo : Lzo) (s : Shared α ω) (c : Nat) :
    (s.flushAll lzo).conns c =
      (Session.flush lzo)^[(s.sessions.entries.map Sigma.snd).count c] (s.conns c) := by
  change s.sessions.entries.foldl _ s.conns c = _
  generalize s.conns = conns
  induction s.sessions.entries generalizing conns with
  | nil => rfl
  | cons entry rest ih =>
      rw [List.foldl_cons, ih, List.map_cons, List.count_cons]
      by_cases here : entry.2 = c
      · subst here
        rw [Function.update_self, beq_self_eq_true, if_pos rfl, Function.iterate_succ_apply]
      · rw [Function.update_of_ne (Ne.symm here), if_neg (by simpa using here), Nat.add_zero]

/-- A session that the loop visits is empty afterwards, whatever it held. -/
theorem Shared.flushAll_pending (lzo : Lzo) {s : Shared α ω} {clientId : UInt32} {c : Nat}
    (found : s.sessions.lookup clientId = some c) :
    ((s.flushAll lzo).conns c).out.pending = [] := by
  have listed : 0 < (s.sessions.entries.map Sigma.snd).count c := by
    rw [List.count_pos_iff]
    exact List.mem_map.mpr ⟨⟨clientId, c⟩, AList.mem_lookup_iff.mp found, rfl⟩
  obtain ⟨rest, count⟩ := Nat.exists_eq_succ_of_ne_zero (Nat.ne_of_gt listed)
  rw [s.flushAll_conns, count, Function.iterate_succ_apply']
  exact Session.drain_pending lzo _

theorem Shared.flushAll_keeps {lzo : Lzo} {property : Session → Prop}
    (keeps : ∀ session, property session → property (session.flush lzo)) (s : Shared α ω) {c : Nat}
    (holds : property (s.conns c)) : property ((s.flushAll lzo).conns c) := by
  rw [s.flushAll_conns]
  exact Function.Iterate.rec property holds keeps _

theorem Shared.flushAll_clientId (lzo : Lzo) (s : Shared α ω) (c : Nat) :
    ((s.flushAll lzo).conns c).clientId = (s.conns c).clientId :=
  s.flushAll_keeps (fun session => (Session.drain_clientId lzo session).trans) rfl

/-- A predicate on sessions that a step of the pool cannot invalidate holds of all
connections after it. -/
theorem PoolStep.conns {onClose : UInt32 → α → α} {s later : Shared α ω}
    (step : PoolStep onClose s later) {predicate : Session → Prop}
    (fresh : ∀ clientId remote, predicate (.start clientId remote))
    (quietly : ∀ {before after : Session}, before.Quiet after → predicate before → predicate after)
    (holds : ∀ c, predicate (s.conns c)) : ∀ c, predicate (later.conns c) := by
  have updated : ∀ (c : Nat) (session : Session), predicate session →
      ∀ other, predicate (Function.update s.conns c session other) := by
    intro c session satisfied other
    by_cases same : other = c
    · subst same
      rw [Function.update_self]
      exact satisfied
    · rw [Function.update_of_ne same]
      exact holds other
  cases step with
  | accepted remote => exact updated _ _ (fresh _ _)
  | inside c session recv quiet => exact updated c session (quietly quiet (holds c))
  | notified c leaving =>
      rw [Shared.notify_of_leaving leaving]
      exact updated c _ (quietly (s.conns c).closeNotify_quiet (holds c))

/-! ### Proofs about the tick loop -/

/-- The I/O pool as seen by the thread that runs the tick, where only the allowed
events happen. -/
def pool (lzo : Lzo) (onClose : UInt32 → α → α) {allowed : IoEvent → Prop}
    {inv : Shared α ω → Prop}
    (kept : ∀ ⦃s : Shared α ω⦄ (event : IoEvent), allowed event → inv s →
      inv (s.io lzo onClose event)) : Interference (Shared α ω) where
  env := fun s later => ∃ event, allowed event ∧ later = s.io lzo onClose event
  inv := inv
  kept := by
    intro s later holds moved
    obtain ⟨event, permitted, same⟩ := moved
    rw [same]
    exact kept event permitted holds

/-- A restriction that says nothing against closing a connection. -/
structure Closing (allowed : IoEvent → Prop) (c : Nat) : Prop where
  mark : allowed (.write c .closeMark)
  clear : allowed (.write c .closeClear)
  notify : allowed (.notify c)

/-- All events of the I/O pool. -/
def anyEvent (_event : IoEvent) : Prop := True

theorem closing_anyEvent (c : Nat) : Closing anyEvent c :=
  { mark := trivial
    clear := trivial
    notify := trivial }

/-- Close ends in an assertion that neither the pool nor the test of m_closed can
invalidate: its other sections are steps that the pool takes too. -/
theorem wp_closeSession {lzo : Lzo} {onClose : UInt32 → α → α} {allowed : IoEvent → Prop}
    {inv : Shared α ω → Prop}
    {kept : ∀ ⦃s : Shared α ω⦄ (event : IoEvent), allowed event → inv s →
      inv (s.io lzo onClose event)}
    {assertion : Shared α ω → Prop} (stable : (pool lzo onClose kept).Stable assertion)
    {c : Nat} (closing : Closing allowed c) (tested : ∀ s : Shared α ω, inv s → assertion s →
      inv (s.onWriter c Writer.closeTest) ∧ assertion (s.onWriter c Writer.closeTest))
    {s : Shared α ω} (holds : inv s) (known : assertion s) :
    (pool lzo onClose kept).wp (closeSession onClose c) (fun _done => assertion) s := by
  have pooled : ∀ (event : IoEvent) (s : Shared α ω), allowed event → inv s → assertion s →
      inv (s.io lzo onClose event) ∧ assertion (s.io lzo onClose event) := by
    intro event s permitted holds known
    exact ⟨kept event permitted holds, stable holds known ⟨event, permitted, rfl⟩⟩
  apply Interference.wp_section stable holds known
  intro s holds known
  obtain ⟨holds, known⟩ := tested s holds known
  refine ⟨holds, ?_⟩
  split
  · exact Interference.wp_ret stable holds known
  · apply Interference.wp_section stable holds known
    intro s holds known
    obtain ⟨holds, known⟩ := pooled (.write c .closeMark) s closing.mark holds known
    refine ⟨holds, Interference.wp_section stable holds known ?_⟩
    intro s holds known
    obtain ⟨holds, known⟩ := pooled (.write c .closeClear) s closing.clear holds known
    refine ⟨holds, Interference.wp_last stable holds known (fun _done => stable) ?_⟩
    intro s holds known
    exact pooled (.notify c) s closing.notify holds known

/-- Send: one section on the session, then Close where the buffer refused. -/
theorem wp_sendTo {lzo : Lzo} {onClose : UInt32 → α → α} {allowed : IoEvent → Prop}
    {inv : Shared α ω → Prop}
    {kept : ∀ ⦃s : Shared α ω⦄ (event : IoEvent), allowed event → inv s →
      inv (s.io lzo onClose event)}
    {before after : Shared α ω → Prop} {c : Nat} {framed : Bytes} (closing : Closing allowed c)
    (stableBefore : (pool lzo onClose kept).Stable before)
    (stableAfter : (pool lzo onClose kept).Stable after)
    (sent : ∀ s : Shared α ω, inv s → before s →
      inv (s.setConn c ((s.conns c).send lzo framed).1) ∧
        after (s.setConn c ((s.conns c).send lzo framed).1))
    (tested : ∀ s : Shared α ω, inv s → after s →
      inv (s.onWriter c Writer.closeTest) ∧ after (s.onWriter c Writer.closeTest))
    {s : Shared α ω} (holds : inv s) (known : before s) :
    (pool lzo onClose kept).wp (sendTo lzo onClose c framed) (fun _done => after) s := by
  apply Interference.wp_section stableBefore holds known
  intro s holds known
  obtain ⟨holds, known⟩ := sent s holds known
  refine ⟨holds, ?_⟩
  split
  · exact wp_closeSession stableAfter closing tested holds known
  · exact Interference.wp_ret stableAfter holds known

/-- The prologue of dispatch. -/
theorem wp_dispatch {lzo : Lzo} {server : NetServer α ω} {allowed : IoEvent → Prop}
    {inv : Shared α ω → Prop}
    {kept : ∀ ⦃s : Shared α ω⦄ (event : IoEvent), allowed event → inv s →
      inv (s.io lzo server.onClose event)}
    {before after : Shared α ω → Prop} {msg : Message}
    (stableBefore : (pool lzo server.onClose kept).Stable before)
    (stableAfter : (pool lzo server.onClose kept).Stable after)
    (missing : ∀ s : Shared α ω, inv s → before s → s.sessions.lookup msg.clientId = none →
      after s)
    (begun : ∀ (s : Shared α ω) (c : Nat), inv s → before s →
      s.sessions.lookup msg.clientId = some c →
        inv { s with log := .begun c msg :: s.log } ∧
          (pool lzo server.onClose kept).wp (server.handle c msg) (fun _done => after)
            { s with log := .begun c msg :: s.log })
    {s : Shared α ω} (holds : inv s) (known : before s) :
    (pool lzo server.onClose kept).wp (dispatch server msg) (fun _done => after) s := by
  apply Interference.wp_section stableBefore holds known
  intro s holds known
  unfold lookupSession
  cases found : s.sessions.lookup msg.clientId with
  | none => exact ⟨holds, Interference.wp_ret stableAfter holds (missing s holds known found)⟩
  | some c => exact begun s c holds known found

/-- An invariant, an assertion for the times between two ticks and one for the
head of the dispatch loop, with what makes them hold throughout every run. -/
structure LoopProof (lzo : Lzo) (server : NetServer α ω) where
  allowed : IoEvent → Prop
  inv : Shared α ω → Prop
  idle : Shared α ω → Prop
  loop : Shared α ω → Prop
  kept : ∀ ⦃s : Shared α ω⦄ (event : IoEvent), allowed event → inv s →
    inv (s.io lzo server.onClose event)
  idle_io : ∀ ⦃s : Shared α ω⦄ (event : IoEvent), allowed event → inv s → idle s →
    idle (s.io lzo server.onClose event)
  loop_io : ∀ ⦃s : Shared α ω⦄ (event : IoEvent), allowed event → inv s → loop s →
    loop (s.io lzo server.onClose event)
  flipped : ∀ ⦃s : Shared α ω⦄, inv s → idle s → inv s.flip ∧ loop s.flip
  dispatched : ∀ ⦃s : Shared α ω⦄ ⦃msg : Message⦄ ⦃recv : MsgManager⦄, inv s → loop s →
    s.recv.getMsg = some (msg, recv) →
      inv (s.take msg recv) ∧
        (pool lzo server.onClose kept).wp (dispatch server msg) (fun _done => loop)
          (s.take msg recv)
  finished : ∀ ⦃s : Shared α ω⦄, inv s → loop s → s.recv.getMsg = none →
    inv (s.finish lzo server) ∧ idle (s.finish lzo server)

namespace LoopProof

variable {lzo : Lzo} {server : NetServer α ω} (proof : LoopProof lzo server)

def others : Interference (Shared α ω) := pool lzo server.onClose proof.kept

def TickHolds (s : Shared α ω) : Tick α ω → Prop
  | .idle => proof.idle s
  | .draining => proof.loop s
  | .running thread => proof.others.wp thread (fun _done => proof.loop) s

structure Holds (sys : System α ω) : Prop where
  inv : proof.inv sys.shared
  tick : proof.TickHolds sys.shared sys.tick

theorem io_holds {sys : System α ω} (holds : proof.Holds sys) {event : IoEvent}
    (permitted : proof.allowed event) :
    proof.Holds { sys with shared := sys.shared.io lzo server.onClose event } := by
  have inv := holds.inv
  have tick := holds.tick
  refine { inv := proof.kept event permitted inv, tick := ?_ }
  cases phase : sys.tick with
  | idle =>
      rw [phase] at tick
      exact proof.idle_io event permitted inv tick
  | draining =>
      rw [phase] at tick
      exact proof.loop_io event permitted inv tick
  | running thread =>
      rw [phase] at tick
      exact Interference.wp_later tick (.single ⟨event, permitted, rfl⟩)

theorem advance_holds {sys : System α ω} (holds : proof.Holds sys) :
    proof.Holds (sys.advance lzo server) := by
  have inv := holds.inv
  have tick := holds.tick
  unfold System.advance
  split
  · exact holds
  · rename_i phase
    rw [phase] at tick
    split
    · rename_i drained
      obtain ⟨kept, idle⟩ := proof.finished inv tick drained
      exact { inv := kept, tick := idle }
    · rename_i msg recv taken
      obtain ⟨kept, running⟩ := proof.dispatched inv tick taken
      exact { inv := kept, tick := running }
  · rename_i value phase
    rw [phase] at tick
    exact { inv := inv, tick := tick _ .refl inv }
  · rename_i act next phase
    rw [phase] at tick
    obtain ⟨kept, running⟩ := tick _ .refl inv
    exact { inv := kept, tick := running }

/-- The events of a run that the proof is about. -/
def Permitted : Event → Prop
  | .io event => proof.allowed event
  | .update | .next => True

theorem step_holds (sys : System α ω) (event : Event) (holds : proof.Holds sys)
    (permitted : proof.Permitted event) : proof.Holds (sys.step lzo server event) := by
  cases event with
  | io event => exact proof.io_holds holds permitted
  | next => exact proof.advance_holds holds
  | update =>
      simp only [System.step]
      split
      · rename_i phase
        have tick := holds.tick
        rw [phase] at tick
        obtain ⟨kept, loop⟩ := proof.flipped holds.inv tick
        exact { inv := kept, tick := loop }
      · exact holds

/-- From a start that satisfies the invariant and the idle assertion. -/
theorem run_holds {app : α} (inv : proof.inv (.start app)) (idle : proof.idle (.start app))
    {events : List Event} (permitted : ∀ event ∈ events, proof.Permitted event) :
    proof.Holds (run (System.step lzo server) (.start app) events) := by
  have along : Along (System.step lzo server) (.start app) events
      fun _sys event => proof.Permitted event := by
    intro before event after split
    apply permitted
    rw [split]
    exact List.mem_append_right _ List.mem_cons_self
  have start : proof.Holds (.start app) :=
    { inv := inv
      tick := idle }
  exact (always_of_along start proof.step_holds along).last

end LoopProof

end RanOnline.Net
