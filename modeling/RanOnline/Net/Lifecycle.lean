/-
Start and Stop of the server frame (net/net_server.cpp) over its io_context.

Start and Stop are called one after the other; between the sections of Stop and
between any two sections of a handler the worker pool goes on.  What asio has of the
server is an accept on the listening socket and a wait on each of the two timers,
and what Start and Stop leave of earlier ones: a completion that is ready is not
revoked, and stays ready while the io_context is stopped.
-/
import RanOnline.Lib.AsyncOps
import RanOnline.Lib.StepRun

namespace RanOnline.Net

open AsyncOps StepRun

namespace Lifecycle

/-- The error code of a completion; `error` is any but operation_aborted. -/
inductive Outcome
  | success
  | aborted
  | error
  deriving DecidableEq, Repr

/-- The accept handler after its ec is known: in OnAccept, and past the read of
m_running that lets it accept again. -/
inductive AcceptStage
  | entered (outcome : Outcome)
  | accepting
  | rearming
  deriving DecidableEq, Repr

inductive TimerStage
  | entered (outcome : Outcome)
  | ticking
  | rearming
  deriving DecidableEq, Repr

inductive TimerKind
  | update
  | schedule
  deriving DecidableEq, Repr

/-- `down` before Start and after Stop; past `up` is the section that Stop does next. -/
inductive Phase
  | down
  | up
  | closing
  | cancellingUpdate
  | cancellingSchedule
  | stoppingIo
  | joining
  deriving DecidableEq, Repr

/-- Workers take ready handlers until m_io.stop(). -/
def Phase.takesHandlers : Phase → Bool
  | .up | .closing | .cancellingUpdate | .cancellingSchedule | .stoppingIo => true
  | .down | .joining => false

end Lifecycle

open Lifecycle

/-- Every open of m_acceptor gives a socket with a number of its own; an accept
carries the socket it was started on, none where the acceptor was closed. -/
structure Lifecycle where
  phase : Phase
  acceptor : Option Nat
  sockets : Nat
  accepts : Ops (Option Nat) Outcome AcceptStage
  timers : TimerKind → Ops Unit Outcome TimerStage

namespace Lifecycle

def initial : Lifecycle where
  phase := .down
  acceptor := none
  sockets := 0
  accepts := .empty
  timers := fun _ => .empty

/-- m_running; Start sets it before any worker exists. -/
def isRunning (s : Lifecycle) : Bool := s.phase == .up

def idle (s : Lifecycle) : Bool :=
  s.accepts.idle && ((s.timers .update).idle && (s.timers .schedule).idle)

def setAccept (s : Lifecycle) (op : Nat) (state : OpState (Option Nat) Outcome AcceptStage) :
    Lifecycle :=
  { s with accepts := s.accepts.set op state }

def setTimer (s : Lifecycle) (kind : TimerKind) (ops : Ops Unit Outcome TimerStage) :
    Lifecycle :=
  { s with timers := Function.update s.timers kind ops }

/-- async_accept on a closed acceptor completes at once with bad_descriptor. -/
def doAccept (s : Lifecycle) : Lifecycle :=
  match s.acceptor with
  | some socket => { s with accepts := s.accepts.add (.outstanding (some socket)) }
  | none => { s with accepts := s.accepts.add (.ready none .error) }

def cancelTimer (s : Lifecycle) (kind : TimerKind) : Lifecycle :=
  s.setTimer kind ((s.timers kind).cancel (fun _ => true) .aborted)

/-- armUpdateTimer and armScheduleTimer: expires_after cancels the wait before. -/
def armTimer (s : Lifecycle) (kind : TimerKind) : Lifecycle :=
  s.setTimer kind (((s.timers kind).cancel (fun _ => true) .aborted).add (.outstanding ()))

/-- Start with the outcomes of OnStart and of the listen setup.  The last Stop joined
every worker, so nothing runs before the new pool. -/
def start (s : Lifecycle) (onStart listen : Bool) : Lifecycle :=
  if s.phase = .down then
    if onStart then
      if listen then
        let listening :=
          { s with
            phase := .up
            acceptor := some s.sockets
            sockets := s.sockets + 1 }
        (listening.doAccept.armTimer .update).armTimer .schedule
      else { s with sockets := s.sockets + 1 }
    else s
  else s

def stop (s : Lifecycle) : Lifecycle :=
  if s.isRunning then { s with phase := .closing } else s

/-- acceptor.close() aborts the accepts that are outstanding on its socket. -/
def closeAcceptor (s : Lifecycle) : Lifecycle :=
  { s with
    acceptor := none
    accepts := s.accepts.cancel (fun socket => socket == s.acceptor) .aborted }

/-- The next section of Stop; join() waits for the handlers that still run. -/
def stopNext (s : Lifecycle) : Lifecycle :=
  match s.phase with
  | .down | .up => s
  | .closing => { s.closeAcceptor with phase := .cancellingUpdate }
  | .cancellingUpdate => { s.cancelTimer .update with phase := .cancellingSchedule }
  | .cancellingSchedule => { s.cancelTimer .schedule with phase := .stoppingIo }
  | .stoppingIo => { s with phase := .joining }
  | .joining => if s.idle then { s with phase := .down } else s

/-- The pool runs the reactor, so that nothing completes without it. -/
def acceptDone (s : Lifecycle) (op : Nat) (outcome : Outcome) : Lifecycle :=
  if s.phase = .down then s else { s with accepts := s.accepts.complete op outcome }

def acceptRun (s : Lifecycle) (op : Nat) : Lifecycle :=
  if s.phase.takesHandlers then
    match s.accepts.state op with
    | .ready _socket outcome => s.setAccept op (.running (.entered outcome))
    | _ => s
  else s

/-- The next section of the accept handler. -/
def acceptNext (s : Lifecycle) (op : Nat) : Lifecycle :=
  match s.accepts.state op with
  | .running (.entered .success) => s.setAccept op (.running .accepting)
  | .running (.entered _failed) => s.setAccept op .done
  | .running .accepting =>
      if s.isRunning then s.setAccept op (.running .rearming) else s.setAccept op .done
  | .running .rearming => (s.setAccept op .done).doAccept
  | _ => s

def timerDone (s : Lifecycle) (kind : TimerKind) (op : Nat) (outcome : Outcome) : Lifecycle :=
  if s.phase = .down then s else s.setTimer kind ((s.timers kind).complete op outcome)

def timerRun (s : Lifecycle) (kind : TimerKind) (op : Nat) : Lifecycle :=
  if s.phase.takesHandlers then
    match (s.timers kind).state op with
    | .ready _ outcome => s.setTimer kind ((s.timers kind).set op (.running (.entered outcome)))
    | _ => s
  else s

/-- The next section of a timer handler: the ec, OnUpdate or OnRegularSchedule with
the read of m_running behind it, and the new wait. -/
def timerNext (s : Lifecycle) (kind : TimerKind) (op : Nat) : Lifecycle :=
  match (s.timers kind).state op with
  | .running (.entered .success) => s.setTimer kind ((s.timers kind).set op (.running .ticking))
  | .running (.entered _failed) => s.setTimer kind ((s.timers kind).set op .done)
  | .running .ticking =>
      if s.isRunning then s.setTimer kind ((s.timers kind).set op (.running .rearming))
      else s.setTimer kind ((s.timers kind).set op .done)
  | .running .rearming => (s.setTimer kind ((s.timers kind).set op .done)).armTimer kind
  | _ => s

/-- Calls of Start and Stop, completions in any order, and the pool at any time. -/
inductive Event
  | start (onStart listen : Bool)
  | stop
  | stopNext
  | acceptDone (op : Nat) (outcome : Outcome)
  | acceptRun (op : Nat)
  | acceptNext (op : Nat)
  | timerDone (kind : TimerKind) (op : Nat) (outcome : Outcome)
  | timerRun (kind : TimerKind) (op : Nat)
  | timerNext (kind : TimerKind) (op : Nat)
  deriving DecidableEq, Repr

def step (s : Lifecycle) : Event → Lifecycle
  | .start onStart listen => s.start onStart listen
  | .stop => s.stop
  | .stopNext => s.stopNext
  | .acceptDone op outcome => s.acceptDone op outcome
  | .acceptRun op => s.acceptRun op
  | .acceptNext op => s.acceptNext op
  | .timerDone kind op outcome => s.timerDone kind op outcome
  | .timerRun kind op => s.timerRun kind op
  | .timerNext kind op => s.timerNext kind op

/-- The timer that an event is about. -/
def Event.timer : Event → Option TimerKind
  | .timerDone kind _ _ | .timerRun kind _ | .timerNext kind _ => some kind
  | .start _ _ | .stop | .stopNext | .acceptDone _ _ | .acceptRun _ | .acceptNext _ => none

def Event.isAccept : Event → Bool
  | .acceptDone _ _ | .acceptRun _ | .acceptNext _ => true
  | .start _ _ | .stop | .stopNext | .timerDone _ _ _ | .timerRun _ _ | .timerNext _ _ => false

@[simp] theorem setTimer_timers (s : Lifecycle) (kind : TimerKind)
    (ops : Ops Unit Outcome TimerStage) : (s.setTimer kind ops).timers kind = ops := by
  change Function.update s.timers kind ops kind = ops
  rw [Function.update_self]

@[simp] theorem setTimer_setTimer (s : Lifecycle) (kind : TimerKind)
    (first second : Ops Unit Outcome TimerStage) :
    (s.setTimer kind first).setTimer kind second = s.setTimer kind second := by
  unfold setTimer
  rw [Function.update_idem]

/-! ### What the handlers leave alone -/

/-- The events of a timer change the waits of that timer only. -/
theorem step_timer (s : Lifecycle) {event : Event} {kind : TimerKind}
    (timer : event.timer = some kind) : ∃ ops, s.step event = s.setTimer kind ops := by
  have still : s = s.setTimer kind (s.timers kind) := by
    rw [setTimer, Function.update_eq_self]
  cases event with
  | timerDone other op outcome =>
      cases timer
      change ∃ ops, s.timerDone kind op outcome = _
      unfold timerDone
      split
      · exact ⟨_, still⟩
      · exact ⟨_, rfl⟩
  | timerRun other op =>
      cases timer
      change ∃ ops, s.timerRun kind op = _
      unfold timerRun
      split
      · split
        · exact ⟨_, rfl⟩
        · exact ⟨_, still⟩
      · exact ⟨_, still⟩
  | timerNext other op =>
      cases timer
      change ∃ ops, s.timerNext kind op = _
      unfold timerNext
      split
      · exact ⟨_, rfl⟩
      · exact ⟨_, rfl⟩
      · split
        · exact ⟨_, rfl⟩
        · exact ⟨_, rfl⟩
      · rw [armTimer, setTimer_setTimer]
        exact ⟨_, rfl⟩
      · exact ⟨_, still⟩
  | start => cases timer
  | stop => cases timer
  | stopNext => cases timer
  | acceptDone => cases timer
  | acceptRun => cases timer
  | acceptNext => cases timer

/-- The events of the accept loop change its operations only. -/
theorem step_accept (s : Lifecycle) {event : Event} (accept : event.isAccept = true) :
    ∃ ops, s.step event = { s with accepts := ops } := by
  cases event with
  | acceptDone op outcome =>
      change ∃ ops, s.acceptDone op outcome = _
      unfold acceptDone
      split
      · exact ⟨_, rfl⟩
      · exact ⟨_, rfl⟩
  | acceptRun op =>
      change ∃ ops, s.acceptRun op = _
      unfold acceptRun
      split
      · split
        · exact ⟨_, rfl⟩
        · exact ⟨_, rfl⟩
      · exact ⟨_, rfl⟩
  | acceptNext op =>
      change ∃ ops, s.acceptNext op = _
      unfold acceptNext
      split
      · exact ⟨_, rfl⟩
      · exact ⟨_, rfl⟩
      · split
        · exact ⟨_, rfl⟩
        · exact ⟨_, rfl⟩
      · unfold doAccept
        split
        · exact ⟨_, rfl⟩
        · exact ⟨_, rfl⟩
      · exact ⟨_, rfl⟩
  | start => cases accept
  | stop => cases accept
  | stopNext => cases accept
  | timerDone => cases accept
  | timerRun => cases accept
  | timerNext => cases accept

theorem acceptNext_phase (s : Lifecycle) (op : Nat) : (s.acceptNext op).phase = s.phase := by
  obtain ⟨ops, same⟩ := @step_accept s (.acceptNext op) rfl
  have phases := congrArg Lifecycle.phase same
  exact phases

theorem timerNext_phase (s : Lifecycle) (kind : TimerKind) (op : Nat) :
    (s.timerNext kind op).phase = s.phase := by
  obtain ⟨ops, same⟩ := @step_timer s (.timerNext kind op) kind rfl
  have phases := congrArg Lifecycle.phase same
  exact phases

/-! ### Between Stop and Start no handler runs -/

theorem idle_iff (s : Lifecycle) :
    s.idle = true ↔
      s.accepts.idle = true ∧ ∀ kind, (s.timers kind).idle = true := by
  rw [idle, Bool.and_eq_true, Bool.and_eq_true]
  constructor
  · rintro ⟨accepts, update, schedule⟩
    refine ⟨accepts, ?_⟩
    intro kind
    cases kind with
    | update => exact update
    | schedule => exact schedule
  · rintro ⟨accepts, timers⟩
    exact ⟨accepts, timers .update, timers .schedule⟩

private theorem not_running {τ ρ σ : Type} {ops : Ops τ ρ σ} (idle : ops.idle = true) (op : Nat)
    (stage : σ) : ops.state op ≠ .running stage := by
  intro running
  have still := Ops.idle_iff.mp idle op
  rw [running] at still
  cases still

theorem acceptNext_idle {s : Lifecycle} (idle : s.accepts.idle = true) (op : Nat) :
    s.acceptNext op = s := by
  unfold acceptNext
  split
  · rename_i running
    exact absurd running (not_running idle op _)
  · rename_i running
    exact absurd running (not_running idle op _)
  · rename_i running
    exact absurd running (not_running idle op _)
  · rename_i running
    exact absurd running (not_running idle op _)
  · rfl

theorem timerNext_idle {s : Lifecycle} {kind : TimerKind} (idle : (s.timers kind).idle = true)
    (op : Nat) : s.timerNext kind op = s := by
  unfold timerNext
  split
  · rename_i running
    exact absurd running (not_running idle op _)
  · rename_i running
    exact absurd running (not_running idle op _)
  · rename_i running
    exact absurd running (not_running idle op _)
  · rename_i running
    exact absurd running (not_running idle op _)
  · rfl

/-- Every worker was joined. -/
def Joined (s : Lifecycle) : Prop := s.phase = .down → s.idle = true

theorem start_cases (s : Lifecycle) (onStart listen : Bool) :
    (s.phase = .down ∧ onStart = true ∧ listen = true ∧
      s.start onStart listen =
        (({ s with
            phase := .up
            acceptor := some s.sockets
            sockets := s.sockets + 1 } : Lifecycle).doAccept.armTimer .update).armTimer .schedule) ∨
      ∃ more, s.start onStart listen = { s with sockets := s.sockets + more } := by
  unfold start
  by_cases down : s.phase = .down
  · rw [if_pos down]
    cases onStart with
    | false => exact Or.inr ⟨0, rfl⟩
    | true =>
        cases listen with
        | false => exact Or.inr ⟨1, rfl⟩
        | true => exact Or.inl ⟨down, rfl, rfl, rfl⟩
  · rw [if_neg down]
    exact Or.inr ⟨0, rfl⟩

theorem joined_step {s : Lifecycle} (joined : s.Joined) (event : Event) :
    (s.step event).Joined := by
  cases event with
  | start onStart listen =>
      rcases s.start_cases onStart listen with ⟨_down, _started, _listens, up⟩ | ⟨more, same⟩
      · change (s.start onStart listen).Joined
        rw [up]
        intro down
        cases down
      · change (s.start onStart listen).Joined
        rw [same]
        exact joined
  | stop =>
      change Joined (if s.isRunning then { s with phase := .closing } else s)
      split
      · intro down
        cases down
      · exact joined
  | stopNext =>
      change Joined s.stopNext
      unfold stopNext
      split
      · exact joined
      · exact joined
      · intro down
        cases down
      · intro down
        cases down
      · intro down
        cases down
      · intro down
        cases down
      · split
        · rename_i idle
          exact fun _down => idle
        · exact joined
  | acceptDone op outcome =>
      change Joined (if s.phase = .down then s else _)
      split
      · exact joined
      · rename_i up
        exact fun down => absurd down up
  | acceptRun op =>
      change Joined (s.acceptRun op)
      unfold acceptRun
      split
      · rename_i takes
        split
        · intro down
          change s.phase = .down at down
          rw [down] at takes
          cases takes
        · exact joined
      · exact joined
  | acceptNext op =>
      intro down
      change (s.acceptNext op).phase = .down at down
      rw [acceptNext_phase] at down
      have idle := joined down
      change (s.acceptNext op).idle = true
      rw [acceptNext_idle (s.idle_iff.mp idle).1]
      exact idle
  | timerDone kind op outcome =>
      change Joined (if s.phase = .down then s else _)
      split
      · exact joined
      · rename_i up
        exact fun down => absurd down up
  | timerRun kind op =>
      change Joined (s.timerRun kind op)
      unfold timerRun
      split
      · rename_i takes
        split
        · intro down
          change s.phase = .down at down
          rw [down] at takes
          cases takes
        · exact joined
      · exact joined
  | timerNext kind op =>
      intro down
      change (s.timerNext kind op).phase = .down at down
      rw [timerNext_phase] at down
      have idle := joined down
      change (s.timerNext kind op).idle = true
      rw [timerNext_idle ((s.idle_iff.mp idle).2 kind)]
      exact idle

end Lifecycle

end RanOnline.Net
