/-
The accept loop over Start, Stop and every outcome of async_accept.

One operation carries the loop: the accept on the listening socket, or its handler
on the way to the next one.  The handler gives it up when the ec is set, and the
completion of an earlier socket, run after a restart, takes up a second one.
-/
import RanOnline.Net.Lifecycle

namespace RanOnline.Net

open AsyncOps StepRun

namespace Lifecycle

/-- Outstanding, or completed and not yet delivered, on that socket. -/
def pendingOn (socket : Option Nat) : OpState (Option Nat) Outcome AcceptStage → Bool
  | .outstanding on => on == socket
  | .ready on _ => on == socket
  | .running _ | .done => false

/-- While the server runs and no accept handler executes, one accept is pending on
the listening socket. -/
def Accepting (s : Lifecycle) : Prop :=
  s.isRunning = true → s.accepts.idle = true → s.accepts.number (pendingOn s.acceptor) = 1

/-- The completion has no error if it is of an accept on the listening socket, and
one if it is of an earlier socket. -/
def SoundOn (listening : Option Nat) : OpState (Option Nat) Outcome AcceptStage → Prop
  | .ready socket outcome => outcome = .success ↔ socket = listening
  | .outstanding _ | .running _ | .done => True

instance (listening : Option Nat) : DecidablePred (SoundOn listening)
  | .ready _ _ => inferInstanceAs (Decidable (_ ↔ _))
  | .outstanding _ | .running _ | .done => isTrue trivial

/-- While the server runs, the handlers that are entered are those of such
completions. -/
def AcceptSound (s : Lifecycle) : Event → Prop
  | .acceptRun op => s.isRunning = true → SoundOn s.acceptor (s.accepts.state op)
  | _ => True

instance (s : Lifecycle) : DecidablePred s.AcceptSound
  | .acceptRun _ => inferInstanceAs (Decidable (_ → _))
  | .start _ _ | .stop | .stopNext | .acceptDone _ _ | .acceptNext _
  | .timerDone _ _ _ | .timerRun _ _ | .timerNext _ _ => isTrue trivial

/-! ### The loop has one carrier -/

def carries (socket : Option Nat) : OpState (Option Nat) Outcome AcceptStage → Bool
  | .outstanding on => on == socket
  | .ready on _ => on == socket
  | .running (.entered outcome) => outcome == .success
  | .running .accepting | .running .rearming => true
  | .done => false

/-- The socket was numbered before. -/
def Known (sockets : Nat) : OpState (Option Nat) Outcome AcceptStage → Prop
  | .outstanding on => ∀ socket, on = some socket → socket < sockets
  | .ready on _ => ∀ socket, on = some socket → socket < sockets
  | .running _ | .done => True

theorem Known.later {sockets later : Nat} (le : sockets ≤ later)
    {state : OpState (Option Nat) Outcome AcceptStage} (known : Known sockets state) :
    Known later state := by
  cases state with
  | outstanding on => exact fun socket same => (known socket same).trans_le le
  | ready on outcome => exact fun socket same => (known socket same).trans_le le
  | running stage => trivial
  | done => trivial

/-- Where no handler runs, an accept that is not numbered carries nothing. -/
theorem Known.not_carries {sockets : Nat} {state : OpState (Option Nat) Outcome AcceptStage}
    (known : Known sockets state) (still : state.isRunning = false) :
    ¬carries (some sockets) state = true := by
  intro carrier
  cases state with
  | outstanding on => exact absurd (known sockets (eq_of_beq carrier)) (Nat.lt_irrefl sockets)
  | ready on outcome => exact absurd (known sockets (eq_of_beq carrier)) (Nat.lt_irrefl sockets)
  | running stage => cases still
  | done => cases carrier

structure LoopInvariant (s : Lifecycle) : Prop where
  joined : s.Joined
  listening : ∀ socket, s.acceptor = some socket → socket < s.sockets
  known : ∀ op, Known s.sockets (s.accepts.state op)
  carried : s.isRunning = true →
    Ops.ExactlyOne (fun state => carries s.acceptor state = true) s.accepts

namespace LoopInvariant

theorem initial : LoopInvariant Lifecycle.initial where
  joined := fun _down => rfl
  listening := fun _socket impossible => by cases impossible
  known := fun _op => trivial
  carried := fun impossible => by cases impossible

theorem accepting {s : Lifecycle} (holds : s.LoopInvariant) : s.Accepting := by
  intro running idle
  have still := Ops.idle_iff.mp idle
  have same : ∀ op,
      pendingOn s.acceptor (s.accepts.state op) = carries s.acceptor (s.accepts.state op) := by
    intro op
    have here := still op
    cases found : s.accepts.state op with
    | outstanding on => rfl
    | ready on outcome => rfl
    | running stage =>
        rw [found] at here
        cases here
    | done => rfl
  obtain ⟨op, carrier, only⟩ := holds.carried running
  apply Ops.number_eq_one _ rfl
  refine ⟨op, (same op).trans carrier, ?_⟩
  intro other pending
  exact only other ((same other).symm.trans pending)

/-- The timers have no part in it. -/
theorem of_same {s t : Lifecycle} (holds : s.LoopInvariant) (joined : t.Joined)
    (phase : t.phase = s.phase) (acceptor : t.acceptor = s.acceptor)
    (sockets : t.sockets = s.sockets) (accepts : t.accepts = s.accepts) : t.LoopInvariant where
  joined := joined
  listening := by
    rw [acceptor, sockets]
    exact holds.listening
  known := by
    rw [sockets, accepts]
    exact holds.known
  carried := by
    rw [isRunning, phase, acceptor, accepts]
    exact holds.carried

/-- Outside `up` the loop has nothing to carry. -/
theorem of_stopped {s : Lifecycle} (joined : s.Joined)
    (listening : ∀ socket, s.acceptor = some socket → socket < s.sockets)
    (known : ∀ op, Known s.sockets (s.accepts.state op)) (stopped : s.isRunning = false) :
    s.LoopInvariant where
  joined := joined
  listening := listening
  known := known
  carried := by
    rw [stopped]
    intro impossible
    cases impossible

/-- An accept started while nothing carries the loop carries it. -/
theorem of_doAccept {s : Lifecycle} (joined : s.doAccept.Joined)
    (listening : ∀ socket, s.acceptor = some socket → socket < s.sockets)
    (known : ∀ op, Known s.sockets (s.accepts.state op))
    (free : s.isRunning = true → ∀ op, ¬carries s.acceptor (s.accepts.state op) = true) :
    s.doAccept.LoopInvariant := by
  revert joined
  unfold doAccept
  split
  · rename_i socket opened
    intro joined
    refine
      { joined := joined
        listening := listening
        known := Ops.forall_add known ?_
        carried := ?_ }
    · intro other same
      cases same
      exact listening socket opened
    · intro running
      apply Ops.exactlyOne_add (free running)
      change (some socket == s.acceptor) = true
      rw [opened]
      exact beq_self_eq_true _
  · rename_i closed
    intro joined
    refine
      { joined := joined
        listening := listening
        known := Ops.forall_add known ?_
        carried := ?_ }
    · intro other same
      cases same
    · intro running
      apply Ops.exactlyOne_add (free running)
      change (none == s.acceptor) = true
      rw [closed]
      exact beq_self_eq_true _

/-- A handler goes on, with or without the loop. -/
theorem of_setAccept {s : Lifecycle} (holds : s.LoopInvariant) {op : Nat}
    {before after : OpState (Option Nat) Outcome AcceptStage}
    (found : s.accepts.state op = before) (used : before ≠ .done)
    (joined : (s.setAccept op after).Joined) (known : Known s.sockets after)
    (kept : s.isRunning = true →
      (carries s.acceptor after = true ↔ carries s.acceptor before = true)) :
    (s.setAccept op after).LoopInvariant where
  joined := joined
  listening := holds.listening
  known := Ops.forall_set holds.known op known
  carried := fun running => (holds.carried running).set found used (kept running)

theorem start {s : Lifecycle} (holds : s.LoopInvariant) (onStart listen : Bool) :
    (s.start onStart listen).LoopInvariant := by
  have joined := joined_step holds.joined (.start onStart listen)
  change (s.start onStart listen).Joined at joined
  rcases s.start_cases onStart listen with ⟨down, _started, _listens, up⟩ | ⟨more, same⟩
  · rw [up] at joined ⊢
    have idle := (s.idle_iff.mp (holds.joined down)).1
    apply of_same (s := ({ s with
      phase := .up
      acceptor := some s.sockets
      sockets := s.sockets + 1 } : Lifecycle).doAccept) _ joined rfl rfl rfl rfl
    apply of_doAccept
    · intro impossible
      cases impossible
    · intro socket opened
      cases opened
      exact Nat.lt_succ_self s.sockets
    · intro op
      exact (holds.known op).later (Nat.le_succ s.sockets)
    · intro _running op
      exact (holds.known op).not_carries (Ops.idle_iff.mp idle op)
  · rw [same] at joined ⊢
    exact
      { joined := joined
        listening := fun socket opened => (holds.listening socket opened).trans_le
          (Nat.le_add_right _ _)
        known := fun op => (holds.known op).later (Nat.le_add_right _ _)
        carried := holds.carried }

theorem stop {s : Lifecycle} (holds : s.LoopInvariant) : s.stop.LoopInvariant := by
  have joined := joined_step holds.joined .stop
  revert joined
  change s.stop.Joined → _
  unfold Lifecycle.stop
  split
  · intro joined
    exact of_stopped joined holds.listening holds.known rfl
  · intro _joined
    exact holds

theorem stopNext {s : Lifecycle} (holds : s.LoopInvariant) : s.stopNext.LoopInvariant := by
  have joined := joined_step holds.joined .stopNext
  revert joined
  change s.stopNext.Joined → _
  unfold Lifecycle.stopNext
  cases s.phase with
  | down => exact fun _joined => holds
  | up => exact fun _joined => holds
  | closing =>
      intro joined
      apply of_stopped joined _ _ rfl
      · intro socket opened
        cases opened
      · exact Ops.forall_cancel holds.known _ _ fun _on known => known
  | cancellingUpdate =>
      intro joined
      exact of_stopped joined holds.listening holds.known rfl
  | cancellingSchedule =>
      intro joined
      exact of_stopped joined holds.listening holds.known rfl
  | stoppingIo =>
      intro joined
      exact of_stopped joined holds.listening holds.known rfl
  | joining =>
      change Joined (if s.idle then { s with phase := .down } else s) →
        LoopInvariant (if s.idle then { s with phase := .down } else s)
      split
      · intro joined
        exact of_stopped joined holds.listening holds.known rfl
      · exact fun _joined => holds

theorem acceptDone {s : Lifecycle} (holds : s.LoopInvariant) (op : Nat) (outcome : Outcome) :
    (s.acceptDone op outcome).LoopInvariant := by
  have joined := joined_step holds.joined (.acceptDone op outcome)
  revert joined
  change (s.acceptDone op outcome).Joined → _
  unfold Lifecycle.acceptDone
  split
  · exact fun _joined => holds
  · intro joined
    exact
      { joined := joined
        listening := holds.listening
        known := Ops.forall_complete holds.known op outcome fun _on known => known
        carried := fun running => (holds.carried running).complete op outcome fun _on => Iff.rfl }

theorem acceptRun {s : Lifecycle} (holds : s.LoopInvariant) (op : Nat)
    (sound : s.AcceptSound (.acceptRun op)) : (s.acceptRun op).LoopInvariant := by
  have joined := joined_step holds.joined (.acceptRun op)
  revert joined
  change (s.acceptRun op).Joined → _
  unfold Lifecycle.acceptRun
  split
  · split
    · rename_i socket outcome found
      intro joined
      apply holds.of_setAccept found (by intro impossible; cases impossible) joined trivial
      intro running
      change (outcome == .success) = true ↔ (socket == s.acceptor) = true
      rw [beq_iff_eq, beq_iff_eq]
      have here := sound running
      rw [found] at here
      exact here
    · exact fun _joined => holds
  · exact fun _joined => holds

theorem acceptNext {s : Lifecycle} (holds : s.LoopInvariant) (op : Nat) :
    (s.acceptNext op).LoopInvariant := by
  have joined := joined_step holds.joined (.acceptNext op)
  revert joined
  change (s.acceptNext op).Joined → _
  unfold Lifecycle.acceptNext
  split
  · rename_i found
    intro joined
    exact holds.of_setAccept found (by intro impossible; cases impossible) joined trivial
      fun _running => Iff.rfl
  · rename_i outcome failed found
    intro joined
    apply holds.of_setAccept found (by intro impossible; cases impossible) joined trivial
    intro _running
    constructor
    · intro carrier
      cases carrier
    · intro carrier
      exact absurd (eq_of_beq carrier) failed
  · rename_i found
    split
    · intro joined
      exact holds.of_setAccept found (by intro impossible; cases impossible) joined trivial
        fun _running => Iff.rfl
    · rename_i stopped
      intro joined
      exact holds.of_setAccept found (by intro impossible; cases impossible) joined trivial
        fun running => absurd running stopped
  · rename_i found
    intro joined
    have known : ∀ other, Known s.sockets ((s.accepts.set op .done).state other) :=
      Ops.forall_set holds.known op trivial
    apply of_doAccept joined holds.listening known
    intro running
    apply (holds.carried running).atMostOne.drop
    · rw [found]
      rfl
    · exact Bool.false_ne_true
  · exact fun _joined => holds

theorem timer {s : Lifecycle} (holds : s.LoopInvariant) {event : Event} {kind : TimerKind}
    (timer : event.timer = some kind) : (s.step event).LoopInvariant := by
  have joined := joined_step holds.joined event
  obtain ⟨ops, same⟩ := s.step_timer timer
  rw [same] at joined ⊢
  exact holds.of_same joined rfl rfl rfl rfl

theorem step {s : Lifecycle} (holds : s.LoopInvariant) (event : Event)
    (sound : s.AcceptSound event) : (s.step event).LoopInvariant := by
  cases event with
  | start onStart listen => exact holds.start onStart listen
  | stop => exact holds.stop
  | stopNext => exact holds.stopNext
  | acceptDone op outcome => exact holds.acceptDone op outcome
  | acceptRun op => exact holds.acceptRun op sound
  | acceptNext op => exact holds.acceptNext op
  | timerDone kind op outcome => exact holds.timer rfl
  | timerRun kind op => exact holds.timer rfl
  | timerNext kind op => exact holds.timer rfl

end LoopInvariant

/-- In every run that enters no accept handler with an error on the listening socket
or with a success on an earlier one, the accept loop survives. -/
theorem accept_loop_survives {events : List Event}
    (sound : Along Lifecycle.step initial events AcceptSound) :
    Always Lifecycle.step initial events Accepting := by
  have holds := always_of_along LoopInvariant.initial
    (fun _state event holds met => LoopInvariant.step holds event met) sound
  intro before after split
  exact (holds before after split).accepting

/-- Two connections, a Stop that finds the third accept outstanding, and a restart. -/
theorem accept_loop_survives_restart :
    Always Lifecycle.step initial
      [.start true true, .acceptDone 0 .success, .acceptRun 0, .acceptNext 0, .acceptNext 0,
        .acceptNext 0, .acceptDone 1 .success, .acceptRun 1, .acceptNext 1, .acceptNext 1,
        .acceptNext 1, .stop, .stopNext, .stopNext, .stopNext, .stopNext, .stopNext,
        .start true true, .acceptRun 2, .acceptNext 2, .acceptDone 3 .success] Accepting := by
  apply accept_loop_survives
  decide +kernel

/-- EMFILE on the first accept: the handler returns and nothing accepts again. -/
def acceptError : List Event :=
  [.start true true, .acceptDone 0 .error, .acceptRun 0, .acceptNext 0]

/-- A connection that was accepted when Stop was called is handled after the restart
and accepts once more beside the new loop. -/
def acceptRestart : List Event :=
  [.start true true, .acceptDone 0 .success, .stop, .stopNext, .stopNext, .stopNext, .stopNext,
    .stopNext, .start true true, .acceptRun 0, .acceptNext 0, .acceptNext 0, .acceptNext 0]

theorem accept_loop_lost_or_doubled :
    ¬Accepting (run Lifecycle.step initial acceptError) ∧
      ¬Accepting (run Lifecycle.step initial acceptRestart) := by
  constructor
  · intro accepting
    have lost := accepting (by decide +kernel) (by decide +kernel)
    revert lost
    decide +kernel
  · intro accepting
    have doubled := accepting (by decide +kernel) (by decide +kernel)
    revert doubled
    decide +kernel

end Lifecycle

end RanOnline.Net
