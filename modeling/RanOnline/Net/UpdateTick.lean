/-
The update tick over Start and Stop.

One wait carries the tick: outstanding, expired and not yet delivered, or its
handler on the way to the next one.  A wait that Stop finds expired is not revoked,
and if the next Start arms a second one beside it both handlers tick.
-/
import RanOnline.Net.Lifecycle

namespace RanOnline.Net

open AsyncOps StepRun

namespace Lifecycle

/-- In OnUpdate. -/
def isTicking : OpState Unit Outcome TimerStage → Bool
  | .running .ticking => true
  | _ => false

def Serialised (s : Lifecycle) : Prop := (s.timers .update).number isTicking ≤ 1

/-- Expired, with its handler not yet run. -/
def expired : OpState Unit Outcome TimerStage → Bool
  | .ready _ .success => true
  | _ => false

/-- A Start that reaches its timers finds no expired wait of the run before. -/
def StartsFresh (s : Lifecycle) : Event → Prop
  | .start onStart listen =>
      s.phase = .down → onStart = true → listen = true →
        (s.timers .update).number expired = 0
  | _ => True

instance (s : Lifecycle) : DecidablePred s.StartsFresh
  | .start _ _ => inferInstanceAs (Decidable (_ → _))
  | .stop | .stopNext | .acceptDone _ _ | .acceptRun _ | .acceptNext _
  | .timerDone _ _ _ | .timerRun _ _ | .timerNext _ _ => isTrue trivial

/-! ### The tick has one carrier -/

/-- On the way to an OnUpdate, or in it. -/
def ticks : OpState Unit Outcome TimerStage → Bool
  | .outstanding _ => true
  | .ready _ outcome => outcome == .success
  | .running (.entered outcome) => outcome == .success
  | .running .ticking | .running .rearming => true
  | .done => false

structure TickInvariant (s : Lifecycle) : Prop where
  joined : s.Joined
  carried : Ops.AtMostOne (fun state => ticks state = true) (s.timers .update)

namespace TickInvariant

theorem initial : TickInvariant Lifecycle.initial where
  joined := fun _down => rfl
  carried := fun _first _second impossible => by cases impossible

theorem serialised {s : Lifecycle} (holds : s.TickInvariant) : s.Serialised := by
  apply Ops.number_le_one
  have carrier : ∀ state, isTicking state = true → ticks state = true := by
    intro state ticking
    unfold isTicking at ticking
    split at ticking
    · rfl
    · cases ticking
  intro first second isFirst isSecond
  exact holds.carried first second (carrier _ isFirst) (carrier _ isSecond)

theorem of_same {s t : Lifecycle} (holds : s.TickInvariant) (joined : t.Joined)
    (timer : t.timers .update = s.timers .update) : t.TickInvariant where
  joined := joined
  carried := by
    rw [timer]
    exact holds.carried

/-- A wait on the other timer, or one on the update timer that takes up no tick. -/
theorem of_setTimer {s : Lifecycle} (holds : s.TickInvariant) {kind : TimerKind}
    {ops : Ops Unit Outcome TimerStage} (joined : (s.setTimer kind ops).Joined)
    (carried : kind = .update → Ops.AtMostOne (fun state => ticks state = true) ops) :
    (s.setTimer kind ops).TickInvariant where
  joined := joined
  carried := by
    cases kind with
    | update => exact carried rfl
    | schedule => exact holds.carried

end TickInvariant

/-- expires_after aborts what is outstanding, so that the new wait is alone where
nothing else carried the tick. -/
theorem arm_carries {ops : Ops Unit Outcome TimerStage}
    (free : ∀ op, ticks (ops.state op) = true → ops.state op = .outstanding ()) :
    Ops.ExactlyOne (fun state => ticks state = true)
      ((ops.cancel (fun _ => true) .aborted).add (.outstanding ())) := by
  refine Ops.exactlyOne_add ?_ rfl
  intro op carrier
  have only := free op
  cases found : ops.state op with
  | outstanding tag =>
      simp only [Ops.cancel, found, if_true] at carrier
      cases carrier
  | ready tag outcome =>
      rw [found] at only
      simp only [Ops.cancel, found] at carrier
      cases only carrier
  | running stage =>
      rw [found] at only
      simp only [Ops.cancel, found] at carrier
      cases only carrier
  | done =>
      simp only [Ops.cancel, found] at carrier
      cases carrier

namespace TickInvariant

theorem start {s : Lifecycle} (holds : s.TickInvariant) {onStart listen : Bool}
    (fresh : s.StartsFresh (.start onStart listen)) :
    (s.start onStart listen).TickInvariant := by
  have joined := joined_step holds.joined (.start onStart listen)
  change (s.start onStart listen).Joined at joined
  rcases s.start_cases onStart listen with ⟨down, started, listens, up⟩ | ⟨more, same⟩
  · rw [up] at joined ⊢
    have idle := Ops.idle_iff.mp ((s.idle_iff.mp (holds.joined down)).2 .update)
    have none := (Ops.number_eq_zero rfl).mp (fresh down started listens)
    constructor
    · exact joined
    apply Ops.ExactlyOne.atMostOne
    change Ops.ExactlyOne _ (((s.timers .update).cancel _ _).add _)
    apply arm_carries
    intro op carrier
    have still := idle op
    have unexpired := none op
    cases found : (s.timers .update).state op with
    | outstanding tag => rfl
    | ready tag outcome =>
        rw [found] at carrier unexpired
        rw [eq_of_beq carrier] at unexpired
        cases unexpired
    | running stage =>
        rw [found] at still
        cases still
    | done =>
        rw [found] at carrier
        cases carrier
  · rw [same] at joined ⊢
    exact holds.of_same joined rfl

theorem stop {s : Lifecycle} (holds : s.TickInvariant) : s.stop.TickInvariant := by
  have joined := joined_step holds.joined .stop
  revert joined
  change s.stop.Joined → _
  unfold Lifecycle.stop
  split
  · exact fun joined => holds.of_same joined rfl
  · exact fun _joined => holds

theorem stopNext {s : Lifecycle} (holds : s.TickInvariant) : s.stopNext.TickInvariant := by
  have joined := joined_step holds.joined .stopNext
  revert joined
  change s.stopNext.Joined → _
  unfold Lifecycle.stopNext
  cases s.phase with
  | down => exact fun _joined => holds
  | up => exact fun _joined => holds
  | closing => exact fun joined => holds.of_same joined rfl
  | cancellingUpdate =>
      intro joined
      refine ⟨joined, ?_⟩
      change Ops.AtMostOne _ ((s.timers .update).cancel _ _)
      apply holds.carried.cancel
      intro _tag carrier
      cases carrier
  | cancellingSchedule => exact fun joined => holds.of_same joined rfl
  | stoppingIo => exact fun joined => holds.of_same joined rfl
  | joining =>
      change Joined (if s.idle then { s with phase := .down } else s) →
        TickInvariant (if s.idle then { s with phase := .down } else s)
      split
      · exact fun joined => holds.of_same joined rfl
      · exact fun _joined => holds

theorem accept {s : Lifecycle} (holds : s.TickInvariant) {event : Event}
    (accept : event.isAccept = true) : (s.step event).TickInvariant := by
  have joined := joined_step holds.joined event
  obtain ⟨ops, same⟩ := s.step_accept accept
  rw [same] at joined ⊢
  exact holds.of_same joined rfl

theorem timerDone {s : Lifecycle} (holds : s.TickInvariant) (kind : TimerKind) (op : Nat)
    (outcome : Outcome) : (s.timerDone kind op outcome).TickInvariant := by
  have joined := joined_step holds.joined (.timerDone kind op outcome)
  revert joined
  change (s.timerDone kind op outcome).Joined → _
  unfold Lifecycle.timerDone
  split
  · exact fun _joined => holds
  · intro joined
    apply holds.of_setTimer joined
    rintro rfl
    exact holds.carried.complete op outcome fun _tag _carrier => rfl

theorem timerRun {s : Lifecycle} (holds : s.TickInvariant) (kind : TimerKind) (op : Nat) :
    (s.timerRun kind op).TickInvariant := by
  have joined := joined_step holds.joined (.timerRun kind op)
  revert joined
  change (s.timerRun kind op).Joined → _
  unfold Lifecycle.timerRun
  split
  · split
    · rename_i found
      intro joined
      apply holds.of_setTimer joined
      rintro rfl
      apply holds.carried.set
      rw [found]
      exact id
    · exact fun _joined => holds
  · exact fun _joined => holds

theorem timerNext {s : Lifecycle} (holds : s.TickInvariant) (kind : TimerKind) (op : Nat) :
    (s.timerNext kind op).TickInvariant := by
  have joined := joined_step holds.joined (.timerNext kind op)
  revert joined
  change (s.timerNext kind op).Joined → _
  unfold Lifecycle.timerNext
  split
  · rename_i found
    intro joined
    apply holds.of_setTimer joined
    rintro rfl
    apply holds.carried.set
    rw [found]
    exact id
  · intro joined
    apply holds.of_setTimer joined
    rintro rfl
    apply holds.carried.set
    intro carrier
    cases carrier
  · rename_i found
    split
    · intro joined
      apply holds.of_setTimer joined
      rintro rfl
      apply holds.carried.set
      rw [found]
      exact id
    · intro joined
      apply holds.of_setTimer joined
      rintro rfl
      apply holds.carried.set
      intro carrier
      cases carrier
  · rename_i found
    intro joined
    unfold armTimer at joined ⊢
    rw [setTimer_setTimer, setTimer_timers] at joined ⊢
    apply holds.of_setTimer joined
    rintro rfl
    apply Ops.ExactlyOne.atMostOne
    apply arm_carries
    intro other carrier
    have ticking : ticks ((s.timers .update).state op) = true := by
      rw [found]
      rfl
    exact absurd carrier (holds.carried.drop ticking Bool.false_ne_true other)
  · exact fun _joined => holds

theorem step {s : Lifecycle} (holds : s.TickInvariant) (event : Event)
    (fresh : s.StartsFresh event) : (s.step event).TickInvariant := by
  cases event with
  | start onStart listen => exact holds.start fresh
  | stop => exact holds.stop
  | stopNext => exact holds.stopNext
  | acceptDone op outcome => exact holds.accept rfl
  | acceptRun op => exact holds.accept rfl
  | acceptNext op => exact holds.accept rfl
  | timerDone kind op outcome => exact holds.timerDone kind op outcome
  | timerRun kind op => exact holds.timerRun kind op
  | timerNext kind op => exact holds.timerNext kind op

end TickInvariant

/-- In every run where no Start finds an expired wait of the run before, one
OnUpdate at most executes at any time. -/
theorem update_tick_serialised {events : List Event}
    (fresh : Along Lifecycle.step initial events StartsFresh) :
    Always Lifecycle.step initial events Serialised := by
  have holds := always_of_along TickInvariant.initial
    (fun _state event holds met => TickInvariant.step holds event met) fresh
  intro before after split
  exact (holds before after split).serialised

/-- Stop comes while OnUpdate executes and the next Start finds the aborted wait. -/
theorem update_tick_serialised_restart :
    Always Lifecycle.step initial
      [.start true true, .timerDone .update 0 .success, .timerRun .update 0,
        .timerNext .update 0, .timerNext .update 0, .stop, .stopNext, .stopNext,
        .timerNext .update 0, .stopNext, .stopNext, .stopNext, .start true true,
        .timerDone .update 2 .success, .timerRun .update 2, .timerNext .update 2] Serialised := by
  apply update_tick_serialised
  decide +kernel

/-- The wait expires, Stop comes before a worker takes its handler, and after the
restart one worker runs that handler and another that of the new wait. -/
def expiredAtStop : List Event :=
  [.start true true, .timerDone .update 0 .success, .stop, .stopNext, .stopNext, .stopNext,
    .stopNext, .stopNext, .start true true, .timerRun .update 0, .timerNext .update 0,
    .timerDone .update 1 .success, .timerRun .update 1, .timerNext .update 1]

theorem update_tick_overlaps : ¬Serialised (run Lifecycle.step initial expiredAtStop) := by
  intro serialised
  revert serialised
  unfold Serialised
  decide +kernel

end Lifecycle

end RanOnline.Net
