/-
Stop returns.

Once m_io.stop() has been called no worker takes up a handler any more.  Those that
run go through the sections that are left to them, whatever else happens, and join()
waits for the last one.
-/
import RanOnline.Lib.Schedule
import RanOnline.Net.Lifecycle

namespace RanOnline.Net

open AsyncOps StepRun

namespace Lifecycle

/-! ### The sections that are left -/

def AcceptStage.left : AcceptStage → Nat
  | .entered _ => 3
  | .accepting => 2
  | .rearming => 1

def TimerStage.left : TimerStage → Nat
  | .entered _ => 3
  | .ticking => 2
  | .rearming => 1

inductive Handler
  | accept (op : Nat)
  | timer (kind : TimerKind) (op : Nat)
  deriving DecidableEq

def Handler.next : Handler → Event
  | .accept op => .acceptNext op
  | .timer kind op => .timerNext kind op

def load (s : Lifecycle) : Handler → Nat
  | .accept op => s.accepts.load AcceptStage.left op
  | .timer kind op => (s.timers kind).load TimerStage.left op

theorem idle_of_load {s : Lifecycle} (none : ∀ handler, s.load handler = 0) : s.idle = true := by
  apply s.idle_iff.mpr
  constructor
  · have positive : ∀ stage : AcceptStage, 0 < stage.left := by
      intro stage
      cases stage <;> exact Nat.succ_pos _
    exact Ops.idle_of_load positive fun op => none (.accept op)
  · intro kind
    have positive : ∀ stage : TimerStage, 0 < stage.left := by
      intro stage
      cases stage <;> exact Nat.succ_pos _
    exact Ops.idle_of_load positive fun op => none (.timer kind op)

theorem load_setTimer (s : Lifecycle) (kind : TimerKind) (ops : Ops Unit Outcome TimerStage)
    (other : TimerKind) (op : Nat) :
    (s.setTimer kind ops).load (.timer other op) =
      if other = kind then ops.load TimerStage.left op else s.load (.timer other op) := by
  change (Function.update s.timers kind ops other).load TimerStage.left op = _
  rw [Function.update_apply]
  split <;> rfl

theorem acceptNext_advances (s : Lifecycle) (op : Nat) :
    Ops.Advances AcceptStage.left op s.accepts (s.acceptNext op).accepts := by
  unfold acceptNext
  cases found : s.accepts.state op with
  | running stage =>
      cases stage with
      | entered outcome =>
          cases outcome with
          | success => exact Ops.advances_set found (by decide)
          | aborted => exact Ops.advances_set found (by decide)
          | error => exact Ops.advances_set found (by decide)
      | accepting =>
          simp only
          split
          · exact Ops.advances_set found (by decide)
          · exact Ops.advances_set found (by decide)
      | rearming =>
          have finished : Ops.Advances AcceptStage.left op s.accepts (s.accepts.set op .done) :=
            Ops.advances_set found (by decide)
          simp only [doAccept]
          split
          · exact finished.congr fun other => Ops.load_add rfl other
          · exact finished.congr fun other => Ops.load_add rfl other
  | outstanding tag => exact Ops.advances_still (by rw [Ops.load, found]; rfl)
  | ready tag result => exact Ops.advances_still (by rw [Ops.load, found]; rfl)
  | done => exact Ops.advances_still (by rw [Ops.load, found]; rfl)

theorem timerNext_advances (s : Lifecycle) (kind : TimerKind) (op : Nat) :
    Ops.Advances TimerStage.left op (s.timers kind) ((s.timerNext kind op).timers kind) := by
  unfold timerNext
  cases found : (s.timers kind).state op with
  | running stage =>
      cases stage with
      | entered outcome =>
          cases outcome with
          | success =>
              rw [setTimer_timers]
              exact Ops.advances_set found (by decide)
          | aborted =>
              rw [setTimer_timers]
              exact Ops.advances_set found (by decide)
          | error =>
              rw [setTimer_timers]
              exact Ops.advances_set found (by decide)
      | ticking =>
          simp only
          split
          · rw [setTimer_timers]
            exact Ops.advances_set found (by decide)
          · rw [setTimer_timers]
            exact Ops.advances_set found (by decide)
      | rearming =>
          have finished : Ops.Advances TimerStage.left op (s.timers kind)
            ((s.timers kind).set op .done) := Ops.advances_set found (by decide)
          simp only [armTimer, setTimer_timers]
          exact finished.congr fun other => (Ops.load_add rfl other).trans (Ops.load_cancel _ _ other)
  | outstanding tag => exact Ops.advances_still (by rw [Ops.load, found]; rfl)
  | ready tag result => exact Ops.advances_still (by rw [Ops.load, found]; rfl)
  | done => exact Ops.advances_still (by rw [Ops.load, found]; rfl)

/-- A section of a running handler. -/
theorem load_next (s : Lifecycle) (handler : Handler) (busy : s.load handler ≠ 0) :
    (s.step handler.next).load handler < s.load handler := by
  cases handler with
  | accept op => exact (s.acceptNext_advances op).lowered busy
  | timer kind op => exact (s.timerNext_advances kind op).lowered busy

/-- While join() waits nothing gives a handler more to do. -/
theorem load_step {s : Lifecycle} (joining : s.phase = .joining) (event : Event)
    (handler : Handler) : (s.step event).load handler ≤ s.load handler := by
  have timerOnly {event : Event} {kind : TimerKind} (timer : event.timer = some kind)
      (own : ∀ op, ((s.step event).timers kind).load TimerStage.left op ≤
        (s.timers kind).load TimerStage.left op) : (s.step event).load handler ≤ s.load handler := by
    obtain ⟨ops, same⟩ := s.step_timer timer
    rw [same] at own ⊢
    cases handler with
    | accept op => exact Nat.le_refl _
    | timer other op =>
        rw [load_setTimer]
        split
        · rename_i here
          have less := own op
          rw [setTimer_timers] at less
          rw [here]
          exact less
        · exact Nat.le_refl _
  have acceptOnly {event : Event} (accept : event.isAccept = true)
      (own : ∀ op, (s.step event).accepts.load AcceptStage.left op ≤
        s.accepts.load AcceptStage.left op) : (s.step event).load handler ≤ s.load handler := by
    cases handler with
    | accept op => exact own op
    | timer kind op =>
        obtain ⟨ops, same⟩ := s.step_accept accept
        rw [same]
        exact Nat.le_refl _
  have noNew : s.phase.takesHandlers = false := by
    rw [joining]
    rfl
  cases event with
  | start onStart listen =>
      change (s.start onStart listen).load handler ≤ _
      rcases s.start_cases onStart listen with ⟨down, _rest⟩ | ⟨more, same⟩
      · rw [joining] at down
        cases down
      · rw [same]
        exact Nat.le_refl _
  | stop =>
      change (if s.isRunning then _ else s).load handler ≤ _
      rw [isRunning, joining]
      exact Nat.le_refl _
  | stopNext =>
      change s.stopNext.load handler ≤ _
      unfold stopNext
      rw [joining]
      simp only
      split
      · exact Nat.le_refl _
      · exact Nat.le_refl _
  | acceptDone op outcome =>
      apply acceptOnly rfl
      intro other
      change ((s.acceptDone op outcome).accepts).load AcceptStage.left other ≤ _
      unfold acceptDone
      split
      · exact Nat.le_refl _
      · exact Nat.le_of_eq (Ops.load_complete op outcome other)
  | acceptRun op =>
      apply acceptOnly rfl
      intro other
      change ((s.acceptRun op).accepts).load AcceptStage.left other ≤ _
      rw [acceptRun, noNew]
      exact Nat.le_refl _
  | acceptNext op => exact acceptOnly rfl (s.acceptNext_advances op).others
  | timerDone kind op outcome =>
      apply timerOnly rfl
      intro other
      change ((s.timerDone kind op outcome).timers kind).load TimerStage.left other ≤ _
      unfold timerDone
      split
      · exact Nat.le_refl _
      · rw [setTimer_timers]
        exact Nat.le_of_eq (Ops.load_complete op outcome other)
  | timerRun kind op =>
      apply timerOnly rfl
      intro other
      change ((s.timerRun kind op).timers kind).load TimerStage.left other ≤ _
      rw [timerRun, noNew]
      exact Nat.le_refl _
  | timerNext kind op => exact timerOnly rfl (s.timerNext_advances kind op).others

/-! ### The sections of Stop -/

def Phase.isStopping : Phase → Bool
  | .down | .up => false
  | .closing | .cancellingUpdate | .cancellingSchedule | .stoppingIo | .joining => true

/-- The sections of Stop come from its own thread only. -/
theorem phase_step {s : Lifecycle} (stopping : s.phase.isStopping = true) {event : Event}
    (other : event ≠ .stopNext) : (s.step event).phase = s.phase := by
  cases event with
  | start onStart listen =>
      change (s.start onStart listen).phase = _
      rcases s.start_cases onStart listen with ⟨down, _rest⟩ | ⟨more, same⟩
      · rw [down] at stopping
        cases stopping
      · rw [same]
  | stop =>
      change (if s.isRunning then _ else s).phase = _
      split
      · rename_i running
        rw [eq_of_beq running] at stopping
        cases stopping
      · rfl
  | stopNext => exact absurd rfl other
  | acceptDone op outcome =>
      obtain ⟨ops, same⟩ := @step_accept s (.acceptDone op outcome) rfl
      rw [same]
  | acceptRun op =>
      obtain ⟨ops, same⟩ := @step_accept s (.acceptRun op) rfl
      rw [same]
  | acceptNext op => exact s.acceptNext_phase op
  | timerDone kind op outcome =>
      obtain ⟨ops, same⟩ := @step_timer s (.timerDone kind op outcome) kind rfl
      rw [same]
      rfl
  | timerRun kind op =>
      obtain ⟨ops, same⟩ := @step_timer s (.timerRun kind op) kind rfl
      rw [same]
      rfl
  | timerNext kind op => exact s.timerNext_phase kind op

/-- Stop has returned, and no handler runs. -/
structure Returned (s : Lifecycle) : Prop where
  down : s.phase = .down
  idle : s.idle = true

theorem joining_step {s : Lifecycle} (joining : s.phase = .joining) (event : Event) :
    (s.step event).phase = .joining ∨ (s.step event).Returned := by
  by_cases next : event = .stopNext
  · rw [next]
    change s.stopNext.phase = _ ∨ s.stopNext.Returned
    unfold stopNext
    rw [joining]
    simp only
    split
    · rename_i idle
      exact Or.inr ⟨rfl, idle⟩
    · exact Or.inl joining
  · left
    rw [phase_step (by rw [joining]; rfl) next, joining]

/-- join() waits for no handler but these. -/
structure WaitsFor (handlers : List Handler) (s : Lifecycle) : Prop where
  joining : s.phase = .joining
  others : ∀ handler, handler ∉ handlers → s.load handler = 0

theorem waitsFor_step {handlers : List Handler} {s : Lifecycle} (waits : s.WaitsFor handlers)
    (event : Event) : (s.step event).WaitsFor handlers ∨ (s.step event).Returned := by
  rcases joining_step waits.joining event with joining | returned
  · left
    constructor
    · exact joining
    · intro handler outside
      have less := load_step waits.joining event handler
      rw [waits.others handler outside] at less
      exact Nat.le_zero.mp less
  · exact Or.inr returned

/-- The handlers that were ever started. -/
def handlers (s : Lifecycle) : List Handler :=
  (List.range s.accepts.count).map Handler.accept ++
    (List.range (s.timers .update).count).map (Handler.timer .update) ++
    (List.range (s.timers .schedule).count).map (Handler.timer .schedule)

theorem waitsFor_handlers {s : Lifecycle} (joining : s.phase = .joining) :
    s.WaitsFor s.handlers := by
  constructor
  · exact joining
  · intro handler outside
    simp only [handlers, List.mem_append, List.mem_map, List.mem_range, not_or, not_exists,
      not_and] at outside
    obtain ⟨⟨accepts, update⟩, schedule⟩ := outside
    cases handler with
    | accept op => exact Ops.load_beyond (Nat.not_lt.mp fun known => accepts op known rfl)
    | timer kind op =>
        cases kind with
        | update => exact Ops.load_beyond (Nat.not_lt.mp fun known => update op known rfl)
        | schedule => exact Ops.load_beyond (Nat.not_lt.mp fun known => schedule op known rfl)

/-! ### Under a fair schedule -/

section Schedules

variable {start : Lifecycle} {schedule : Nat → Event}

/-- Stop has returned at some time from this one on. -/
def ReturnsFrom (start : Lifecycle) (schedule : Nat → Event) (time : Nat) : Prop :=
  ∃ later, time ≤ later ∧ (stateAt step start schedule later).Returned

theorem ReturnsFrom.earlier {time later : Nat} (returns : ReturnsFrom start schedule later)
    (before : time ≤ later) : ReturnsFrom start schedule time := by
  obtain ⟨last, after, returned⟩ := returns
  exact ⟨last, Nat.le_trans before after, returned⟩

/-- One section of Stop after the other. -/
theorem leads_on (goes : Often (· = .stopNext) schedule) {phase next : Phase}
    (stopping : phase.isStopping = true)
    (turns : ∀ s : Lifecycle, s.phase = phase → s.stopNext.phase = next) {time : Nat}
    (here : (stateAt step start schedule time).phase = phase) :
    ∃ later, time ≤ later ∧ (stateAt step start schedule later).phase = next := by
  have kept : ∀ (s : Lifecycle) event, ¬event = .stopNext → s.phase = phase →
      (s.step event).phase = phase := by
    intro s event other known
    rw [phase_step (by rw [known]; exact stopping) other, known]
  have driven : ∀ (s : Lifecycle) event, event = .stopNext → s.phase = phase →
      (s.step event).phase = next := by
    intro s event same known
    rw [same]
    exact turns s known
  obtain ⟨later, after, there⟩ := @Often.leads _ _ step _ _ goes (fun s => s.phase = phase)
    (fun s => s.phase = next) start kept driven time here
  exact ⟨later, Nat.le_of_lt after, there⟩

/-- Stop comes to join(). -/
theorem reaches_join (goes : Often (· = .stopNext) schedule) {time : Nat}
    (stopping : (stateAt step start schedule time).phase.isStopping = true) :
    ∃ later, time ≤ later ∧ (stateAt step start schedule later).phase = .joining := by
  have fromIo {time : Nat} (here : (stateAt step start schedule time).phase = .stoppingIo) :
      ∃ later, time ≤ later ∧ (stateAt step start schedule later).phase = .joining := by
    apply leads_on goes rfl _ here
    intro s known
    rw [stopNext, known]
  have fromSchedule {time : Nat}
      (here : (stateAt step start schedule time).phase = .cancellingSchedule) :
      ∃ later, time ≤ later ∧ (stateAt step start schedule later).phase = .joining := by
    obtain ⟨later, after, there⟩ := leads_on goes rfl
      (fun s known => show s.stopNext.phase = .stoppingIo by rw [stopNext, known]) here
    obtain ⟨last, further, joining⟩ := fromIo there
    exact ⟨last, Nat.le_trans after further, joining⟩
  have fromUpdate {time : Nat}
      (here : (stateAt step start schedule time).phase = .cancellingUpdate) :
      ∃ later, time ≤ later ∧ (stateAt step start schedule later).phase = .joining := by
    obtain ⟨later, after, there⟩ := leads_on goes rfl
      (fun s known => show s.stopNext.phase = .cancellingSchedule by rw [stopNext, known]) here
    obtain ⟨last, further, joining⟩ := fromSchedule there
    exact ⟨last, Nat.le_trans after further, joining⟩
  cases here : (stateAt step start schedule time).phase with
  | down =>
      rw [here] at stopping
      cases stopping
  | up =>
      rw [here] at stopping
      cases stopping
  | closing =>
      obtain ⟨later, after, there⟩ := leads_on goes rfl
        (fun s known => show s.stopNext.phase = .cancellingUpdate by rw [stopNext, known]) here
      obtain ⟨last, further, joining⟩ := fromUpdate there
      exact ⟨last, Nat.le_trans after further, joining⟩
  | cancellingUpdate => exact fromUpdate here
  | cancellingSchedule => exact fromSchedule here
  | stoppingIo => exact fromIo here
  | joining => exact ⟨time, Nat.le_refl _, here⟩

/-- As long as Stop has not returned, what join() waits for does not grow. -/
theorem waits_reaches {kind : Event → Prop} (often : Often kind schedule)
    {handlers : List Handler} {handler : Handler} {bound time : Nat}
    (waits : (stateAt step start schedule time).WaitsFor handlers)
    (within : (stateAt step start schedule time).load handler ≤ bound) :
    ReturnsFrom start schedule time ∨
      ∃ later, time ≤ later ∧ kind (schedule later) ∧
        (stateAt step start schedule later).WaitsFor handlers ∧
        (stateAt step start schedule later).load handler ≤ bound := by
  have kept : ∀ moment, ¬kind (schedule moment) →
      (time ≤ moment ∧ (ReturnsFrom start schedule time ∨
        (stateAt step start schedule moment).WaitsFor handlers ∧
          (stateAt step start schedule moment).load handler ≤ bound)) →
      time ≤ moment + 1 ∧ (ReturnsFrom start schedule time ∨
        (stateAt step start schedule (moment + 1)).WaitsFor handlers ∧
          (stateAt step start schedule (moment + 1)).load handler ≤ bound) := by
    rintro moment _other ⟨since, returns | ⟨waiting, less⟩⟩
    · exact ⟨by omega, Or.inl returns⟩
    · refine ⟨by omega, ?_⟩
      rcases waitsFor_step waiting (schedule moment) with still | returned
      · exact Or.inr ⟨still, Nat.le_trans (load_step waiting.joining _ handler) less⟩
      · exact Or.inl ⟨moment + 1, by omega, returned⟩
  obtain ⟨later, after, here, _since, returns | ⟨waiting, less⟩⟩ :=
    often.reaches kept ⟨Nat.le_refl time, Or.inr ⟨waits, within⟩⟩
  · exact Or.inl returns
  · exact Or.inr ⟨later, after, here, waiting, less⟩

/-- One handler of those that join() waits for comes to its end. -/
theorem handler_returns {handler : Handler} (runs : Often (· = handler.next) schedule)
    {rest : List Handler} (bound : Nat) {time : Nat}
    (waits : (stateAt step start schedule time).WaitsFor (handler :: rest))
    (within : (stateAt step start schedule time).load handler ≤ bound) :
    ReturnsFrom start schedule time ∨
      ∃ later, time ≤ later ∧ (stateAt step start schedule later).WaitsFor rest := by
  induction bound generalizing time with
  | zero =>
      right
      refine ⟨time, Nat.le_refl _, waits.joining, ?_⟩
      intro other outside
      by_cases here : other = handler
      · rw [here]
        exact Nat.le_zero.mp within
      · exact waits.others other (List.not_mem_cons_of_ne_of_not_mem here outside)
  | succ bound ih =>
      rcases waits_reaches runs waits within with returns | ⟨later, after, here, waiting, less⟩
      · exact Or.inl returns
      · rcases waitsFor_step waiting (schedule later) with still | returned
        · have lower : (stateAt step start schedule (later + 1)).load handler ≤ bound := by
            change ((stateAt step start schedule later).step (schedule later)).load handler ≤ bound
            by_cases busy : (stateAt step start schedule later).load handler = 0
            · have grown := load_step waiting.joining (schedule later) handler
              omega
            · have lowered := load_next _ handler busy
              rw [here]
              omega
          have next : (stateAt step start schedule (later + 1)).WaitsFor (handler :: rest) := still
          rcases ih next lower with returns | ⟨last, further, found⟩
          · exact Or.inl (returns.earlier (by omega))
          · exact Or.inr ⟨last, by omega, found⟩
        · exact Or.inl ⟨later + 1, by omega, returned⟩

theorem join_returns (goes : Often (· = .stopNext) schedule)
    (runs : ∀ handler : Handler, Often (· = handler.next) schedule) (waiting : List Handler)
    {time : Nat} (waits : (stateAt step start schedule time).WaitsFor waiting) :
    ReturnsFrom start schedule time := by
  induction waiting generalizing time with
  | nil =>
      rcases @waits_reaches start schedule _ goes [] (.accept 0) _ time waits (Nat.le_refl _) with
        returns | ⟨later, after, here, still, _less⟩
      · exact returns
      · refine ⟨later + 1, by omega, ?_⟩
        have idle := idle_of_load fun handler => still.others handler List.not_mem_nil
        change ((stateAt step start schedule later).step (schedule later)).Returned
        rw [here]
        change (stateAt step start schedule later).stopNext.Returned
        rw [stopNext, still.joining]
        simp only
        rw [if_pos idle]
        exact ⟨rfl, idle⟩
  | cons handler rest ih =>
      rcases handler_returns (runs handler) _ waits (Nat.le_refl _) with
        returns | ⟨later, after, fewer⟩
      · exact returns
      · exact (ih fewer).earlier after

/-- Under every schedule in which Stop and the handlers of the accept and of the two timers get
their turns, a Stop that has begun returns, whatever was accepted, expired or completed
meanwhile, and then none of these handlers runs. -/
theorem stop_returns (schedule : Nat → Event) (goes : Often (· = .stopNext) schedule)
    (runs : ∀ handler : Handler, Often (· = handler.next) schedule) (time : Nat)
    (stopping : (stateAt step initial schedule time).phase.isStopping = true) :
    ∃ later, time ≤ later ∧ (stateAt step initial schedule later).phase = .down ∧
      (stateAt step initial schedule later).idle = true := by
  obtain ⟨joins, after, joining⟩ := reaches_join goes stopping
  obtain ⟨later, further, returned⟩ := join_returns goes runs _ (waitsFor_handlers joining)
  exact ⟨later, Nat.le_trans after further, returned.down, returned.idle⟩

/-- The server is started and accepts a client while it is stopped; then all take turns. -/
def stopUnderway : Nat → Event :=
  allTurns [.start true true, .acceptDone 0 .success, .acceptRun 0, .stop] fun turn =>
    if turn % 4 = 0 then .stopNext
    else if turn % 4 = 1 then .acceptNext (turn / 4)
    else if turn % 4 = 2 then .timerNext .update (turn / 4)
    else .timerNext .schedule (turn / 4)

theorem stop_returns_underway :
    ∃ later, 4 ≤ later ∧ (stateAt step initial stopUnderway later).phase = .down ∧
      (stateAt step initial stopUnderway later).idle = true := by
  have turn (which : Nat) := often_allTurns
    [.start true true, .acceptDone 0 .success, .acceptRun 0, .stop] (fun turn =>
      if turn % 4 = 0 then Event.stopNext
      else if turn % 4 = 1 then .acceptNext (turn / 4)
      else if turn % 4 = 2 then .timerNext .update (turn / 4)
      else .timerNext .schedule (turn / 4)) which
  refine stop_returns stopUnderway (turn 0) ?_ 4 rfl
  intro handler
  cases handler with
  | accept op =>
      have own := turn (4 * op + 1)
      simp only [show (4 * op + 1) % 4 = 1 by omega, show (4 * op + 1) / 4 = op by omega] at own
      exact own
  | timer kind op =>
      cases kind with
      | update =>
          have own := turn (4 * op + 2)
          simp only [show (4 * op + 2) % 4 = 2 by omega, show (4 * op + 2) / 4 = op by omega] at own
          exact own
      | schedule =>
          have own := turn (4 * op + 3)
          simp only [show (4 * op + 3) % 4 = 3 by omega, show (4 * op + 3) / 4 = op by omega] at own
          exact own

end Schedules

end Lifecycle

end RanOnline.Net
