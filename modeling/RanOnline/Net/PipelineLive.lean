/-
No message waits for ever on its way from a session to dispatch.

Under a schedule in which the session is run, the timer fires and the thread of the
tick moves on again and again, what a session has decoded is inserted, and the
OnUpdate that begins after that dispatches it.
-/
import RanOnline.Net.Pipeline

namespace RanOnline.Net

open Memory StepRun Threads

variable {α ω : Type} {lzo : Lzo} {server : GameServer α ω} {app : α}

/-- The events of a schedule before this time. -/
def eventsBefore {ε : Type} (schedule : Nat → ε) (time : Nat) : List ε :=
  (List.range time).map schedule

theorem eventsBefore_succ {ε : Type} (schedule : Nat → ε) (time : Nat) :
    eventsBefore schedule (time + 1) = eventsBefore schedule time ++ [schedule time] := by
  rw [eventsBefore, List.range_succ, List.map_append, List.map_singleton]
  rfl

/-- The events between two times. -/
def eventsFrom {ε : Type} (schedule : Nat → ε) (start count : Nat) : List ε :=
  (List.range count).map fun index => schedule (start + index)

theorem eventsBefore_add {ε : Type} (schedule : Nat → ε) (start count : Nat) :
    eventsBefore schedule (start + count) =
      eventsBefore schedule start ++ eventsFrom schedule start count := by
  rw [eventsBefore, List.range_add, List.map_append, List.map_map]
  rfl

theorem reached_eventsBefore (schedule : Nat → Event) (time : Nat) :
    reached lzo server app (eventsBefore schedule time) =
      stateAt (System.step lzo server.toNetServer) (.start app) schedule time :=
  (stateAt_eq_run _ _ _ _).symm

/-! ### What has been inserted stays inserted -/

theorem insertedBy_grows (schedule : Nat → Event) {time later : Nat} (after : time ≤ later) :
    insertedBy lzo server app (eventsBefore schedule time) <+:
      insertedBy lzo server app (eventsBefore schedule later) := by
  obtain ⟨count, rfl⟩ := Nat.exists_eq_add_of_le after
  rw [eventsBefore_add, insertedBy, insertedBy, outputs_append]
  exact List.prefix_append _ _

/-! ### The next OnUpdate -/

/-- Between two ticks nothing but the timer starts OnUpdate. -/
theorem idle_kept (sys : System α ω) {event : Event} (other : event ≠ .update)
    (idle : sys.tick.isIdle = true) :
    (sys.step lzo server.toNetServer event).tick.isIdle = true := by
  cases event with
  | io event => exact idle
  | update => exact absurd rfl other
  | next =>
      obtain ⟨shared, tick⟩ := sys
      cases tick with
      | idle => rfl
      | draining => cases idle
      | running thread => cases idle

theorem update_busy (sys : System α ω) (idle : sys.tick.isIdle = true) :
    (sys.step lzo server.toNetServer .update).tick.isIdle = false := by
  obtain ⟨shared, tick⟩ := sys
  cases tick with
  | idle => rfl
  | draining => cases idle
  | running thread => cases idle

/-- The state after these events of the schedule is the one at that time. -/
theorem run_eventsFrom (schedule : Nat → Event) (start count : Nat) :
    run (System.step lzo server.toNetServer)
        (reached lzo server app (eventsBefore schedule start)) (eventsFrom schedule start count) =
      stateAt (System.step lzo server.toNetServer) (.start app) schedule (start + count) := by
  rw [← reached_eventsBefore, eventsBefore_add, reached, reached, run_append]

theorem eventsFrom_succ {ε : Type} (schedule : Nat → ε) (start count : Nat) :
    eventsFrom schedule start (count + 1) =
      schedule start :: eventsFrom schedule (start + 1) count := by
  rw [eventsFrom, List.range_succ_eq_map, List.map_cons, List.map_map]
  congr 1
  apply List.map_congr_left
  intro index _member
  change schedule (start + (index + 1)) = schedule (start + 1 + index)
  rw [Nat.add_assoc, Nat.add_comm 1]

theorem eventsFrom_split {ε : Type} {schedule : Nat → ε} {start count : Nat}
    {first rest : List ε} (split : eventsFrom schedule start count = first ++ rest) :
    first = eventsFrom schedule start first.length ∧ first.length + rest.length = count := by
  have length := congrArg List.length split
  rw [eventsFrom, List.length_map, List.length_range, List.length_append] at length
  constructor
  · have shown := congrArg (List.take first.length) split
    rw [List.take_left, eventsFrom, ← List.map_take, List.take_range,
      Nat.min_eq_left (by omega)] at shown
    exact shown.symm
  · exact length.symm

/-- An OnUpdate that begins after a given time, up to its return. -/
theorem next_update {schedule : Nat → Event} (ticks : Often (· = .update) schedule)
    (runs : Often (· = .next) schedule) (time : Nat) :
    ∃ start count, time ≤ start ∧ schedule start = .update ∧
      OneUpdate lzo server.toNetServer (reached lzo server app (eventsBefore schedule start))
        (eventsFrom schedule (start + 1) count) := by
  classical
  let idleAt : Nat → Prop := fun moment =>
    (stateAt (System.step lzo server.toNetServer) (.start app) schedule moment).tick.isIdle = true
  obtain ⟨quiet, after, idle⟩ : ∃ later, time ≤ later ∧ idleAt later := update_returns runs time
  have waits : ∀ moment, schedule moment ≠ .update → idleAt moment → idleAt (moment + 1) :=
    fun _moment other => idle_kept _ other
  obtain ⟨start, further, fires, starts⟩ := ticks.reaches waits idle
  have busy : ¬idleAt (start + 1) := by
    intro impossible
    change ((stateAt (System.step lzo server.toNetServer) (.start app) schedule start).step lzo
      server.toNetServer (schedule start)).tick.isIdle = true at impossible
    rw [fires, update_busy _ starts] at impossible
    cases impossible
  have returns : ∃ count, idleAt (start + 1 + count) := by
    obtain ⟨later, since, idle⟩ : ∃ later, start + 1 ≤ later ∧ idleAt later :=
      update_returns runs (start + 1)
    exact ⟨later - (start + 1), by rwa [Nat.add_sub_cancel' since]⟩
  have driven : ∀ count, run (System.step lzo server.toNetServer)
      (reached lzo server app (eventsBefore schedule start))
      (.update :: eventsFrom schedule (start + 1) count) =
        stateAt (System.step lzo server.toNetServer) (.start app) schedule (start + 1 + count) := by
    intro count
    rw [← fires, ← eventsFrom_succ, run_eventsFrom]
    congr 1
    omega
  refine ⟨start, Nat.find returns, Nat.le_trans after further, fires, ?_, ?_, ?_⟩
  · rw [reached_eventsBefore]
    exact starts
  · intro first rest split nonempty
    obtain ⟨same, shorter⟩ := eventsFrom_split split
    have positive := List.length_pos_iff.mpr nonempty
    have missed := Nat.find_min returns (show first.length < Nat.find returns by omega)
    rw [same, driven]
    exact Bool.eq_false_iff.mpr missed
  · rw [driven]
    exact Nat.find_spec returns

/-- What waits in the queues at some time has been dispatched when that OnUpdate
returns. -/
theorem inserted_dispatched {schedule : Nat → Event} (ticks : Often (· = .update) schedule)
    (runs : Often (· = .next) schedule) (time : Nat) :
    ∃ later, time ≤ later ∧
      (reached lzo server app (eventsBefore schedule later)).tick.isIdle = true ∧
      (insertedBy lzo server app (eventsBefore schedule time)).map Prod.snd <+:
        dispatched lzo server app (eventsBefore schedule later) := by
  obtain ⟨start, count, after, fires, update⟩ : ∃ start count, time ≤ start ∧
      schedule start = .update ∧ OneUpdate lzo server.toNetServer
        (reached lzo server app (eventsBefore schedule start))
        (eventsFrom schedule (start + 1) count) := next_update ticks runs time
  refine ⟨start + (count + 1), by omega, ?_, ?_⟩
  · have returned := update.returns
    rwa [← fires, ← eventsFrom_succ, run_eventsFrom, ← reached_eventsBefore] at returned
  · rw [eventsBefore_add, eventsFrom_succ, fires, updates_of_flow update]
    exact (insertedBy_grows schedule after).map Prod.snd

/-! ### From the session to the queue -/

/-- What a step inserts for one connection. -/
def System.insertsFor (c : Nat) (sys : System α ω) (event : Event) : List Message :=
  ((sys.inserts event).filter fun entry => entry.1 = c).map Prod.snd

theorem reached_snoc (events : List Event) (event : Event) :
    reached lzo server app (events ++ [event]) =
      (reached lzo server app events).step lzo server.toNetServer event := run_snoc _ _ _ _

theorem deliveredBy_snoc (c : Nat) (events : List Event) (event : Event) :
    deliveredBy lzo server app c (events ++ [event]) =
      deliveredBy lzo server app c events ++
        (reached lzo server app events).insertsFor c event := by
  rw [deliveredBy, insertedBy, outputs_snoc, List.filter_append, List.map_append]
  rfl

theorem setConn_delivering {s : Shared α ω} {other : Nat} {session : Session}
    (same : session.delivering = (s.conns other).delivering) (c : Nat) :
    ((s.setConn other session).conns c).delivering = (s.conns c).delivering := by
  by_cases here : c = other
  · subst here
    rw [Shared.setConn_same, same]
  · rw [s.setConn_other here]

/-- OnUpdate has no part in what sessions still have to hand on. -/
theorem next_delivering {sys : System α ω} {inserted : List (Nat × Message)}
    (flow : Flow lzo sys inserted) (c : Nat) :
    ((sys.advance lzo server.toNetServer).shared.conns c).delivering =
      (sys.shared.conns c).delivering := by
  obtain ⟨shared, tick⟩ := sys
  cases tick with
  | idle => rfl
  | draining =>
      simp only [System.advance]
      split
      · exact ((Shared.Outward.finish lzo server.toNetServer shared).conns c).1.delivering
      · rfl
  | running thread =>
      cases thread with
      | ret value => rfl
      | step act next => exact ((flow.tick shared).1.conns c).1.delivering

/-- A read begins only when all messages of the last one are inserted. -/
theorem read_delivering {s : Shared α ω} (inbound : Inbound lzo s) (c : Nat) (chunk : Bytes) :
    ∃ more, ((s.conns c).read lzo chunk).delivering = (s.conns c).delivering ++ more := by
  by_cases reading : (s.conns c).reading = true
  · rw [inbound.waits c reading]
    exact ⟨_, rfl⟩
  · refine ⟨[], ?_⟩
    rw [Session.read, if_neg reading, List.append_nil]

/-- The messages of a finished read stay in line until they are inserted. -/
theorem delivering_io {sys : System α ω} (inbound : Inbound lzo sys.shared)
    (onClose : UInt32 → α → α) (c : Nat) (event : IoEvent) :
    ∃ more, sys.insertsFor c (.io event) ++
        ((sys.shared.io lzo onClose event).conns c).delivering =
      (sys.shared.conns c).delivering ++ more := by
  cases event with
  | accept remote =>
      refine ⟨[], ?_⟩
      change (Function.update sys.shared.conns sys.shared.accepted _ c).delivering = _
      rw [List.append_nil]
      by_cases fresh : c = sys.shared.accepted
      · rw [fresh, Function.update_self, (inbound.absent _ (Nat.le_refl _)).2]
        rfl
      · rw [Function.update_of_ne fresh]
  | read other chunk =>
      by_cases here : c = other
      · subst here
        obtain ⟨more, read⟩ := read_delivering inbound c chunk
        refine ⟨more, ?_⟩
        change ((sys.shared.setConn c _).conns c).delivering = _
        rw [Shared.setConn_same, read]
      · refine ⟨[], ?_⟩
        change ((sys.shared.setConn other _).conns c).delivering = _
        rw [sys.shared.setConn_other here, List.append_nil]
  | readError other =>
      refine ⟨[], ?_⟩
      rw [List.append_nil]
      apply setConn_delivering
      unfold Session.readError
      split <;> rfl
  | deliver other =>
      refine ⟨[], ?_⟩
      simp only [System.insertsFor, System.inserts, Shared.io, List.append_nil]
      cases delivered : (sys.shared.conns other).deliver with
      | none => rfl
      | some handed =>
          obtain ⟨msg, session⟩ := handed
          have line := Session.deliver_delivering delivered
          by_cases here : other = c
          · subst here
            simp only [List.filter_cons, decide_true, if_true, List.filter_nil, List.map_cons,
              List.map_nil, Shared.setConn_same, line, List.singleton_append]
          · have elsewhere := sys.shared.setConn_other (Ne.symm here) session
            simp only [List.filter_cons, here, decide_false, Bool.false_eq_true, if_false,
              List.filter_nil, List.map_nil, List.nil_append, elsewhere]
  | endpoint other remote =>
      refine ⟨[], ?_⟩
      rw [List.append_nil]
      apply setConn_delivering
      rfl
  | write other event =>
      refine ⟨[], ?_⟩
      rw [List.append_nil]
      simp only [Shared.io]
      split
      · apply setConn_delivering
        rfl
      · rfl
  | notify other =>
      refine ⟨[], ?_⟩
      rw [List.append_nil]
      exact ((Shared.Outward.notify onClose sys.shared other).conns c).1.delivering

theorem delivering_step {sys : System α ω} {inserted : List (Nat × Message)}
    (flow : Flow lzo sys inserted) (c : Nat) (event : Event) :
    ∃ more, sys.insertsFor c event ++
        ((sys.step lzo server.toNetServer event).shared.conns c).delivering =
      (sys.shared.conns c).delivering ++ more := by
  cases event with
  | io event => exact delivering_io flow.inbound server.onClose c event
  | update =>
      refine ⟨[], ?_⟩
      rw [List.append_nil]
      simp only [System.step]
      split <;> rfl
  | next =>
      refine ⟨[], ?_⟩
      rw [List.append_nil]
      exact next_delivering flow c

/-- What a session has decoded by some time is at the head of what it will have
inserted and of what it still has to insert. -/
theorem decoded_grows (schedule : Nat → Event) (c : Nat) {decoded : List Message} {time : Nat}
    (holds : decoded <+: deliveredBy lzo server app c (eventsBefore schedule time) ++
      ((reached lzo server app (eventsBefore schedule time)).shared.conns c).delivering)
    {later : Nat} (after : time ≤ later) :
    decoded <+: deliveredBy lzo server app c (eventsBefore schedule later) ++
      ((reached lzo server app (eventsBefore schedule later)).shared.conns c).delivering := by
  induction later, after using Nat.le_induction with
  | base => exact holds
  | succ later _after ih =>
      have flow : Flow lzo (reached lzo server app (eventsBefore schedule later)) _ :=
        reached_flow _
      obtain ⟨more, line⟩ := @delivering_step _ _ _ server _ _ flow c (schedule later)
      rw [eventsBefore_succ, deliveredBy_snoc, reached_snoc, List.append_assoc, line,
        ← List.append_assoc]
      exact ih.trans (List.prefix_append _ _)

theorem deliveredBy_grows (schedule : Nat → Event) (c : Nat) {time later : Nat}
    (after : time ≤ later) :
    deliveredBy lzo server app c (eventsBefore schedule time) <+:
      deliveredBy lzo server app c (eventsBefore schedule later) :=
  ((insertedBy_grows schedule after).filter _).map Prod.snd

/-- The handler of a read inserts the messages one by one. -/
theorem deliveredBy_longer (schedule : Nat → Event) {c time : Nat}
    (delivers : schedule time = .io (.deliver c))
    (waits : ((reached lzo server app (eventsBefore schedule time)).shared.conns c).delivering ≠
      []) :
    (deliveredBy lzo server app c (eventsBefore schedule time)).length <
      (deliveredBy lzo server app c (eventsBefore schedule (time + 1))).length := by
  have handed : ∀ sys : System α ω, (sys.shared.conns c).delivering ≠ [] →
      (sys.insertsFor c (.io (.deliver c))).length = 1 := by
    intro sys nonempty
    simp only [System.insertsFor, System.inserts]
    split
    · rename_i none
      unfold Session.deliver at none
      split at none
      · rename_i empty
        exact absurd empty nonempty
      · cases none
    · simp only [List.filter_cons, decide_true, if_true, List.filter_nil, List.map_cons,
        List.map_nil, List.length_singleton]
  rw [eventsBefore_succ, deliveredBy_snoc, delivers, List.length_append, handed _ waits]
  exact Nat.lt_succ_self _

theorem decoded_inserted {schedule : Nat → Event} {c : Nat}
    (delivers : Often (· = .io (.deliver c)) schedule) (time : Nat) :
    ∃ later, time ≤ later ∧
      deliveredBy lzo server app c (eventsBefore schedule time) ++
          ((reached lzo server app (eventsBefore schedule time)).shared.conns c).delivering <+:
        deliveredBy lzo server app c (eventsBefore schedule later) := by
  generalize wanted : deliveredBy lzo server app c (eventsBefore schedule time) ++
    ((reached lzo server app (eventsBefore schedule time)).shared.conns c).delivering = decoded
  have grows : ∀ later, time ≤ later → decoded <+:
      deliveredBy lzo server app c (eventsBefore schedule later) ++
        ((reached lzo server app (eventsBefore schedule later)).shared.conns c).delivering :=
    fun later after => decoded_grows schedule c (wanted ▸ List.prefix_refl _) after
  let counted : Nat → Nat :=
    fun moment => (deliveredBy lzo server app c (eventsBefore schedule moment)).length
  let goal : Nat → Prop := fun moment => time ≤ moment →
    decoded <+: deliveredBy lzo server app c (eventsBefore schedule moment)
  have progress : ∀ moment, ¬goal moment → ∃ later, moment ≤ later ∧
      (goal later ∨ decoded.length - counted later < decoded.length - counted moment) := by
    intro moment missed
    obtain ⟨since, _short⟩ := Classical.not_imp.mp missed
    obtain ⟨turn, after, delivered⟩ := delivers moment
    rcases prefix_left_or_longer (grows turn (Nat.le_trans since after)) with done | ⟨more, waits⟩
    · exact ⟨turn, after, Or.inl fun _since => done⟩
    · have longer : counted turn < counted (turn + 1) :=
        deliveredBy_longer schedule delivered waits
      have earlier : counted moment ≤ counted turn :=
        (deliveredBy_grows schedule c after).length_le
      have short : counted turn < decoded.length := more
      exact ⟨turn + 1, Nat.le_succ_of_le after, Or.inr (by omega)⟩
  obtain ⟨later, after, reached⟩ := eventually_of_measure progress time
  exact ⟨later, after, reached after⟩

/-- Where the session's handler, the timer and the thread of the tick get on again and
again, every message that the session has decoded is dispatched when some later
OnUpdate returns. -/
theorem decoded_dispatched (lzo : Lzo) (server : GameServer α ω) (app : α)
    {schedule : Nat → Event} {c : Nat}
    (delivers : Often (· = .io (.deliver c)) schedule) (ticks : Often (· = .update) schedule)
    (runs : Often (· = .next) schedule) (time : Nat) :
    ∃ between later, time ≤ between ∧ between ≤ later ∧
      (reached lzo server app (eventsBefore schedule later)).tick.isIdle = true ∧
      deliveredBy lzo server app c (eventsBefore schedule time) ++
          ((reached lzo server app (eventsBefore schedule time)).shared.conns c).delivering <+:
        deliveredBy lzo server app c (eventsBefore schedule between) ∧
      (insertedBy lzo server app (eventsBefore schedule between)).map Prod.snd <+:
        dispatched lzo server app (eventsBefore schedule later) := by
  obtain ⟨between, after, inserted⟩ : ∃ later, time ≤ later ∧
      deliveredBy lzo server app c (eventsBefore schedule time) ++
          ((reached lzo server app (eventsBefore schedule time)).shared.conns c).delivering <+:
        deliveredBy lzo server app c (eventsBefore schedule later) :=
    decoded_inserted delivers time
  obtain ⟨later, further, idle, done⟩ : ∃ later, between ≤ later ∧
      (reached lzo server app (eventsBefore schedule later)).tick.isIdle = true ∧
      (insertedBy lzo server app (eventsBefore schedule between)).map Prod.snd <+:
        dispatched lzo server app (eventsBefore schedule later) :=
    inserted_dispatched ticks runs between
  exact ⟨between, later, after, further, idle, inserted, done⟩

end RanOnline.Net
