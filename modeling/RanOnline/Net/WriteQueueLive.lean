/-
No packet waits for ever in the write queue of a session.

A queue that is not empty is served by exactly one thread or one async_write, unless
the session is being closed; and while the link stays up, every packet is written
under every fair schedule.
-/
import RanOnline.Lib.Schedule
import RanOnline.Net.Closing

namespace RanOnline.Net

open Memory StepRun

namespace Writer

/-! ### No lost wakeup -/

/-- Who is at work on the queue: a thread between enqueueWrite or a completion and
doWrite, one between the section of doWrite and async_write, or the write itself. -/
def working (w : Writer) : Nat := w.starting + w.picked.length + w.inFlight.length

structure Served (w : Writer) : Prop where
  inv : w.Inv
  busy : w.writeInProgress = true → w.working = 1 ∨ w.Doomed
  waits : w.writeQueue ≠ [] → w.writeInProgress = true

theorem served_new : new.Served := by
  constructor
  · exact inv_new
  · intro impossible
    cases impossible
  · intro impossible
    exact absurd rfl impossible

/-- A step that leaves the three counts of workers and the queue alone. -/
theorem Served.kept {w : Writer} (served : w.Served) {event : Event}
    (progress : (w.step event).writeInProgress = w.writeInProgress)
    (working : (w.step event).working = w.working)
    (queue : (w.step event).writeQueue ≠ [] → w.writeQueue ≠ []) : (w.step event).Served := by
  constructor
  · exact step_inv served.inv event
  · intro busy
    rw [progress] at busy
    rw [working]
    exact (served.busy busy).imp id fun doomed => step_doomed doomed event
  · intro waits
    rw [progress]
    exact served.waits (queue waits)

/-- What the threads of doWrite work on. -/
def serving (w : Writer) : List Packet × Bool × Nat × List Flight × List Flight :=
  (w.writeQueue, w.writeInProgress, w.starting, w.picked, w.inFlight)

theorem closeTest_serving (w : Writer) : w.closeTest.serving = w.serving := by
  unfold closeTest
  split <;> rfl

theorem closeMark_serving (w : Writer) : w.closeMark.serving = w.serving := by
  unfold closeMark
  split <;> rfl

theorem closeNotify_serving (w : Writer) : w.closeNotify.serving = w.serving := by
  unfold closeNotify
  split <;> rfl

theorem Served.congr {w : Writer} (served : w.Served) {event : Event}
    (same : (w.step event).serving = w.serving) : (w.step event).Served := by
  obtain ⟨queue, progress, starting, picked, inFlight⟩ := by
    simpa only [serving, Prod.mk.injEq] using same
  apply served.kept progress
  · rw [working, starting, picked, inFlight, working]
  · rw [queue]
    exact id

theorem served_step {w : Writer} (served : w.Served) (event : Event) : (w.step event).Served := by
  have inv := step_inv served.inv event
  cases event with
  | enqueue bytes =>
      refine ⟨inv, ?_, fun _waits => rfl⟩
      intro _busy
      change (if w.writeInProgress then w.starting else w.starting + 1) + w.picked.length +
        w.inFlight.length = 1 ∨ _
      by_cases busy : w.writeInProgress = true
      · rw [if_pos busy]
        exact (served.busy busy).imp id fun doomed => step_doomed doomed (.enqueue bytes)
      · have single := served.inv.single
        rw [if_neg busy] at single ⊢
        exact Or.inl (by omega)
  | pick =>
      cases starting : w.starting with
      | zero =>
          have same : w.step .pick = w := by simp only [step, pick, starting]
          rw [same]
          exact served
      | succ rest =>
          cases queue : w.writeQueue with
          | nil =>
              have picked : w.step .pick =
                  { w with writeInProgress := false, starting := rest } := by
                simp only [step, pick, starting, queue]
              rw [picked] at inv ⊢
              refine ⟨inv, ?_, fun waits => absurd queue waits⟩
              intro impossible
              cases impossible
          | cons packet others =>
              apply served.kept
              · simp only [step, pick, starting, queue]
              · simp only [step, pick, starting, queue, working, List.length_append,
                  List.length_singleton]
                omega
              · intro _waits
                rw [queue]
                exact List.cons_ne_nil _ _
  | launch index =>
      cases found : w.picked[index]? with
      | none =>
          have same : w.step (.launch index) = w := by simp only [step, launch, found]
          rw [same]
          exact served
      | some flight =>
          have bound := (List.getElem?_eq_some_iff.mp found).1
          apply served.kept
          · simp only [step, launch, found]
          · simp only [step, launch, found, working, List.length_append, List.length_singleton,
              List.length_eraseIdx, if_pos bound]
            omega
          · simp only [step, launch, found, imp_self]
  | succeed index =>
      cases found : w.inFlight[index]? with
      | none =>
          have same : w.step (.succeed index) = w := by simp only [step, succeed, found]
          rw [same]
          exact served
      | some flight =>
          have bound := (List.getElem?_eq_some_iff.mp found).1
          apply served.kept
          · simp only [step, succeed, found]
          · simp only [step, succeed, found, working, List.length_eraseIdx, if_pos bound]
            omega
          · simp only [step, succeed, found]
            intro waits empty
            rw [empty] at waits
            exact waits rfl
  | fail index =>
      cases found : w.inFlight[index]? with
      | none =>
          have same : w.step (.fail index) = w := by simp only [step, fail, found]
          rw [same]
          exact served
      | some flight =>
          have failed : w.step (.fail index) =
              { w with inFlight := w.inFlight.eraseIdx index }.closeTest := by
            simp only [step, fail, found]
          have doomed := closeTest_doomed { w with inFlight := w.inFlight.eraseIdx index }
          rw [← failed] at doomed
          refine ⟨inv, fun _busy => Or.inr doomed, ?_⟩
          rw [failed]
          unfold closeTest
          split
          · exact served.waits
          · exact served.waits
  | closeTest => exact served.congr (closeTest_serving w)
  | closeMark => exact served.congr (closeMark_serving w)
  | closeClear =>
      apply served.kept
      all_goals
        simp only [step, closeClear]
        split
      · rfl
      · rfl
      · rfl
      · simp only [working, List.length_map]
      · exact id
      · exact fun impossible => absurd rfl impossible
  | closeNotify => exact served.congr (closeNotify_serving w)

/-- In every interleaving, a queue that is not empty has one thread or one async_write
at work on it, or some thread is in Close or has closed the session. -/
theorem queue_served (events : List Event) :
    (run step new events).writeQueue = [] ∨ (run step new events).working = 1 ∨
      (run step new events).Doomed := by
  have served := run_invariant served_new (fun _w event served => served_step served event) events
  by_cases empty : (run step new events).writeQueue = []
  · exact Or.inl empty
  · exact Or.inr (served.busy (served.waits empty))

/-! ### Every packet is written -/

/-- No write fails and Close does not empty the queue. -/
def Steady : Event → Prop
  | .fail _ | .closeClear => False
  | .enqueue _ | .pick | .launch _ | .succeed _ | .closeTest | .closeMark | .closeNotify => True

/-- On a link that has stayed up, what has been written and what waits are what was
enqueued, in order. -/
structure Tidy (w : Writer) : Prop where
  inv : w.Inv
  clean : ∀ flight ∈ w.flights, flight.cleared = false
  accounts : w.completed.map Prod.fst ++ w.writeQueue = w.enqueued
  busy : w.writeInProgress = true → w.working = 1
  waits : w.writeQueue ≠ [] → w.writeInProgress = true

theorem tidy_new : new.Tidy := by
  constructor
  · exact inv_new
  · intro flight impossible
    cases impossible
  · rfl
  · intro impossible
    cases impossible
  · intro impossible
    exact absurd rfl impossible

/-- The event that the one at work waits for. -/
def driver (w : Writer) : Event :=
  if w.starting ≠ 0 then .pick else if w.picked ≠ [] then .launch 0 else .succeed 0

/-- The sections up to the completion of the packet at the front. -/
def left (w : Writer) : Nat := 3 * w.starting + 2 * w.picked.length + w.inFlight.length

/-- Exactly one of the three is at work. -/
inductive Stage (w : Writer) : Prop
  | starting (one : w.starting = 1) (picked : w.picked = []) (inFlight : w.inFlight = [])
  | picked (flight : Flight) (none : w.starting = 0) (one : w.picked = [flight])
      (inFlight : w.inFlight = [])
  | inFlight (flight : Flight) (none : w.starting = 0) (picked : w.picked = [])
      (one : w.inFlight = [flight])

theorem stage_of_working {w : Writer} (working : w.working = 1) : w.Stage := by
  unfold Writer.working at working
  rcases picked : w.picked with _ | ⟨flight, more⟩
  · rcases inFlight : w.inFlight with _ | ⟨flight, more⟩
    · rw [picked, inFlight] at working
      exact .starting working picked inFlight
    · rw [picked, inFlight, List.length_nil, List.length_cons] at working
      have none : more = [] := List.eq_nil_of_length_eq_zero (by omega)
      exact .inFlight flight (by omega) picked (by rw [inFlight, none])
  · rw [picked, List.length_cons] at working
    have none : more = [] := List.eq_nil_of_length_eq_zero (by omega)
    exact .picked flight (by omega) (by rw [picked, none])
      (List.eq_nil_of_length_eq_zero (by omega))

/-- The call of async_write for the only packet that doWrite has read. -/
theorem Inv.launch_only {w : Writer} (inv : w.Inv) {index : Nat} {flight : Flight}
    (found : w.picked[index]? = some flight) :
    w.step (.launch index) =
      { w with
        picked := []
        inFlight := [flight]
        handed := w.handed ++ [flight.packet] } := by
  obtain ⟨only, zero, noFlight, _starting⟩ := inv.of_picked found
  simp only [step, launch, found]
  simp only [only, zero, noFlight, List.eraseIdx_zero, List.tail_cons, List.nil_append]

theorem Inv.succeed_only {w : Writer} (inv : w.Inv) {index : Nat} {flight : Flight}
    (found : w.inFlight[index]? = some flight) :
    w.step (.succeed index) =
      { w with
        inFlight := []
        completed := w.completed ++ [(flight.packet, w.writeQueue.head?)]
        writeQueue := w.writeQueue.tail
        starting := 1 } := by
  obtain ⟨only, zero, _noPicked, starting⟩ := inv.of_inFlight found
  simp only [step, succeed, found]
  simp only [only, zero, starting, List.eraseIdx_zero, List.tail_cons, Nat.zero_add]

def records (w : Writer) : List Packet × List (Packet × Option Packet) := (w.enqueued, w.completed)

theorem closeTest_records (w : Writer) : w.closeTest.records = w.records := by
  unfold closeTest
  split <;> rfl

theorem closeMark_records (w : Writer) : w.closeMark.records = w.records := by
  unfold closeMark
  split <;> rfl

theorem closeNotify_records (w : Writer) : w.closeNotify.records = w.records := by
  unfold closeNotify
  split <;> rfl

theorem Tidy.congr {before after : Writer} (tidy : before.Tidy) (inv : after.Inv)
    (serving : after.serving = before.serving) (records : after.records = before.records) :
    after.Tidy := by
  obtain ⟨queue, progress, starting, picked, inFlight⟩ := by
    simpa only [Writer.serving, Prod.mk.injEq] using serving
  obtain ⟨enqueued, completed⟩ := by simpa only [Writer.records, Prod.mk.injEq] using records
  constructor
  · exact inv
  · rw [flights, picked, inFlight]
    exact tidy.clean
  · rw [completed, queue, enqueued]
    exact tidy.accounts
  · rw [progress, working, starting, picked, inFlight]
    exact tidy.busy
  · rw [queue, progress]
    exact tidy.waits

theorem tidy_step {w : Writer} (tidy : w.Tidy) {event : Event} (steady : Steady event) :
    (w.step event).Tidy := by
  have inv := step_inv tidy.inv event
  cases event with
  | enqueue bytes =>
      constructor
      · exact inv
      · exact tidy.clean
      · change w.completed.map Prod.fst ++ (w.writeQueue ++ [_]) = w.enqueued ++ [_]
        rw [← List.append_assoc, tidy.accounts]
      · intro _busy
        change (if w.writeInProgress then w.starting else w.starting + 1) + w.picked.length +
          w.inFlight.length = 1
        by_cases busy : w.writeInProgress = true
        · rw [if_pos busy]
          exact tidy.busy busy
        · have single := tidy.inv.single
          rw [if_neg busy] at single ⊢
          omega
      · exact fun _waits => rfl
  | pick =>
      cases starting : w.starting with
      | zero =>
          have same : w.step .pick = w := by simp only [step, pick, starting]
          rw [same]
          exact tidy
      | succ rest =>
          cases queue : w.writeQueue with
          | nil =>
              have picked : w.step .pick =
                  { w with writeInProgress := false, starting := rest } := by
                simp only [step, pick, starting, queue]
              rw [picked] at inv ⊢
              refine { tidy with inv := inv, busy := ?_, waits := fun waits => absurd queue waits }
              intro impossible
              cases impossible
          | cons packet others =>
              have picked : w.step .pick =
                  { w with
                    picked := w.picked ++ [{ packet := packet, cleared := false }]
                    starting := rest } := by
                simp only [step, pick, starting, queue]
              rw [picked] at inv ⊢
              refine { tidy with inv := inv, clean := ?_, busy := ?_ }
              · intro flight member
                simp only [flights, List.mem_append, List.mem_singleton] at member
                rcases member with (earlier | new) | writing
                · exact tidy.clean flight (List.mem_append_left _ earlier)
                · rw [new]
                · exact tidy.clean flight (List.mem_append_right _ writing)
              · intro busy
                have working := tidy.busy busy
                simp only [Writer.working, starting, List.length_append,
                  List.length_singleton] at working ⊢
                omega
  | launch index =>
      cases found : w.picked[index]? with
      | none =>
          have same : w.step (.launch index) = w := by simp only [step, launch, found]
          rw [same]
          exact tidy
      | some flight =>
          obtain ⟨only, _zero, _noFlight, starting⟩ := tidy.inv.of_picked found
          rw [tidy.inv.launch_only found] at inv ⊢
          refine { tidy with inv := inv, clean := ?_, busy := ?_ }
          · intro other member
            rw [flights, List.nil_append, List.mem_singleton] at member
            rw [member]
            apply tidy.clean
            rw [flights, only]
            exact List.mem_cons_self
          · intro _busy
            simp only [Writer.working, starting, List.length_nil, List.length_singleton]
  | succeed index =>
      cases found : w.inFlight[index]? with
      | none =>
          have same : w.step (.succeed index) = w := by simp only [step, succeed, found]
          rw [same]
          exact tidy
      | some flight =>
          obtain ⟨only, _zero, noPicked, _starting⟩ := tidy.inv.of_inFlight found
          have clean : flight.cleared = false := by
            apply tidy.clean
            rw [flights, only]
            exact List.mem_append_right _ List.mem_cons_self
          have front := (tidy.inv.front_iff found).mpr clean
          rw [tidy.inv.succeed_only found] at inv ⊢
          refine { tidy with inv := inv, clean := ?_, accounts := ?_, busy := ?_, waits := ?_ }
          · intro other member
            rw [flights, noPicked] at member
            cases member
          · cases queue : w.writeQueue with
            | nil =>
                rw [queue] at front
                cases front
            | cons packet rest =>
                rw [queue] at front
                cases front
                have accounts := tidy.accounts
                rw [queue] at accounts
                rw [List.map_append, List.append_assoc]
                exact accounts
          · intro _busy
            simp only [Writer.working, noPicked, List.length_nil]
          · intro waits
            apply tidy.waits
            intro empty
            rw [empty] at waits
            exact waits rfl
  | fail index => cases steady
  | closeTest => exact tidy.congr inv (closeTest_serving w) (closeTest_records w)
  | closeMark => exact tidy.congr inv (closeMark_serving w) (closeMark_records w)
  | closeClear => cases steady
  | closeNotify => exact tidy.congr inv (closeNotify_serving w) (closeNotify_records w)

/-- What is still to be done for the first packets, up to this number of them. -/
def effort (w : Writer) (wanted : Nat) : Nat := 4 * (wanted - w.completed.length) + w.left

theorem driver_congr {before after : Writer} (queue : before.writeQueue ≠ [])
    (serving : after.serving = before.serving) (records : after.records = before.records) :
    after.driver = before.driver ∧ (∀ wanted, after.effort wanted = before.effort wanted) ∧
      after.writeQueue ≠ [] := by
  obtain ⟨same, _progress, starting, picked, inFlight⟩ := by
    simpa only [Writer.serving, Prod.mk.injEq] using serving
  obtain ⟨_enqueued, completed⟩ := by simpa only [Writer.records, Prod.mk.injEq] using records
  refine ⟨?_, ?_, ?_⟩
  · rw [driver, starting, picked, driver]
  · intro wanted
    rw [effort, left, starting, picked, inFlight, completed, effort, left]
  · rwa [same]

/-- Other events leave the one at work where it is. -/
theorem driver_waits {w : Writer} (tidy : w.Tidy) (queue : w.writeQueue ≠ []) {event : Event}
    (steady : Steady event) (other : event ≠ w.driver) :
    (w.step event).driver = w.driver ∧ (∀ wanted, (w.step event).effort wanted = w.effort wanted) ∧
      (w.step event).writeQueue ≠ [] := by
  have busy := tidy.waits queue
  cases event with
  | enqueue bytes =>
      have starting : (w.step (.enqueue bytes)).starting = w.starting := by
        change (if w.writeInProgress then w.starting else w.starting + 1) = w.starting
        rw [if_pos busy]
      refine ⟨?_, ?_, ?_⟩
      · rw [driver, driver, starting]
        rfl
      · intro wanted
        rw [effort, left, starting]
        rfl
      · change w.writeQueue ++ [_] ≠ []
        simp
  | pick =>
      have none : w.starting = 0 := by
        by_contra some
        exact other (by rw [driver, if_pos some])
      have same : w.step .pick = w := by simp only [step, pick, none]
      rw [same]
      exact ⟨rfl, fun _wanted => rfl, queue⟩
  | launch index =>
      cases found : w.picked[index]? with
      | none =>
          have same : w.step (.launch index) = w := by simp only [step, launch, found]
          rw [same]
          exact ⟨rfl, fun _wanted => rfl, queue⟩
      | some flight =>
          obtain ⟨only, zero, _noFlight, starting⟩ := tidy.inv.of_picked found
          apply absurd _ other
          rw [driver, if_neg (not_not_intro starting), if_pos (by rw [only]; simp), zero]
  | succeed index =>
      cases found : w.inFlight[index]? with
      | none =>
          have same : w.step (.succeed index) = w := by simp only [step, succeed, found]
          rw [same]
          exact ⟨rfl, fun _wanted => rfl, queue⟩
      | some flight =>
          obtain ⟨_only, zero, noPicked, starting⟩ := tidy.inv.of_inFlight found
          apply absurd _ other
          rw [driver, if_neg (not_not_intro starting), if_neg (not_not_intro noPicked), zero]
  | fail index => cases steady
  | closeTest => exact driver_congr queue (closeTest_serving w) (closeTest_records w)
  | closeMark => exact driver_congr queue (closeMark_serving w) (closeMark_records w)
  | closeClear => cases steady
  | closeNotify => exact driver_congr queue (closeNotify_serving w) (closeNotify_records w)

/-- The event that the one at work waits for brings it on. -/
theorem driver_drives {w : Writer} (tidy : w.Tidy) (queue : w.writeQueue ≠ []) {wanted : Nat}
    (more : w.completed.length < wanted) : (w.step w.driver).effort wanted < w.effort wanted := by
  cases stage_of_working (tidy.busy (tidy.waits queue)) with
  | starting one picked inFlight =>
      obtain ⟨packet, rest, front⟩ := List.exists_cons_of_ne_nil queue
      have driver : w.driver = .pick := by rw [Writer.driver, if_pos (by omega)]
      have stepped : w.step .pick =
          { w with
            picked := w.picked ++ [{ packet := packet, cleared := false }]
            starting := 0 } := by simp only [step, pick, one, front]
      rw [driver, stepped]
      simp only [effort, left, one, picked, inFlight, List.nil_append, List.length_singleton,
        List.length_nil]
      omega
  | picked flight none one inFlight =>
      have driver : w.driver = .launch 0 := by
        rw [Writer.driver, if_neg (not_not_intro none), if_pos (by rw [one]; simp)]
      have found : w.picked[0]? = some flight := by rw [one]; rfl
      rw [driver, tidy.inv.launch_only found]
      simp only [effort, left, none, one, inFlight, List.length_singleton, List.length_nil]
      omega
  | inFlight flight none picked one =>
      have driver : w.driver = .succeed 0 := by
        rw [Writer.driver, if_neg (not_not_intro none), if_neg (not_not_intro picked)]
      have found : w.inFlight[0]? = some flight := by rw [one]; rfl
      rw [driver, tidy.inv.succeed_only found]
      simp only [effort, left, none, one, picked, List.length_append, List.length_singleton,
        List.length_nil]
      omega

/-! ### Along any run -/

/-- An event that is neither a section of doWrite nor a completion. -/
def Offhand : Event → Prop
  | .enqueue _ | .closeTest | .closeMark | .closeNotify => True
  | .pick | .launch _ | .succeed _ | .fail _ | .closeClear => False

theorem Offhand.steady {event : Event} (offhand : Offhand event) : Steady event := by
  cases event with
  | enqueue bytes => trivial
  | closeTest => trivial
  | closeMark => trivial
  | closeNotify => trivial
  | pick => cases offhand
  | launch index => cases offhand
  | succeed index => cases offhand
  | fail index => cases offhand
  | closeClear => cases offhand

/-- The one at work waits for a section of doWrite or for a completion. -/
inductive Drives : Event → Prop
  | pick : Drives .pick
  | launch : Drives (.launch 0)
  | succeed : Drives (.succeed 0)

theorem drives_driver (w : Writer) : Drives w.driver := by
  unfold driver
  split
  · exact .pick
  · split
    · exact .launch
    · exact .succeed

theorem Offhand.not_drives {event other : Event} (offhand : Offhand event)
    (drives : Drives other) : event ≠ other := by
  intro same
  rw [same] at offhand
  cases drives <;> cases offhand

/-- What happens to a write side from one moment to the next. -/
inductive Steps (w : Writer) : Writer → Prop
  | apart (events : List Event) (offhand : ∀ event ∈ events, Offhand event) :
      Steps w (run step w events)
  | one (event : Event) (steady : Steady event) : Steps w (w.step event)

theorem tidy_run {w : Writer} (tidy : w.Tidy) {events : List Event}
    (offhand : ∀ event ∈ events, Offhand event) : (run step w events).Tidy := by
  induction events generalizing w with
  | nil => exact tidy
  | cons event events ih =>
      exact ih (tidy_step tidy (offhand event List.mem_cons_self).steady)
        fun other member => offhand other (List.mem_cons_of_mem _ member)

theorem Steps.tidy {before after : Writer} (steps : before.Steps after) (tidy : before.Tidy) :
    after.Tidy := by
  cases steps with
  | apart events offhand => exact tidy_run tidy offhand
  | one event steady => exact tidy_step tidy steady

theorem enqueued_step (w : Writer) (event : Event) : w.enqueued <+: (w.step event).enqueued := by
  by_cases enqueues : ∃ bytes, event = .enqueue bytes
  · obtain ⟨bytes, same⟩ := enqueues
    rw [same]
    exact List.prefix_append _ _
  · exact prefix_of_same (enqueued_of_not_enqueue w (not_exists.mp enqueues))

theorem Steps.enqueued {before after : Writer} (steps : before.Steps after) :
    before.enqueued <+: after.enqueued := by
  cases steps with
  | apart events _offhand =>
      induction events using List.reverseRecOn with
      | nil => exact List.prefix_rfl
      | append_singleton events event ih =>
          rw [run_snoc]
          exact (ih fun other member => _offhand other (List.mem_append_left _ member)).trans
            (enqueued_step _ event)
  | one event _steady => exact enqueued_step before event

/-- Unless it is the step that the one at work waits for. -/
theorem Steps.waits {before after : Writer} (steps : before.Steps after) (tidy : before.Tidy)
    (queue : before.writeQueue ≠ []) (other : after ≠ before.step before.driver) :
    after.driver = before.driver ∧ (∀ wanted, after.effort wanted = before.effort wanted) ∧
      after.writeQueue ≠ [] := by
  cases steps with
  | one event steady =>
      apply driver_waits tidy queue steady
      intro same
      rw [same] at other
      exact other rfl
  | apart events offhand =>
      clear other
      induction events using List.reverseRecOn with
      | nil => exact ⟨rfl, fun _wanted => rfl, queue⟩
      | append_singleton events event ih =>
          have earlier : ∀ other ∈ events, Offhand other :=
            fun other member => offhand other (List.mem_append_left _ member)
          have last := offhand event (List.mem_append_right _ List.mem_cons_self)
          obtain ⟨driver, effort, waiting⟩ := ih earlier
          rw [run_snoc]
          obtain ⟨sameDriver, sameEffort, stillQueue⟩ := driver_waits (tidy_run tidy earlier)
            waiting last.steady (last.not_drives (drives_driver _))
          exact ⟨sameDriver.trans driver, fun wanted => (sameEffort wanted).trans (effort wanted),
            stillQueue⟩

section Runs

variable {stands : Nat → Writer} (steps : ∀ time, (stands time).Steps (stands (time + 1)))

include steps

theorem enqueued_grows {time later : Nat} (after : time ≤ later) :
    (stands time).enqueued <+: (stands later).enqueued := by
  induction later, after using Nat.le_induction with
  | base => exact List.prefix_rfl
  | succ later _after ih => exact ih.trans (steps later).enqueued

theorem tidy_at (tidy : (stands 0).Tidy) (time : Nat) : (stands time).Tidy := by
  induction time with
  | zero => exact tidy
  | succ time ih => exact (steps time).tidy ih

/-- All that was enqueued by some time has been written at some later time, in order,
where every step that the one at work can wait for is taken again and again. -/
theorem written_along (tidy : (stands 0).Tidy)
    (driven : ∀ event, Drives event →
      Often (fun time => stands (time + 1) = (stands time).step event) id) (time : Nat) :
    ∃ later, time ≤ later ∧
      (stands time).enqueued <+: (stands later).completed.map Prod.fst := by
  generalize reached : (stands time).enqueued = wanted
  have waiting : ∀ moment, time ≤ moment →
      wanted <+: (stands moment).completed.map Prod.fst ∨
        (stands moment).completed.length < wanted.length ∧ (stands moment).writeQueue ≠ [] := by
    intro moment since
    have grown := enqueued_grows steps since
    rw [reached, ← (tidy_at steps tidy moment).accounts] at grown
    have split := prefix_left_or_longer grown
    rwa [List.length_map] at split
  let goal : Nat → Prop := fun moment => time ≤ moment →
    wanted <+: (stands moment).completed.map Prod.fst
  have progress : ∀ moment, ¬goal moment → ∃ later, moment ≤ later ∧ (goal later ∨
      (stands later).effort wanted.length < (stands moment).effort wanted.length) := by
    intro moment missed
    obtain ⟨since, short⟩ := Classical.not_imp.mp missed
    have waits := ((waiting moment since).resolve_left short).2
    let ahead : Nat → Prop := fun other =>
      (stands other).driver = (stands moment).driver ∧
        (stands other).effort wanted.length = (stands moment).effort wanted.length ∧
        (stands other).writeQueue ≠ []
    have kept : ∀ other, stands (other + 1) ≠ (stands other).step (stands moment).driver →
        ahead other → ahead (other + 1) := by
      rintro other elsewhere ⟨driver, effort, queue⟩
      obtain ⟨sameDriver, sameEffort, stillQueue⟩ := (steps other).waits
        (tidy_at steps tidy other) queue (by rw [driver]; exact elsewhere)
      exact ⟨sameDriver.trans driver, (sameEffort _).trans effort, stillQueue⟩
    obtain ⟨turn, after, drives, driver, effort, queue⟩ :=
      (driven _ (drives_driver (stands moment))).reaches kept
        (show ahead moment from ⟨rfl, rfl, waits⟩)
    rcases waiting turn (Nat.le_trans since after) with done | ⟨more, _queue⟩
    · exact ⟨turn, after, Or.inl fun _since => done⟩
    · refine ⟨turn + 1, Nat.le_succ_of_le after, Or.inr ?_⟩
      have less := driver_drives (tidy_at steps tidy turn) queue more
      rw [driver] at less
      rw [← effort]
      exact drives ▸ less
  obtain ⟨later, after, found⟩ := eventually_of_measure progress time
  exact ⟨later, after, found after⟩

end Runs

section Schedules

/-- While the link stays up, all that was enqueued by some time has been written, in
order, at some later time. -/
theorem eventually_written (schedule : Nat → Event) (steady : ∀ time, Steady (schedule time))
    (picks : Often (· = .pick) schedule) (launches : Often (· = .launch 0) schedule)
    (succeeds : Often (· = .succeed 0) schedule) (time : Nat) :
    ∃ later, time ≤ later ∧ (stateAt step new schedule time).enqueued <+:
      (stateAt step new schedule later).completed.map Prod.fst := by
  refine @written_along (stateAt step new schedule) ?_ tidy_new ?_ time
  · intro moment
    exact .one (schedule moment) (steady moment)
  · intro event drives moment
    have taken : ∃ later, moment ≤ later ∧ schedule later = event := by
      cases drives with
      | pick => exact picks moment
      | launch => exact launches moment
      | succeed => exact succeeds moment
    obtain ⟨later, after, same⟩ := taken
    refine ⟨later, after, ?_⟩
    rw [← same]
    rfl

/-- One packet is enqueued, and then the threads of doWrite and the socket take turns. -/
def oneWrite : Nat → Event :=
  roundRobin [.enqueue [1]] 3 fun turn =>
    if turn = 0 then .pick else if turn = 1 then .launch 0 else .succeed 0

theorem steady_oneWrite (time : Nat) : Steady (oneWrite time) := by
  unfold oneWrite roundRobin
  rcases time with _ | time
  · trivial
  · change Steady (if (time + 1) % 3 = 0 then .pick
      else if (time + 1) % 3 = 1 then .launch 0 else .succeed 0)
    split
    · trivial
    · split <;> trivial

theorem eventually_written_one :
    ∃ later, 1 ≤ later ∧ (stateAt step new oneWrite 1).enqueued <+:
      (stateAt step new oneWrite later).completed.map Prod.fst :=
  eventually_written oneWrite steady_oneWrite (often_roundRobin _ _ (show 0 < 3 by decide))
    (often_roundRobin _ _ (show 1 < 3 by decide)) (often_roundRobin _ _ (show 2 < 3 by decide)) 1

end Schedules

end Writer

end RanOnline.Net
