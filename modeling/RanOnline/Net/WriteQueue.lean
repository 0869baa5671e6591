/-
The write side of Session (enqueueWrite, doWrite and Close of net/session.cpp).

Every section under m_writeMx is one event, and so is every test or assignment
of m_closed, so that a run is any interleaving of senders, of the completion
handlers of async_write and of the callers of Close.  `starting`, `testing`,
`clearing` and `notifying` count the threads between two of these sections.
-/
import Mathlib.Data.List.Nodup
import RanOnline.Lib.Memory
import RanOnline.Lib.StepRun

namespace RanOnline.Net

open Memory StepRun

/-- A shared_ptr to the bytes of one packet; `ptr` tells equal packets apart. -/
structure Packet where
  ptr : Nat
  bytes : Bytes
  deriving DecidableEq, Repr

/-- A packet that doWrite has read from the front of the queue.  `cleared`
records whether Close has emptied the queue since then. -/
structure Flight where
  packet : Packet
  cleared : Bool
  deriving DecidableEq, Repr

/-- `enqueued`, `handed` and `completed` record what enqueueWrite was given, what
async_write was given, and for each successful completion the packet with the
element that pop_front removed.  `none` there is pop_front on an empty deque. -/
structure Writer where
  writeQueue : List Packet
  writeInProgress : Bool
  closed : Bool
  starting : Nat
  picked : List Flight
  inFlight : List Flight
  testing : Nat
  clearing : Nat
  notifying : Nat
  enqueued : List Packet
  handed : List Packet
  completed : List (Packet × Option Packet)
  deriving DecidableEq, Repr

namespace Writer

def new : Writer :=
  { writeQueue := []
    writeInProgress := false
    closed := false
    starting := 0
    picked := []
    inFlight := []
    testing := 0
    clearing := 0
    notifying := 0
    enqueued := []
    handed := []
    completed := [] }

def enqueueWrite (w : Writer) (bytes : Bytes) : Writer :=
  let packet := { ptr := w.enqueued.length, bytes := bytes }
  { w with
    writeQueue := w.writeQueue ++ [packet]
    enqueued := w.enqueued ++ [packet]
    writeInProgress := true
    starting := if w.writeInProgress then w.starting else w.starting + 1 }

/-- The section of doWrite. -/
def pick (w : Writer) : Writer :=
  match w.starting with
  | 0 => w
  | starting + 1 =>
      match w.writeQueue with
      | [] => { w with writeInProgress := false, starting := starting }
      | packet :: _ =>
          { w with
            picked := w.picked ++ [{ packet := packet, cleared := false }]
            starting := starting }

/-- The call of async_write. -/
def launch (w : Writer) (index : Nat) : Writer :=
  match w.picked[index]? with
  | none => w
  | some flight =>
      { w with
        picked := w.picked.eraseIdx index
        inFlight := w.inFlight ++ [flight]
        handed := w.handed ++ [flight.packet] }

/-- The completion handler without an error, up to its call of doWrite. -/
def succeed (w : Writer) (index : Nat) : Writer :=
  match w.inFlight[index]? with
  | none => w
  | some flight =>
      { w with
        inFlight := w.inFlight.eraseIdx index
        completed := w.completed ++ [(flight.packet, w.writeQueue.head?)]
        writeQueue := w.writeQueue.tail
        starting := w.starting + 1 }

def closeTest (w : Writer) : Writer :=
  if w.closed then w else { w with testing := w.testing + 1 }

def closeMark (w : Writer) : Writer :=
  match w.testing with
  | 0 => w
  | testing + 1 => { w with closed := true, testing := testing, clearing := w.clearing + 1 }

def Flight.clear (flight : Flight) : Flight := { flight with cleared := true }

def closeClear (w : Writer) : Writer :=
  match w.clearing with
  | 0 => w
  | clearing + 1 =>
      { w with
        writeQueue := []
        picked := w.picked.map Flight.clear
        inFlight := w.inFlight.map Flight.clear
        clearing := clearing
        notifying := w.notifying + 1 }

/-- The closing thread leaves for the m_onClose callback. -/
def closeNotify (w : Writer) : Writer :=
  match w.notifying with
  | 0 => w
  | notifying + 1 => { w with notifying := notifying }

/-- The completion handler with an error: it calls Close. -/
def fail (w : Writer) (index : Nat) : Writer :=
  match w.inFlight[index]? with
  | none => w
  | some _flight => { w with inFlight := w.inFlight.eraseIdx index }.closeTest

inductive Event
  | enqueue (bytes : Bytes)
  | pick
  | launch (index : Nat)
  | succeed (index : Nat)
  | fail (index : Nat)
  | closeTest
  | closeMark
  | closeClear
  | closeNotify
  deriving DecidableEq, Repr

def step (w : Writer) : Event → Writer
  | .enqueue bytes => w.enqueueWrite bytes
  | .pick => w.pick
  | .launch index => w.launch index
  | .succeed index => w.succeed index
  | .fail index => w.fail index
  | .closeTest => w.closeTest
  | .closeMark => w.closeMark
  | .closeClear => w.closeClear
  | .closeNotify => w.closeNotify

/-! ### The invariant of all runs -/

def flights (w : Writer) : List Flight := w.picked ++ w.inFlight

/-- The packets under way that are still in the queue. -/
def live (w : Writer) : List Packet :=
  (w.flights.filter (fun flight => !flight.cleared)).map Flight.packet

/-- The packets that doWrite has read, in order. -/
def begun (w : Writer) : List Packet := w.handed ++ w.picked.map Flight.packet

/-- `gone` is what has left the queue; what is under way is at its front, unless
Close has emptied the queue meanwhile. -/
structure Ordered (w : Writer) (gone : List Packet) : Prop where
  accounts : w.enqueued = gone ++ w.writeQueue
  inOrder : w.begun.Sublist (gone ++ w.live)
  atFront : w.live <+: w.writeQueue
  clearedGone : ∀ flight ∈ w.flights, flight.cleared = true → flight.packet ∈ gone

/-- After a failed write nothing is under way and no later one is started. -/
structure Stalled (w : Writer) : Prop where
  inProgress : w.writeInProgress = true
  starting : w.starting = 0
  picked : w.picked = []
  inFlight : w.inFlight = []
  inOrder : w.handed.Sublist w.enqueued

structure Inv (w : Writer) : Prop where
  fresh : w.enqueued.map Packet.ptr = List.range w.enqueued.length
  single : w.starting + w.picked.length + w.inFlight.length ≤ if w.writeInProgress then 1 else 0
  order : w.Stalled ∨ ∃ gone, w.Ordered gone

theorem inv_new : new.Inv :=
  { fresh := rfl
    single := Nat.zero_le _
    order := Or.inr ⟨[],
      { accounts := rfl
        inOrder := List.Sublist.refl []
        atFront := List.prefix_rfl
        clearedGone := by
          intro flight impossible
          cases impossible }⟩ }

theorem Inv.enqueued_nodup {w : Writer} (inv : w.Inv) : w.enqueued.Nodup := by
  apply List.Nodup.of_map Packet.ptr
  rw [inv.fresh]
  exact List.nodup_range

theorem Inv.single_le {w : Writer} (inv : w.Inv) :
    w.starting + w.picked.length + w.inFlight.length ≤ 1 := by
  have single := inv.single
  split at single <;> omega

theorem Ordered.begun_sublist {w : Writer} {gone : List Packet} (ordered : w.Ordered gone) :
    w.begun.Sublist w.enqueued := by
  rw [ordered.accounts]
  exact ordered.inOrder.trans (ordered.atFront.sublist.append_left gone)

theorem Inv.handed_sublist {w : Writer} (inv : w.Inv) : w.handed.Sublist w.enqueued := by
  rcases inv.order with stalled | ⟨gone, ordered⟩
  · exact stalled.inOrder
  · exact (List.sublist_append_left _ _).trans ordered.begun_sublist

/-- A list of at most one element that has an element at `index`. -/
private theorem eq_singleton {α : Type} {items : List α} {index : Nat} {item : α}
    (short : items.length ≤ 1) (found : items[index]? = some item) :
    items = [item] ∧ index = 0 := by
  obtain ⟨bound, value⟩ := List.getElem?_eq_some_iff.mp found
  have zero : index = 0 := by omega
  subst zero
  obtain ⟨only, same⟩ := List.length_eq_one_iff.mp (show items.length = 1 by omega)
  subst same
  cases value
  exact ⟨rfl, rfl⟩

theorem Inv.of_picked {w : Writer} (inv : w.Inv) {index : Nat} {flight : Flight}
    (found : w.picked[index]? = some flight) :
    w.picked = [flight] ∧ index = 0 ∧ w.inFlight = [] ∧ w.starting = 0 := by
  have single := inv.single_le
  obtain ⟨only, zero⟩ := eq_singleton (by omega) found
  rw [only, List.length_singleton] at single
  exact ⟨only, zero, List.eq_nil_of_length_eq_zero (by omega), by omega⟩

theorem Inv.of_inFlight {w : Writer} (inv : w.Inv) {index : Nat} {flight : Flight}
    (found : w.inFlight[index]? = some flight) :
    w.inFlight = [flight] ∧ index = 0 ∧ w.picked = [] ∧ w.starting = 0 := by
  have single := inv.single_le
  obtain ⟨only, zero⟩ := eq_singleton (by omega) found
  rw [only, List.length_singleton] at single
  exact ⟨only, zero, List.eq_nil_of_length_eq_zero (by omega), by omega⟩

theorem Inv.ordered_of_starting {w : Writer} (inv : w.Inv) (starting : w.starting ≠ 0) :
    ∃ gone, w.Ordered gone := by
  rcases inv.order with stalled | ordered
  · exact absurd stalled.starting starting
  · exact ordered

theorem Inv.ordered_of_inFlight {w : Writer} (inv : w.Inv) {index : Nat} {flight : Flight}
    (found : w.inFlight[index]? = some flight) : ∃ gone, w.Ordered gone := by
  rcases inv.order with stalled | ordered
  · rw [stalled.inFlight, List.getElem?_nil] at found
    cases found
  · exact ordered

theorem enqueueWrite_inv {w : Writer} (inv : w.Inv) (bytes : Bytes) :
    (w.enqueueWrite bytes).Inv := by
  constructor
  · change (w.enqueued ++ [_]).map Packet.ptr = List.range (w.enqueued ++ [_]).length
    rw [List.map_append, inv.fresh, List.length_append, List.length_singleton, List.range_succ]
    rfl
  · have single := inv.single
    change (if w.writeInProgress then w.starting else w.starting + 1) + w.picked.length +
      w.inFlight.length ≤ 1
    split at single <;>
    · rename_i progress
      simp only [progress, if_true, Bool.false_eq_true, if_false]
      omega
  · rcases inv.order with stalled | ⟨gone, ordered⟩
    · refine Or.inl { stalled with inProgress := rfl, starting := ?_, inOrder := ?_ }
      · change (if w.writeInProgress then w.starting else w.starting + 1) = 0
        rw [stalled.inProgress]
        exact stalled.starting
      · exact stalled.inOrder.trans (List.sublist_append_left _ _)
    · refine Or.inr ⟨gone, { ordered with accounts := ?_, atFront := ?_ }⟩
      · change w.enqueued ++ [_] = gone ++ (w.writeQueue ++ [_])
        rw [ordered.accounts, List.append_assoc]
      · exact ordered.atFront.trans (List.prefix_append _ _)

theorem pick_inv {w : Writer} (inv : w.Inv) : w.pick.Inv := by
  unfold pick
  split
  · exact inv
  · rename_i starting started
    have single := inv.single
    have single_le := inv.single_le
    obtain ⟨gone, ordered⟩ := inv.ordered_of_starting (by rw [started]; omega)
    have noPicked : w.picked = [] := List.eq_nil_of_length_eq_zero (by omega)
    have noFlight : w.inFlight = [] := List.eq_nil_of_length_eq_zero (by omega)
    split
    · refine { inv with single := ?_, order := Or.inr ⟨gone, { ordered with }⟩ }
      change starting + w.picked.length + w.inFlight.length ≤ 0
      omega
    · rename_i packet rest queue
      refine { inv with single := ?_, order := Or.inr ⟨gone, ?_⟩ }
      · change starting + (w.picked ++ [_]).length + w.inFlight.length ≤
          if w.writeInProgress then 1 else 0
        rw [List.length_append, List.length_singleton]
        omega
      · have inOrder := ordered.inOrder
        simp only [begun, live, flights, noPicked, noFlight, List.append_nil, List.filter_nil,
          List.map_nil] at inOrder
        constructor
        · exact ordered.accounts
        · simp only [begun, live, flights, noPicked, noFlight, List.nil_append, List.append_nil]
          exact inOrder.append (List.Sublist.refl [packet])
        · simp only [live, flights, noPicked, noFlight, List.nil_append, List.append_nil, queue]
          exact List.prefix_append [packet] rest
        · intro flight member cleared
          simp only [flights, noPicked, noFlight, List.nil_append, List.append_nil] at member
          cases List.mem_singleton.mp member
          cases cleared

theorem launch_inv {w : Writer} (inv : w.Inv) (index : Nat) : (w.launch index).Inv := by
  unfold launch
  split
  · exact inv
  · rename_i flight found
    obtain ⟨only, zero, noFlight, _starting⟩ := inv.of_picked found
    have single := inv.single
    refine { inv with single := ?_, order := ?_ }
    · change w.starting + (w.picked.eraseIdx index).length + (w.inFlight ++ [flight]).length ≤
        if w.writeInProgress then 1 else 0
      rw [zero, only, noFlight] at *
      exact single
    · rcases inv.order with stalled | ⟨gone, ordered⟩
      · rw [stalled.picked] at only
        cases only
      · refine Or.inr ⟨gone, ?_⟩
        have inOrder := ordered.inOrder
        have atFront := ordered.atFront
        have clearedGone := ordered.clearedGone
        simp only [begun, live, flights, only, noFlight] at inOrder atFront clearedGone
        constructor
        · exact ordered.accounts
        · simp only [begun, live, flights, only, zero, noFlight]
          simpa using inOrder
        · simp only [live, flights, only, zero, noFlight]
          simpa using atFront
        · simp only [flights, only, zero, noFlight]
          simpa using clearedGone

private theorem live_single {w : Writer} {flight : Flight} (noPicked : w.picked = [])
    (only : w.inFlight = [flight]) :
    w.live = if flight.cleared then [] else [flight.packet] := by
  simp only [live, flights, noPicked, only, List.nil_append]
  cases cleared : flight.cleared <;> simp [cleared]

/-- A completed write leaves nothing under way; what is under way no more was at
the front of the queue or is gone already. -/
theorem succeed_inv {w : Writer} (inv : w.Inv) (index : Nat) : (w.succeed index).Inv := by
  unfold succeed
  split
  · exact inv
  · rename_i flight found
    obtain ⟨only, zero, noPicked, starting⟩ := inv.of_inFlight found
    obtain ⟨gone, ordered⟩ := inv.ordered_of_inFlight found
    have single := inv.single
    have live := live_single noPicked only
    refine { inv with single := ?_, order := Or.inr ⟨gone ++ w.writeQueue.take 1, ?_⟩ }
    · change w.starting + 1 + w.picked.length + (w.inFlight.eraseIdx index).length ≤
        if w.writeInProgress then 1 else 0
      rw [noPicked, only] at single
      rw [noPicked, only, zero]
      exact single
    · have inOrder : w.handed.Sublist (gone ++ w.writeQueue.take 1) := by
        have handed := ordered.inOrder
        rw [begun, noPicked, List.map_nil, List.append_nil] at handed
        apply handed.trans
        apply List.Sublist.append_left
        have atFront := ordered.atFront
        rw [live] at atFront ⊢
        split
        · exact List.nil_sublist _
        · rename_i stillQueued
          rw [if_neg stillQueued] at atFront
          obtain ⟨rest, queue⟩ := atFront
          rw [← queue]
          exact List.Sublist.refl _
      constructor
      · change w.enqueued = gone ++ w.writeQueue.take 1 ++ w.writeQueue.tail
        rw [ordered.accounts, List.append_assoc, ← List.drop_one, List.take_append_drop]
      · simp only [begun, Writer.live, flights, only, zero, noPicked]
        simpa using inOrder
      · simp only [Writer.live, flights, only, zero, noPicked]
        exact List.nil_prefix
      · intro other member
        simp only [flights, only, zero, noPicked] at member
        cases member

theorem closeTest_inv {w : Writer} (inv : w.Inv) : w.closeTest.Inv := by
  unfold closeTest
  split
  · exact inv
  · refine { inv with order := ?_ }
    rcases inv.order with stalled | ⟨gone, ordered⟩
    · exact Or.inl { stalled with }
    · exact Or.inr ⟨gone, { ordered with }⟩

theorem closeMark_inv {w : Writer} (inv : w.Inv) : w.closeMark.Inv := by
  unfold closeMark
  split
  · exact inv
  · refine { inv with order := ?_ }
    rcases inv.order with stalled | ⟨gone, ordered⟩
    · exact Or.inl { stalled with }
    · exact Or.inr ⟨gone, { ordered with }⟩

theorem closeNotify_inv {w : Writer} (inv : w.Inv) : w.closeNotify.Inv := by
  unfold closeNotify
  split
  · exact inv
  · refine { inv with order := ?_ }
    rcases inv.order with stalled | ⟨gone, ordered⟩
    · exact Or.inl { stalled with }
    · exact Or.inr ⟨gone, { ordered with }⟩

theorem fail_inv {w : Writer} (inv : w.Inv) (index : Nat) : (w.fail index).Inv := by
  unfold fail
  split
  · exact inv
  · rename_i flight found
    obtain ⟨only, zero, noPicked, starting⟩ := inv.of_inFlight found
    obtain ⟨gone, ordered⟩ := inv.ordered_of_inFlight found
    have single := inv.single
    rw [starting, noPicked, only, List.length_singleton] at single
    apply closeTest_inv
    refine { inv with single := ?_, order := Or.inl ?_ }
    · change w.starting + w.picked.length + (w.inFlight.eraseIdx index).length ≤ _
      rw [starting, noPicked, only, zero]
      exact Nat.zero_le _
    · exact
        { inProgress := by
            by_contra idle
            rw [if_neg idle] at single
            omega
          starting := starting
          picked := noPicked
          inFlight := by
            change w.inFlight.eraseIdx index = []
            rw [only, zero]
            rfl
          inOrder := inv.handed_sublist }

private theorem filter_clear (flights : List Flight) :
    (flights.map Flight.clear).filter (fun flight => !flight.cleared) = [] := by
  rw [List.filter_eq_nil_iff]
  intro flight member
  obtain ⟨before, _present, same⟩ := List.mem_map.mp member
  subst same
  simp [Flight.clear]

theorem Ordered.flight_enqueued {w : Writer} {gone : List Packet} (ordered : w.Ordered gone)
    {flight : Flight} (member : flight ∈ w.flights) : flight.packet ∈ w.enqueued := by
  rw [ordered.accounts]
  cases cleared : flight.cleared with
  | true => exact List.mem_append_left _ (ordered.clearedGone flight member cleared)
  | false =>
      apply List.mem_append_right
      apply ordered.atFront.subset
      apply List.mem_map_of_mem
      exact List.mem_filter.mpr ⟨member, by simp [cleared]⟩

theorem closeClear_inv {w : Writer} (inv : w.Inv) : w.closeClear.Inv := by
  unfold closeClear
  split
  · exact inv
  · rename_i clearing _counted
    refine { inv with single := ?_, order := ?_ }
    · have single := inv.single
      simp only [List.length_map]
      exact single
    · rcases inv.order with stalled | ⟨gone, ordered⟩
      · refine Or.inl { stalled with picked := ?_, inFlight := ?_ }
        · simp only [stalled.picked, List.map_nil]
        · simp only [stalled.inFlight, List.map_nil]
      · refine Or.inr ⟨w.enqueued, ?_⟩
        have packets : ∀ flights : List Flight,
            (flights.map Flight.clear).map Flight.packet = flights.map Flight.packet := by
          intro flights
          rw [List.map_map]
          rfl
        constructor
        · exact (List.append_nil _).symm
        · simp only [begun, live, flights, ← List.map_append, filter_clear, packets, List.map_nil,
            List.append_nil]
          exact ordered.begun_sublist
        · simp only [live, flights, ← List.map_append, filter_clear]
          exact List.nil_prefix
        · intro flight member _cleared
          simp only [flights, ← List.map_append] at member
          obtain ⟨before, present, same⟩ := List.mem_map.mp member
          subst same
          change before.packet ∈ w.enqueued
          exact ordered.flight_enqueued present

theorem step_inv {w : Writer} (inv : w.Inv) (event : Event) : (w.step event).Inv := by
  cases event with
  | enqueue bytes => exact enqueueWrite_inv inv bytes
  | pick => exact pick_inv inv
  | launch index => exact launch_inv inv index
  | succeed index => exact succeed_inv inv index
  | fail index => exact fail_inv inv index
  | closeTest => exact closeTest_inv inv
  | closeMark => exact closeMark_inv inv
  | closeClear => exact closeClear_inv inv
  | closeNotify => exact closeNotify_inv inv

/-! ### Write-queue safety -/

structure Safe (w : Writer) : Prop where
  oneOutstanding : w.inFlight.length ≤ 1
  inEnqueueOrder : w.handed.Sublist w.enqueued
  handedOnce : w.handed.Nodup
  popsCompleted : ∀ completion ∈ w.completed, completion.2 = some completion.1

/-- Close has not emptied the queue during the write that now succeeds. -/
def QueueKept (w : Writer) : Event → Prop
  | .succeed index => ∀ flight, w.inFlight[index]? = some flight → flight.cleared = false
  | _ => True

theorem succeed_completed {w : Writer} {index : Nat} {flight : Flight}
    (found : w.inFlight[index]? = some flight) :
    (w.succeed index).completed = w.completed ++ [(flight.packet, w.writeQueue.head?)] := by
  simp only [succeed, found]

theorem completed_of_not_succeed (w : Writer) {event : Event}
    (other : ∀ index, event ≠ .succeed index) : (w.step event).completed = w.completed := by
  cases event with
  | enqueue bytes => rfl
  | pick =>
      simp only [step, pick]
      split
      · rfl
      · split <;> rfl
  | launch index =>
      simp only [step, launch]
      split <;> rfl
  | succeed index => exact absurd rfl (other index)
  | fail index =>
      simp only [step, fail, closeTest]
      split
      · rfl
      · split <;> rfl
  | closeTest =>
      simp only [step, closeTest]
      split <;> rfl
  | closeMark =>
      simp only [step, closeMark]
      split <;> rfl
  | closeClear =>
      simp only [step, closeClear]
      split <;> rfl
  | closeNotify =>
      simp only [step, closeNotify]
      split <;> rfl

/-- Nothing but enqueueWrite adds a packet. -/
theorem enqueued_of_not_enqueue (w : Writer) {event : Event}
    (other : ∀ bytes, event ≠ .enqueue bytes) : (w.step event).enqueued = w.enqueued := by
  cases event with
  | enqueue bytes => exact absurd rfl (other bytes)
  | pick =>
      simp only [step, pick]
      split
      · rfl
      · split <;> rfl
  | launch index =>
      simp only [step, launch]
      split <;> rfl
  | succeed index =>
      simp only [step, succeed]
      split <;> rfl
  | fail index =>
      simp only [step, fail, closeTest]
      split
      · rfl
      · split <;> rfl
  | closeTest =>
      simp only [step, closeTest]
      split <;> rfl
  | closeMark =>
      simp only [step, closeMark]
      split <;> rfl
  | closeClear =>
      simp only [step, closeClear]
      split <;> rfl
  | closeNotify =>
      simp only [step, closeNotify]
      split <;> rfl

/-- The write in flight is the front of the queue exactly as long as Close has
not emptied the queue during it: what is enqueued later is another packet. -/
theorem Inv.front_iff {w : Writer} (inv : w.Inv) {index : Nat} {flight : Flight}
    (found : w.inFlight[index]? = some flight) :
    w.writeQueue.head? = some flight.packet ↔ flight.cleared = false := by
  obtain ⟨only, _zero, noPicked, _starting⟩ := inv.of_inFlight found
  obtain ⟨gone, ordered⟩ := inv.ordered_of_inFlight found
  have live := live_single noPicked only
  cases cleared : flight.cleared with
  | false =>
      have atFront := ordered.atFront
      rw [live, cleared] at atFront
      obtain ⟨rest, queue⟩ := atFront
      rw [← queue]
      exact ⟨fun _front => rfl, fun _kept => rfl⟩
  | true =>
      constructor
      · intro front
        have queued : flight.packet ∈ w.writeQueue := List.mem_of_mem_head? front
        have member : flight ∈ w.flights := List.mem_append_right _ (by rw [only]; simp)
        have distinct := inv.enqueued_nodup
        rw [ordered.accounts] at distinct
        exact absurd queued
          (List.disjoint_of_nodup_append distinct (ordered.clearedGone flight member cleared))
      · intro impossible
        cases impossible

theorem Inv.safe_iff {w : Writer} (inv : w.Inv) :
    w.Safe ↔ ∀ completion ∈ w.completed, completion.2 = some completion.1 := by
  constructor
  · exact Safe.popsCompleted
  · intro pops
    have single := inv.single_le
    exact
      { oneOutstanding := by omega
        inEnqueueOrder := inv.handed_sublist
        handedOnce := inv.handed_sublist.nodup inv.enqueued_nodup
        popsCompleted := pops }

theorem step_safe_iff (w : Writer) (event : Event) (inv : w.Inv) (safe : w.Safe) :
    (w.step event).Safe ↔ w.QueueKept event := by
  rw [(step_inv inv event).safe_iff]
  cases event with
  | succeed index =>
      simp only [QueueKept, step]
      cases found : w.inFlight[index]? with
      | none =>
          have same : w.succeed index = w := by simp only [succeed, found]
          rw [same]
          exact ⟨fun _pops flight impossible => (by cases impossible), fun _kept => safe.popsCompleted⟩
      | some flight =>
          rw [succeed_completed found]
          have front := inv.front_iff found
          constructor
          · intro pops other same
            cases same
            exact front.mp (pops _ (List.mem_append_right _ (List.mem_singleton.mpr rfl)))
          · intro kept completion member
            rcases List.mem_append.mp member with earlier | last
            · exact safe.popsCompleted completion earlier
            · rw [List.mem_singleton.mp last]
              exact front.mpr (kept flight rfl)
  | enqueue | pick | launch | fail | closeTest | closeMark | closeClear | closeNotify =>
      rw [completed_of_not_succeed w (by intro index impossible; cases impossible)]
      exact ⟨fun _pops => trivial, fun _kept => safe.popsCompleted⟩

theorem safe_new : new.Safe :=
  inv_new.safe_iff.mpr (by
    intro completion impossible
    cases impossible)

/-- A run is safe in every state it reaches if and only if no write succeeds
during which Close has emptied the queue. -/
theorem always_safe_iff (events : List Event) :
    Always step new events Safe ↔ Along step new events QueueKept :=
  always_iff_along inv_new safe_new (fun _w event inv => step_inv inv event)
    step_safe_iff events

/-- One packet is being written when the link is closed; the write had finished
and its handler pops the emptied queue. -/
theorem close_during_write_unsafe :
    ¬ ∀ events : List Event, Always step new events Safe := by
  intro always
  have last := (always [.enqueue [1], .pick, .launch 0, .closeTest, .closeMark, .closeClear,
    .succeed 0]).last.popsCompleted
  exact absurd (last ({ ptr := 0, bytes := [1] }, none) (by decide)) (by decide)

end Writer

end RanOnline.Net
