/-
Threads that lock, and why none of them waits for ever.

A script is what a function does with mutexes and with the data that threads
share; everything else in it is left out.  A discipline ranks the mutexes and names
the mutex that guards a datum.  Where every script locks in ascending rank and
touches a guarded datum only under its mutex, threads that run any scripts never
touch one guarded datum at a time, and from every state that they reach they can
all finish.
-/
import Mathlib.Algebra.Order.BigOperators.Group.Finset
import Mathlib.Data.Set.Subsingleton
import RanOnline.Lib.StepRun

namespace RanOnline.Locking

variable {ι ν τ κ : Type}

inductive Script (ι ν : Type) : Type
  | skip
  | touch (datum : ν)
  | holding (lock : ι) (body : Script ι ν)
  | seq (first second : Script ι ν)
  | choose (branch : Nat → Script ι ν)
  | many (body : Script ι ν)

namespace Script

def either (first second : Script ι ν) : Script ι ν :=
  .choose fun
    | 0 => first
    | _ => second

def both : List (Script ι ν) → Script ι ν
  | [] => .skip
  | first :: rest => .seq first (both rest)

/-- What is left to run after a step that takes no mutex. -/
def unfold (pick : Nat) : Script ι ν → List (Script ι ν)
  | .skip => []
  | .touch _ => []
  | .holding _ _ => []
  | .seq first second => [first, second]
  | .choose branch => [branch pick]
  | .many body => if pick = 0 then [] else [body, .many body]

/-- How many steps a script takes that makes the first choice everywhere. -/
def work : Script ι ν → Nat
  | .skip => 1
  | .touch _ => 1
  | .holding _ body => body.work + 2
  | .seq first second => first.work + second.work + 1
  | .choose branch => (branch 0).work + 1
  | .many _ => 1

end Script

/-! ### Threads -/

inductive Frame (ι ν : Type) : Type
  | run (script : Script ι ν)
  | unlock (lock : ι)

/-- The mutexes that a thread with these frames holds, the last one taken first. -/
def owned : List (Frame ι ν) → List ι
  | [] => []
  | .run _ :: rest => owned rest
  | .unlock lock :: rest => lock :: owned rest

def work : List (Frame ι ν) → Nat
  | [] => 0
  | .run script :: rest => script.work + work rest
  | .unlock _ :: rest => work rest + 1

theorem owned_run (scripts : List (Script ι ν)) (rest : List (Frame ι ν)) :
    owned (scripts.map .run ++ rest) = owned rest := by
  induction scripts with
  | nil => rfl
  | cons script scripts ih => exact ih

structure System (τ ι ν : Type) where
  owner : ι → Option τ
  stack : τ → List (Frame ι ν)

inductive Event (τ κ : Type) : Type
  | begin (thread : τ) (job : κ)
  | advance (thread : τ) (pick : Nat)

namespace System

def idle : System τ ι ν :=
  { owner := fun _ => none
    stack := fun _ => [] }

variable [DecidableEq τ] [DecidableEq ι]

def put (state : System τ ι ν) (thread : τ) (frames : List (Frame ι ν)) : System τ ι ν :=
  { state with stack := Function.update state.stack thread frames }

def own (state : System τ ι ν) (lock : ι) (holder : Option τ) : System τ ι ν :=
  { state with owner := Function.update state.owner lock holder }

/-- A thread that meets a mutex which some thread holds stays where it is. -/
def advance (state : System τ ι ν) (thread : τ) (pick : Nat) : System τ ι ν :=
  match state.stack thread with
  | [] => state
  | .unlock lock :: rest => (state.own lock none).put thread rest
  | .run script :: rest =>
      match script with
      | .holding lock body =>
          match state.owner lock with
          | none => (state.own lock (some thread)).put thread (.run body :: .unlock lock :: rest)
          | some _ => state
      | other => state.put thread ((other.unfold pick).map .run ++ rest)

/-- A thread that has finished a script may begin with the next one. -/
def step (job : κ → Script ι ν) (state : System τ ι ν) : Event τ κ → System τ ι ν
  | .begin thread which =>
      match state.stack thread with
      | [] => state.put thread [.run (job which)]
      | _ :: _ => state
  | .advance thread pick => state.advance thread pick

/-- The thread stands before a mutex that is taken. -/
def Waiting (state : System τ ι ν) (thread : τ) (lock : ι) : Prop :=
  ∃ body rest, state.stack thread = .run (.holding lock body) :: rest ∧ state.owner lock ≠ none

/-- The threads whose next step touches the datum. -/
def touching (state : System τ ι ν) (datum : ν) : Set τ :=
  { thread | ∃ rest, state.stack thread = .run (.touch datum) :: rest }

omit [DecidableEq ι] in
@[simp] theorem put_same (state : System τ ι ν) (thread : τ) (frames : List (Frame ι ν)) :
    (state.put thread frames).stack thread = frames := Function.update_self ..

omit [DecidableEq ι] in
theorem put_other (state : System τ ι ν) {thread other : τ} (frames : List (Frame ι ν))
    (different : other ≠ thread) : (state.put thread frames).stack other = state.stack other :=
  Function.update_of_ne different ..

inductive Advanced (state : System τ ι ν) (thread : τ) (pick : Nat) : System τ ι ν → Prop
  | finished (empty : state.stack thread = []) : Advanced state thread pick state
  | waits (lock : ι) (waiting : state.Waiting thread lock) : Advanced state thread pick state
  | unfolds (script : Script ι ν) (rest : List (Frame ι ν))
      (here : state.stack thread = .run script :: rest)
      (free : ∀ lock body, script ≠ .holding lock body) :
      Advanced state thread pick
        (state.put thread ((script.unfold pick).map .run ++ rest))
  | acquires (lock : ι) (body : Script ι ν) (rest : List (Frame ι ν))
      (here : state.stack thread = .run (.holding lock body) :: rest)
      (free : state.owner lock = none) :
      Advanced state thread pick
        ((state.own lock (some thread)).put thread (.run body :: .unlock lock :: rest))
  | releases (lock : ι) (rest : List (Frame ι ν))
      (here : state.stack thread = .unlock lock :: rest) :
      Advanced state thread pick ((state.own lock none).put thread rest)

theorem advanced (state : System τ ι ν) (thread : τ) (pick : Nat) :
    Advanced state thread pick (state.advance thread pick) := by
  unfold advance
  split
  · next empty => exact .finished empty
  · next lock rest here => exact .releases lock rest here
  · next script rest here =>
      split
      · next lock body =>
          split
          · next free => exact .acquires lock body rest here free
          · next holder held =>
              have taken : state.owner lock ≠ none := by
                rw [held]
                exact Option.some_ne_none holder
              exact .waits lock ⟨body, rest, here, taken⟩
      · next other => exact .unfolds script rest here other

end System

/-! ### The discipline -/

structure Discipline (ι ν : Type) where
  rank : ι → Nat
  top : Nat
  rank_le : ∀ lock, rank lock ≤ top
  guard : ν → Option ι

variable (rules : Discipline ι ν)

def Script.Follows : Script ι ν → List ι → Prop
  | .skip, _ => True
  | .touch datum, held => ∀ lock, rules.guard datum = some lock → lock ∈ held
  | .holding lock body, held =>
      (∀ other, other ∈ held → rules.rank other < rules.rank lock) ∧ body.Follows (lock :: held)
  | .seq first second, held => first.Follows held ∧ second.Follows held
  | .choose branch, held => ∀ pick, (branch pick).Follows held
  | .many body, held => body.Follows held

def Follows : List (Frame ι ν) → Prop
  | [] => True
  | .run script :: rest => script.Follows rules (owned rest) ∧ Follows rest
  | .unlock lock :: rest =>
      (∀ other, other ∈ owned rest → rules.rank other < rules.rank lock) ∧ Follows rest

theorem Script.follows_either (first second : Script ι ν) (held : List ι) :
    (either first second).Follows rules held ↔
      first.Follows rules held ∧ second.Follows rules held := by
  constructor
  · intro follows
    exact ⟨follows 0, follows 1⟩
  · intro follows pick
    cases pick with
    | zero => exact follows.1
    | succ pick => exact follows.2

theorem Script.follows_both (scripts : List (Script ι ν)) (held : List ι) :
    (both scripts).Follows rules held ↔ ∀ script, script ∈ scripts → script.Follows rules held := by
  induction scripts with
  | nil => simp [both, Follows]
  | cons script scripts ih => simp [both, Follows, ih]

variable {rules}

theorem Script.Follows.unfold {script : Script ι ν} {held : List ι}
    (follows : script.Follows rules held) (pick : Nat) {left : Script ι ν}
    (member : left ∈ script.unfold pick) : left.Follows rules held := by
  cases script with
  | skip => cases member
  | touch datum => cases member
  | holding lock body => cases member
  | seq first second =>
      rcases List.mem_pair.mp member with same | same
      · exact same ▸ follows.1
      · exact same ▸ follows.2
  | choose branch => exact List.mem_singleton.mp member ▸ follows pick
  | many body =>
      change left ∈ if pick = 0 then [] else [body, .many body] at member
      by_cases leaves : pick = 0
      · rw [if_pos leaves] at member
        cases member
      · rw [if_neg leaves] at member
        rcases List.mem_pair.mp member with same | same
        · exact same ▸ follows
        · exact same ▸ follows

theorem follows_run {scripts : List (Script ι ν)} {rest : List (Frame ι ν)}
    (each : ∀ script, script ∈ scripts → script.Follows rules (owned rest))
    (follows : Follows rules rest) : Follows rules (scripts.map .run ++ rest) := by
  induction scripts with
  | nil => exact follows
  | cons script scripts ih =>
      constructor
      · change script.Follows rules (owned (scripts.map .run ++ rest))
        rw [owned_run]
        exact each script List.mem_cons_self
      · exact ih fun other member => each other (List.mem_cons_of_mem _ member)

/-- Every thread keeps to the rules, and a mutex belongs to the thread that has yet to
unlock it. -/
structure Coherent (rules : Discipline ι ν) (state : System τ ι ν) : Prop where
  follows : ∀ thread, Follows rules (state.stack thread)
  owner_iff : ∀ lock thread, state.owner lock = some thread ↔ lock ∈ owned (state.stack thread)

theorem coherent_idle : Coherent rules (System.idle : System τ ι ν) := by
  constructor
  · intro _thread
    trivial
  · intro lock thread
    constructor
    · intro owns
      cases owns
    · intro member
      exact absurd member List.not_mem_nil

namespace Coherent

variable [DecidableEq τ] {state : System τ ι ν}

/-- A thread changes its frames and no mutex. -/
theorem put (coherent : Coherent rules state) {thread : τ} {frames : List (Frame ι ν)}
    (follows : Follows rules frames) (same : owned frames = owned (state.stack thread)) :
    Coherent rules (state.put thread frames) := by
  constructor
  · intro other
    by_cases equal : other = thread
    · subst other
      rw [System.put_same]
      exact follows
    · rw [System.put_other _ _ equal]
      exact coherent.follows other
  · intro lock other
    by_cases equal : other = thread
    · subst other
      rw [System.put_same, same]
      exact coherent.owner_iff lock thread
    · rw [System.put_other _ _ equal]
      exact coherent.owner_iff lock other

variable [DecidableEq ι]

theorem acquire (coherent : Coherent rules state) {thread : τ} {lock : ι} {body : Script ι ν}
    {rest : List (Frame ι ν)} (here : state.stack thread = .run (.holding lock body) :: rest)
    (free : state.owner lock = none) :
    Coherent rules
      ((state.own lock (some thread)).put thread (.run body :: .unlock lock :: rest)) := by
  have follows := coherent.follows thread
  rw [here] at follows
  obtain ⟨⟨above, inside⟩, after⟩ := follows
  have mine := fun other => coherent.owner_iff other thread
  rw [here] at mine
  constructor
  · intro other
    by_cases equal : other = thread
    · subst other
      rw [System.put_same]
      exact ⟨inside, above, after⟩
    · rw [System.put_other _ _ equal]
      exact coherent.follows other
  · intro other owner
    by_cases equal : owner = thread
    · subst owner
      rw [System.put_same]
      change Function.update state.owner lock (some thread) other = some thread ↔
        other ∈ lock :: owned rest
      by_cases taken : other = lock
      · subst other
        simp only [Function.update_self, List.mem_cons_self]
      · rw [Function.update_of_ne taken, mine other, List.mem_cons]
        exact (or_iff_right taken).symm
    · rw [System.put_other _ _ equal]
      change Function.update state.owner lock (some thread) other = some owner ↔
        other ∈ owned (state.stack owner)
      by_cases taken : other = lock
      · subst other
        rw [Function.update_self, ← coherent.owner_iff, free]
        constructor
        · intro same
          exact absurd (Option.some.inj same).symm equal
        · intro impossible
          cases impossible
      · rw [Function.update_of_ne taken]
        exact coherent.owner_iff other owner

theorem release (coherent : Coherent rules state) {thread : τ} {lock : ι}
    {rest : List (Frame ι ν)} (here : state.stack thread = .unlock lock :: rest) :
    Coherent rules ((state.own lock none).put thread rest) := by
  have follows := coherent.follows thread
  rw [here] at follows
  obtain ⟨above, after⟩ := follows
  have mine := fun other => coherent.owner_iff other thread
  rw [here] at mine
  have held : state.owner lock = some thread := (mine lock).mpr List.mem_cons_self
  constructor
  · intro other
    by_cases equal : other = thread
    · subst other
      rw [System.put_same]
      exact after
    · rw [System.put_other _ _ equal]
      exact coherent.follows other
  · intro other owner
    by_cases taken : other = lock
    · subst other
      change Function.update state.owner lock none lock = some owner ↔ _
      rw [Function.update_self]
      constructor
      · intro impossible
        cases impossible
      · intro member
        by_cases equal : owner = thread
        · -- the thread held the mutex once only: what it took before ranks below
          subst owner
          rw [System.put_same] at member
          exact absurd (above lock member) (Nat.lt_irrefl _)
        · rw [System.put_other _ _ equal] at member
          have theirs := (coherent.owner_iff lock owner).mpr member
          rw [held] at theirs
          exact absurd (Option.some.inj theirs).symm equal
    · change Function.update state.owner lock none other = some owner ↔ _
      rw [Function.update_of_ne taken]
      by_cases equal : owner = thread
      · subst owner
        rw [System.put_same, mine other]
        exact List.mem_cons.trans (or_iff_right taken)
      · rw [System.put_other _ _ equal]
        exact coherent.owner_iff other owner

theorem advance (coherent : Coherent rules state) (thread : τ) (pick : Nat) :
    Coherent rules (state.advance thread pick) := by
  have moved := System.advanced state thread pick
  generalize state.advance thread pick = next at moved
  cases moved with
  | finished empty => exact coherent
  | waits lock waiting => exact coherent
  | unfolds script rest here free =>
      have follows := coherent.follows thread
      rw [here] at follows
      apply coherent.put
      · exact follows_run (fun left member => follows.1.unfold pick member) follows.2
      · rw [here, owned_run]
        rfl
  | acquires lock body rest here free => exact coherent.acquire here free
  | releases lock rest here => exact coherent.release here

theorem step {job : κ → Script ι ν} (safe : ∀ which, (job which).Follows rules [])
    (coherent : Coherent rules state) (event : Event τ κ) :
    Coherent rules (state.step job event) := by
  cases event with
  | begin thread which =>
      rw [System.step]
      split
      · next empty =>
          apply coherent.put
          · exact ⟨safe which, trivial⟩
          · rw [empty]
            rfl
      · exact coherent
  | advance thread pick => exact coherent.advance thread pick

theorem run {job : κ → Script ι ν} (safe : ∀ which, (job which).Follows rules [])
    (coherent : Coherent rules state) (events : List (Event τ κ)) :
    Coherent rules (StepRun.run (System.step job) state events) := by
  induction events using List.reverseRecOn with
  | nil => exact coherent
  | append_singleton events event ih =>
      rw [StepRun.run_snoc]
      exact ih.step safe event

/-! ### What the discipline rules out -/

omit [DecidableEq τ] [DecidableEq ι] in
theorem exclusive (coherent : Coherent rules state) {lock : ι} {first second : τ}
    (heldFirst : lock ∈ owned (state.stack first))
    (heldSecond : lock ∈ owned (state.stack second)) : first = second := by
  have owns := (coherent.owner_iff lock first).mpr heldFirst
  rw [(coherent.owner_iff lock second).mpr heldSecond] at owns
  exact (Option.some.inj owns).symm

omit [DecidableEq τ] [DecidableEq ι] in
theorem holds_guard (coherent : Coherent rules state) {datum : ν} {lock : ι}
    (guarded : rules.guard datum = some lock) {thread : τ} (member : thread ∈ state.touching datum) :
    lock ∈ owned (state.stack thread) := by
  obtain ⟨rest, here⟩ := member
  have follows := coherent.follows thread
  rw [here] at follows
  rw [here]
  exact follows.1 lock guarded

omit [DecidableEq τ] [DecidableEq ι] in
/-- One thread at a time is about to touch a datum that some mutex guards. -/
theorem touching_subsingleton (coherent : Coherent rules state) {datum : ν} {lock : ι}
    (guarded : rules.guard datum = some lock) : (state.touching datum).Subsingleton := by
  intro first atFirst second atSecond
  exact coherent.exclusive (coherent.holds_guard guarded atFirst)
    (coherent.holds_guard guarded atSecond)

omit [DecidableEq τ] [DecidableEq ι] in
/-- A thread never stands before a mutex that it holds itself. -/
theorem not_own (coherent : Coherent rules state) {thread : τ} {lock : ι} {body : Script ι ν}
    {rest : List (Frame ι ν)} (here : state.stack thread = .run (.holding lock body) :: rest) :
    lock ∉ owned (state.stack thread) := by
  have follows := coherent.follows thread
  rw [here] at follows
  rw [here]
  intro held
  exact Nat.lt_irrefl _ (follows.1.1 lock held)

omit [DecidableEq τ] [DecidableEq ι] in
/-- Who waits for a mutex waits for a thread that does not wait itself, over ever higher
ranks. -/
theorem holder_runs (coherent : Coherent rules state) {thread : τ} {lock : ι}
    (waiting : state.Waiting thread lock) :
    ∃ other, state.stack other ≠ [] ∧ ∀ lock, ¬state.Waiting other lock := by
  induction gap : rules.top - rules.rank lock using Nat.strong_induction_on
    generalizing thread lock with
  | _ gap ih =>
      obtain ⟨body, rest, here, taken⟩ := waiting
      obtain ⟨holder, holds⟩ := Option.ne_none_iff_exists'.mp taken
      have member := (coherent.owner_iff lock holder).mp holds
      by_cases waits : ∃ next, state.Waiting holder next
      · obtain ⟨next, waitsNext⟩ := waits
        have follows := coherent.follows holder
        obtain ⟨_nextBody, nextRest, nextHere, _nextTaken⟩ := id waitsNext
        rw [nextHere] at follows member
        have higher : rules.rank lock < rules.rank next := follows.1.1 lock member
        have bounded := rules.rank_le next
        exact ih (rules.top - rules.rank next) (by omega) waitsNext rfl
      · have unfinished : state.stack holder ≠ [] := by
          intro empty
          rw [empty] at member
          cases member
        exact ⟨holder, unfinished, not_exists.mp waits⟩

omit [DecidableEq τ] [DecidableEq ι] in
/-- As long as some thread is not finished, one of them can go on. -/
theorem some_runs (coherent : Coherent rules state) {thread : τ}
    (unfinished : state.stack thread ≠ []) :
    ∃ other, state.stack other ≠ [] ∧ ∀ lock, ¬state.Waiting other lock := by
  by_cases waits : ∃ lock, state.Waiting thread lock
  · obtain ⟨lock, waiting⟩ := waits
    exact coherent.holder_runs waiting
  · exact ⟨thread, unfinished, not_exists.mp waits⟩

end Coherent

/-! ### Every thread can finish -/

theorem Script.work_unfold (script : Script ι ν) (rest : List (Frame ι ν))
    (free : ∀ lock body, script ≠ .holding lock body) :
    Locking.work ((script.unfold 0).map .run ++ rest) < script.work + Locking.work rest := by
  cases script with
  | skip => exact Nat.lt_add_of_pos_left Nat.one_pos
  | touch datum => exact Nat.lt_add_of_pos_left Nat.one_pos
  | holding lock body => exact absurd rfl (free lock body)
  | seq first second =>
      change first.work + (second.work + Locking.work rest) < _
      rw [Script.work]
      omega
  | choose branch =>
      change (branch 0).work + Locking.work rest < _
      rw [Script.work]
      omega
  | many body => exact Nat.lt_add_of_pos_left Nat.one_pos

section Drain

variable [DecidableEq τ] [DecidableEq ι]

theorem System.advance_other (state : System τ ι ν) {thread other : τ} (pick : Nat)
    (different : other ≠ thread) : (state.advance thread pick).stack other = state.stack other := by
  have moved := System.advanced state thread pick
  generalize state.advance thread pick = next at moved
  cases moved with
  | finished empty => rfl
  | waits lock waiting => rfl
  | unfolds script rest here free => exact System.put_other _ _ different
  | acquires lock body rest here free => exact System.put_other _ _ different
  | releases lock rest here => exact System.put_other _ _ different

/-- A thread that is not waiting gets on with its work. -/
theorem System.advance_works (state : System τ ι ν) {thread : τ}
    (unfinished : state.stack thread ≠ []) (runs : ∀ lock, ¬state.Waiting thread lock) :
    work ((state.advance thread 0).stack thread) < work (state.stack thread) := by
  have moved := System.advanced state thread 0
  generalize state.advance thread 0 = next at moved
  cases moved with
  | finished empty => exact absurd empty unfinished
  | waits lock waiting => exact absurd waiting (runs lock)
  | unfolds script rest here free =>
      rw [System.put_same, here]
      exact script.work_unfold rest free
  | acquires lock body rest here free =>
      rw [System.put_same, here]
      change body.work + (work rest + 1) < body.work + 2 + work rest
      omega
  | releases lock rest here =>
      rw [System.put_same, here]
      exact Nat.lt_succ_self _

/-- The threads of a run that have ever begun with a script. -/
def begun : List (Event τ κ) → Finset τ
  | [] => ∅
  | .begin thread _ :: events => insert thread (begun events)
  | .advance _ _ :: events => begun events

theorem System.step_idle (job : κ → Script ι ν) {state : System τ ι ν} {thread : τ}
    (empty : state.stack thread = []) {event : Event τ κ}
    (other : ∀ which, event ≠ .begin thread which) :
    (state.step job event).stack thread = [] := by
  cases event with
  | begin starter which =>
      have different : thread ≠ starter := by
        intro same
        subst same
        exact other which rfl
      rw [System.step]
      split
      · rw [System.put_other _ _ different]
        exact empty
      · exact empty
  | advance mover pick =>
      by_cases same : thread = mover
      · subst same
        rw [System.step, System.advance, empty]
        exact empty
      · exact (System.advance_other state pick same).trans empty

theorem System.run_idle (job : κ → Script ι ν) (state : System τ ι ν) (events : List (Event τ κ))
    {thread : τ} (empty : state.stack thread = []) (never : thread ∉ begun events) :
    (StepRun.run (System.step job) state events).stack thread = [] := by
  induction events generalizing state with
  | nil => exact empty
  | cons event events ih =>
      apply ih
      · apply System.step_idle job empty
        intro which same
        subst same
        exact never (Finset.mem_insert_self thread _)
      · intro member
        apply never
        cases event with
        | begin starter which => exact Finset.mem_insert_of_mem member
        | advance mover pick => exact member

/-- From a coherent state in which finitely many threads are at work, they can all
finish, with no new script begun. -/
theorem Coherent.drains (job : κ → Script ι ν) {state : System τ ι ν}
    (coherent : Coherent rules state) (threads : Finset τ)
    (others : ∀ thread, thread ∉ threads → state.stack thread = []) :
    ∃ order : List τ, ∀ thread,
      (StepRun.run (System.step job) state (order.map (.advance · 0))).stack thread = [] := by
  induction total : (∑ thread ∈ threads, work (state.stack thread))
    using Nat.strong_induction_on generalizing state with
  | _ size ih =>
      by_cases unfinished : ∃ thread, state.stack thread ≠ []
      · obtain ⟨thread, atWork⟩ := unfinished
        obtain ⟨runner, runnerWorks, runs⟩ := coherent.some_runs atWork
        have member : runner ∈ threads := by
          by_contra outside
          exact runnerWorks (others runner outside)
        have less : ∑ thread ∈ threads, work ((state.advance runner 0).stack thread) < size := by
          rw [← total]
          apply Finset.sum_lt_sum
          · intro other _present
            by_cases same : other = runner
            · subst same
              exact Nat.le_of_lt (state.advance_works runnerWorks runs)
            · rw [System.advance_other state 0 same]
          · exact ⟨runner, member, state.advance_works runnerWorks runs⟩
        have outside : ∀ thread, thread ∉ threads →
            (state.advance runner 0).stack thread = [] := by
          intro other absent
          have different : other ≠ runner := by
            intro same
            subst same
            exact absent member
          rw [System.advance_other state 0 different]
          exact others other absent
        obtain ⟨order, finished⟩ := ih _ less (coherent.advance runner 0) outside rfl
        exact ⟨runner :: order, finished⟩
      · refine ⟨[], ?_⟩
        intro thread
        by_contra atWork
        exact unfinished ⟨thread, atWork⟩

/-- Whatever the threads have run so far, they can all finish. -/
theorem finishes {job : κ → Script ι ν} (safe : ∀ which, (job which).Follows rules [])
    (events : List (Event τ κ)) :
    ∃ order : List τ, ∀ thread,
      (StepRun.run (System.step job) System.idle
        (events ++ order.map (.advance · 0))).stack thread = [] := by
  have coherent := (@coherent_idle _ _ _ rules).run safe events
  have others : ∀ thread, thread ∉ begun events →
      (StepRun.run (System.step job) System.idle events).stack thread = [] := by
    intro thread never
    exact System.run_idle job System.idle events rfl never
  obtain ⟨order, finished⟩ := coherent.drains job (begun events) others
  refine ⟨order, ?_⟩
  intro thread
  rw [StepRun.run_append]
  exact finished thread

end Drain

end RanOnline.Locking
