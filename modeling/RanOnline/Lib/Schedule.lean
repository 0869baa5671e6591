/-
Infinite schedules of a step function, and what a run puts out on its way.

Events of a kind that occurs again and again in a schedule drive the system from
one assertion to the next, as long as the other events leave the first one alone.
-/
import Mathlib.Data.Nat.Find
import Mathlib.Data.Nat.Pairing
import RanOnline.Lib.StepRun

namespace RanOnline.StepRun

variable {σ ε ο : Type} (step : σ → ε → σ)

/-! ### Outputs -/

/-- What the events of a run put out, oldest first. -/
def outputs (emit : σ → ε → List ο) (start : σ) : List ε → List ο
  | [] => []
  | event :: events => emit start event ++ outputs emit (step start event) events

@[simp] theorem outputs_nil (emit : σ → ε → List ο) (start : σ) :
    outputs step emit start [] = [] := rfl

theorem outputs_append (emit : σ → ε → List ο) (start : σ) (first second : List ε) :
    outputs step emit start (first ++ second) =
      outputs step emit start first ++ outputs step emit (run step start first) second := by
  induction first generalizing start with
  | nil => rfl
  | cons event first ih =>
      rw [List.cons_append, outputs, ih, outputs, List.append_assoc]
      rfl

theorem outputs_snoc (emit : σ → ε → List ο) (start : σ) (events : List ε) (event : ε) :
    outputs step emit start (events ++ [event]) =
      outputs step emit start events ++ emit (run step start events) event := by
  rw [outputs_append, outputs, outputs_nil, List.append_nil]

/-! ### Infinite schedules -/

def stateAt (start : σ) (schedule : Nat → ε) : Nat → σ
  | 0 => start
  | time + 1 => step (stateAt start schedule time) (schedule time)

theorem stateAt_eq_run (start : σ) (schedule : Nat → ε) (time : Nat) :
    stateAt step start schedule time = run step start ((List.range time).map schedule) := by
  induction time with
  | zero => rfl
  | succ time ih =>
      rw [stateAt, ih, List.range_succ, List.map_append, List.map_singleton, run_snoc]

/-- Events of this kind occur again and again. -/
def Often (kind : ε → Prop) (schedule : Nat → ε) : Prop :=
  ∀ time, ∃ later, time ≤ later ∧ kind (schedule later)

variable {step}

/-- The next event of a kind that occurs again and again. -/
theorem Often.next {kind : ε → Prop} {schedule : Nat → ε} (often : Often kind schedule)
    (time : Nat) : ∃ later, time ≤ later ∧ kind (schedule later) ∧
      ∀ between, time ≤ between → between < later → ¬kind (schedule between) := by
  classical
  refine ⟨Nat.find (often time), (Nat.find_spec (often time)).1,
    (Nat.find_spec (often time)).2, ?_⟩
  intro between after before here
  exact Nat.find_min (often time) before ⟨after, here⟩

/-- What other events keep still holds when the next event of the kind occurs. -/
theorem Often.reaches {kind : ε → Prop} {schedule : Nat → ε} (often : Often kind schedule)
    {holds : Nat → Prop}
    (kept : ∀ time, ¬kind (schedule time) → holds time → holds (time + 1)) {time : Nat}
    (now : holds time) : ∃ later, time ≤ later ∧ kind (schedule later) ∧ holds later := by
  obtain ⟨later, reached, here, between⟩ := often.next time
  have waits : ∀ count, time + count ≤ later → holds (time + count) := by
    intro count
    induction count with
    | zero =>
        intro _bound
        exact now
    | succ count ih =>
        intro bound
        exact kept _ (between (time + count) (by omega) (by omega)) (ih (by omega))
  have ready := waits (later - time) (by omega)
  rw [Nat.add_sub_cancel' reached] at ready
  exact ⟨later, reached, here, ready⟩

/-- What other events keep until the next event of the kind, that event turns into
what it leads to. -/
theorem Often.leads {kind : ε → Prop} {schedule : Nat → ε} (often : Often kind schedule)
    {before after : σ → Prop} {start : σ}
    (kept : ∀ state event, ¬kind event → before state → before (step state event))
    (driven : ∀ state event, kind event → before state → after (step state event))
    {time : Nat} (holds : before (stateAt step start schedule time)) :
    ∃ later, time < later ∧ after (stateAt step start schedule later) := by
  have waits : ∀ time, ¬kind (schedule time) → before (stateAt step start schedule time) →
      before (stateAt step start schedule (time + 1)) := fun _time other => kept _ _ other
  obtain ⟨later, reached, here, ready⟩ := often.reaches waits holds
  exact ⟨later + 1, Nat.lt_succ_of_le reached, driven _ _ here ready⟩

/-- After the first events, `count` others take turns for ever. -/
def roundRobin (first : List ε) (count : Nat) (turn : Nat → ε) (time : Nat) : ε :=
  first[time]?.getD (turn (time % count))

theorem often_roundRobin (first : List ε) {count : Nat} (turn : Nat → ε) {which : Nat}
    (bound : which < count) : Often (· = turn which) (roundRobin first count turn) := by
  intro time
  have grows : time + first.length ≤ count * (time + first.length) :=
    Nat.le_mul_of_pos_left _ (by omega)
  refine ⟨count * (time + first.length) + which, by omega, ?_⟩
  have gone : first[count * (time + first.length) + which]? = none :=
    List.getElem?_eq_none_iff.mpr (by omega)
  rw [roundRobin, gone, Option.getD_none, Nat.mul_add_mod, Nat.mod_eq_of_lt bound]

/-- After the first events, countably many others take turns, each of them for ever. -/
def allTurns (first : List ε) (turn : Nat → ε) (time : Nat) : ε :=
  first[time]?.getD (turn time.unpair.2)

theorem often_allTurns (first : List ε) (turn : Nat → ε) (which : Nat) :
    Often (· = turn which) (allTurns first turn) := by
  intro time
  have late : time + first.length ≤ Nat.pair (time + first.length) which :=
    Nat.left_le_pair _ _
  refine ⟨Nat.pair (time + first.length) which, by omega, ?_⟩
  have gone : first[Nat.pair (time + first.length) which]? = none :=
    List.getElem?_eq_none_iff.mpr (by omega)
  rw [allTurns, gone, Option.getD_none, Nat.unpair_pair]

/-- A goal is reached where a measure goes down as long as it is missed. -/
theorem eventually_of_measure {measure : Nat → Nat} {goal : Nat → Prop}
    (progress : ∀ time, ¬goal time → ∃ later, time ≤ later ∧ (goal later ∨
      measure later < measure time)) (time : Nat) : ∃ later, time ≤ later ∧ goal later := by
  induction size : measure time using Nat.strong_induction_on generalizing time with
  | _ size ih =>
      by_cases reached : goal time
      · exact ⟨time, Nat.le_refl _, reached⟩
      · obtain ⟨later, after, found | smaller⟩ := progress time reached
        · exact ⟨later, after, found⟩
        · obtain ⟨last, further, found⟩ := ih _ (size ▸ smaller) later rfl
          exact ⟨last, Nat.le_trans after further, found⟩

theorem prefix_of_same {β : Type} {first second : List β} (same : second = first) :
    first <+: second := ⟨[], (List.append_nil _).trans same.symm⟩

/-- A list at the head of two others lies in the first one or reaches into the second. -/
theorem prefix_left_or_longer {β : Type} {wanted first second : List β}
    (holds : wanted <+: first ++ second) :
    wanted <+: first ∨ (first.length < wanted.length ∧ second ≠ []) := by
  by_cases short : wanted.length ≤ first.length
  · exact Or.inl (List.prefix_of_prefix_length_le holds (List.prefix_append _ _) short)
  · right
    refine ⟨Nat.not_le.mp short, ?_⟩
    intro empty
    rw [empty, List.append_nil] at holds
    exact short holds.length_le

end RanOnline.StepRun
