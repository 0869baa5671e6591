/-
Runs of a total step function.

A system is a step function over states and events; an event that is not enabled
leaves the state as it is.  A property holds throughout a run when every state
on the way has it, a condition is met along a run when it holds of every event
in the state it meets.
-/
import Mathlib.Data.List.Induction

namespace RanOnline.StepRun

variable {σ ε : Type} (step : σ → ε → σ)

def run (start : σ) (events : List ε) : σ := events.foldl step start

@[simp] theorem run_nil (start : σ) : run step start [] = start := rfl

theorem run_append (start : σ) (first second : List ε) :
    run step start (first ++ second) = run step (run step start first) second :=
  List.foldl_append

theorem run_snoc (start : σ) (events : List ε) (event : ε) :
    run step start (events ++ [event]) = step (run step start events) event := by
  rw [run_append]
  rfl

def Always (start : σ) (events : List ε) (property : σ → Prop) : Prop :=
  ∀ before after, events = before ++ after → property (run step start before)

def Along (start : σ) (events : List ε) (condition : σ → ε → Prop) : Prop :=
  ∀ before event after, events = before ++ event :: after →
    condition (run step start before) event

variable {step}

theorem Always.last {start : σ} {events : List ε} {property : σ → Prop}
    (always : Always step start events property) : property (run step start events) :=
  always events [] (List.append_nil events).symm

theorem always_of_reached {start : σ} {property : σ → Prop}
    (reached : ∀ events, property (run step start events)) (events : List ε) :
    Always step start events property := by
  intro before _after _split
  exact reached before

theorem Always.and {start : σ} {events : List ε} {first second : σ → Prop}
    (alwaysFirst : Always step start events first)
    (alwaysSecond : Always step start events second) :
    Always step start events (fun state => first state ∧ second state) := by
  intro before after split
  exact ⟨alwaysFirst before after split, alwaysSecond before after split⟩

theorem Along.weaken {start : σ} {events : List ε} {strong weak : σ → ε → Prop}
    (along : Along step start events strong)
    (weaker : ∀ state event, strong state event → weak state event) :
    Along step start events weak := by
  intro before event after split
  exact weaker _ _ (along before event after split)

private theorem prefix_snoc {events before after : List ε} {event : ε}
    (split : events ++ [event] = before ++ after) :
    (before = events ++ [event] ∧ after = []) ∨
      ∃ between, after = between ++ [event] ∧ events = before ++ between := by
  rcases List.eq_nil_or_concat after with empty | ⟨between, last, rest⟩
  · subst empty
    rw [List.append_nil] at split
    exact Or.inl ⟨split.symm, rfl⟩
  · rw [List.concat_eq_append] at rest
    subst rest
    rw [← List.append_assoc] at split
    obtain ⟨same, lastSame⟩ := List.append_inj' split rfl
    cases lastSame
    exact Or.inr ⟨between, rfl, same⟩

theorem always_nil (start : σ) (property : σ → Prop) :
    Always step start [] property ↔ property start := by
  constructor
  · intro always
    exact always.last
  · intro holds before after split
    obtain ⟨rfl, _rest⟩ := List.append_eq_nil_iff.mp split.symm
    exact holds

theorem always_snoc (start : σ) (events : List ε) (event : ε) (property : σ → Prop) :
    Always step start (events ++ [event]) property ↔
      Always step start events property ∧ property (step (run step start events) event) := by
  constructor
  · intro always
    constructor
    · intro before after split
      apply always before (after ++ [event])
      rw [split, List.append_assoc]
    · have last := always.last
      rwa [run_snoc] at last
  · rintro ⟨always, last⟩ before after split
    rcases prefix_snoc split with ⟨whole, _rest⟩ | ⟨between, _rest, shorter⟩
    · rw [whole, run_snoc]
      exact last
    · exact always before between shorter

theorem along_nil (start : σ) (condition : σ → ε → Prop) : Along step start [] condition := by
  intro before event after split
  have impossible := congrArg List.length split
  rw [List.length_append, List.length_cons] at impossible
  exact absurd impossible (by rw [List.length_nil]; omega)

theorem along_snoc (start : σ) (events : List ε) (event : ε) (condition : σ → ε → Prop) :
    Along step start (events ++ [event]) condition ↔
      Along step start events condition ∧ condition (run step start events) event := by
  constructor
  · intro along
    constructor
    · intro before earlier after split
      apply along before earlier (after ++ [event])
      rw [split, List.append_assoc, List.cons_append]
    · exact along events event [] rfl
  · rintro ⟨along, last⟩ before earlier after split
    rcases prefix_snoc split with ⟨_whole, impossible⟩ | ⟨between, rest, shorter⟩
    · cases impossible
    · cases between with
      | nil =>
          rw [List.nil_append] at rest
          cases rest
          rw [List.append_nil] at shorter
          subst shorter
          exact last
      | cons head tail =>
          cases rest
          exact along before earlier tail shorter

theorem along_cons (start : σ) (event : ε) (events : List ε) (condition : σ → ε → Prop) :
    Along step start (event :: events) condition ↔
      condition start event ∧ Along step (step start event) events condition := by
  constructor
  · intro along
    constructor
    · exact along [] event events rfl
    · intro before later after split
      apply along (event :: before) later after
      rw [split, List.cons_append]
  · rintro ⟨first, along⟩ before later after split
    cases before with
    | nil =>
        cases split
        exact first
    | cons head before =>
        cases split
        exact along before later after rfl

theorem along_append (start : σ) (first second : List ε) (condition : σ → ε → Prop) :
    Along step start (first ++ second) condition ↔
      Along step start first condition ∧ Along step (run step start first) second condition := by
  induction first generalizing start with
  | nil => exact ⟨fun along => ⟨along_nil _ _, along⟩, fun both => both.2⟩
  | cons event first ih =>
      rw [List.cons_append, along_cons, along_cons, ih, and_assoc]
      rfl

instance decidableAlong (condition : σ → ε → Prop)
    [decidable : ∀ state event, Decidable (condition state event)] :
    ∀ (start : σ) (events : List ε), Decidable (Along step start events condition)
  | start, [] => isTrue (along_nil start condition)
  | start, event :: events =>
      have _rest := decidableAlong condition (step start event) events
      decidable_of_iff _ (along_cons start event events condition).symm

/-- What holds at the start and is kept by every step holds after every run. -/
theorem run_invariant {start : σ} {invariant : σ → Prop} (holds : invariant start)
    (preserved : ∀ state event, invariant state → invariant (step state event))
    (events : List ε) : invariant (run step start events) := by
  induction events using List.reverseRecOn with
  | nil => exact holds
  | append_singleton events event ih =>
      rw [run_snoc]
      exact preserved _ event ih

/-- The same where a step keeps the property only under a condition on it. -/
theorem always_of_along {start : σ} {property : σ → Prop} {condition : σ → ε → Prop}
    (holds : property start)
    (preserved : ∀ state event, property state → condition state event →
      property (step state event))
    {events : List ε} (along : Along step start events condition) :
    Always step start events property := by
  induction events using List.reverseRecOn with
  | nil => exact (always_nil start property).mpr holds
  | append_singleton events event ih =>
      obtain ⟨earlier, last⟩ := (along_snoc start events event condition).mp along
      exact (always_snoc start events event property).mpr
        ⟨ih earlier, preserved _ event (ih earlier).last last⟩

/-- Where a condition decides, step by step, whether the property survives, it
is met along a run exactly when the property holds throughout it. -/
theorem always_iff_along {start : σ} {invariant property : σ → Prop}
    {condition : σ → ε → Prop} (invariantStart : invariant start) (holds : property start)
    (kept : ∀ state event, invariant state → invariant (step state event))
    (decided : ∀ state event, invariant state → property state →
      (property (step state event) ↔ condition state event)) (events : List ε) :
    Always step start events property ↔ Along step start events condition := by
  induction events using List.reverseRecOn with
  | nil =>
      rw [always_nil]
      exact ⟨fun _holds => along_nil start condition, fun _along => holds⟩
  | append_singleton events event ih =>
      rw [always_snoc, along_snoc, ← ih]
      have reached := run_invariant invariantStart kept events
      constructor
      · intro both
        rcases both with ⟨always, last⟩
        exact ⟨always, (decided _ event reached always.last).mp last⟩
      · intro both
        rcases both with ⟨always, last⟩
        exact ⟨always, (decided _ event reached always.last).mpr last⟩

end RanOnline.StepRun
