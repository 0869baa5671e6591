/-
Asynchronous operations and their handlers.

An operation is outstanding until it completes; its completion is then ready until a
worker runs the handler, stage by stage.  Arguments about how many operations are on
their way go by tokens: a kind of state that one operation at most is in.
-/
import Mathlib.Data.Finset.Card
import Mathlib.Logic.Function.Basic

namespace RanOnline.AsyncOps

/-- What was started with a tag `τ` completes with a result `ρ` and is handled in
stages `σ`. -/
inductive OpState (τ ρ σ : Type)
  | outstanding (tag : τ)
  | ready (tag : τ) (result : ρ)
  | running (stage : σ)
  | done
  deriving DecidableEq

variable {τ ρ σ : Type}

def OpState.isRunning : OpState τ ρ σ → Bool
  | .running _ => true
  | _ => false

/-- What the handler still has to do, by its stage. -/
def OpState.load (left : σ → Nat) : OpState τ ρ σ → Nat
  | .running stage => left stage
  | .outstanding _ | .ready _ _ | .done => 0

/-- The operations started so far, numbered in order. -/
structure Ops (τ ρ σ : Type) where
  state : Nat → OpState τ ρ σ
  count : Nat
  unused : ∀ op, count ≤ op → state op = .done

namespace Ops

def empty : Ops τ ρ σ where
  state := fun _ => .done
  count := 0
  unused := fun _op _new => rfl

variable (ops : Ops τ ρ σ)

/-- Start an operation. -/
def add (state : OpState τ ρ σ) : Ops τ ρ σ where
  state := Function.update ops.state ops.count state
  count := ops.count + 1
  unused := by
    intro op new
    rw [Function.update_of_ne (by omega)]
    exact ops.unused op (by omega)

def set (op : Nat) (state : OpState τ ρ σ) : Ops τ ρ σ where
  state := if op < ops.count then Function.update ops.state op state else ops.state
  count := ops.count
  unused := by
    intro other new
    split
    · rw [Function.update_of_ne (by omega)]
      exact ops.unused other new
    · exact ops.unused other new

def complete (op : Nat) (result : ρ) : Ops τ ρ σ :=
  match ops.state op with
  | .outstanding tag => ops.set op (.ready tag result)
  | _ => ops

/-- Complete the outstanding operations with such tags; a completion that is ready
is not revoked. -/
def cancel (which : τ → Bool) (result : ρ) : Ops τ ρ σ where
  state := fun op =>
    match ops.state op with
    | .outstanding tag => if which tag then .ready tag result else .outstanding tag
    | other => other
  count := ops.count
  unused := by
    intro op new
    rw [ops.unused op new]

def number (kind : OpState τ ρ σ → Bool) : Nat :=
  ((Finset.range ops.count).filter fun op => kind (ops.state op) = true).card

/-- No handler is running. -/
def idle : Bool := (List.range ops.count).all fun op => !(ops.state op).isRunning

variable {ops}

theorem set_same {op : Nat} {before after : OpState τ ρ σ} (found : ops.state op = before)
    (used : before ≠ .done) : (ops.set op after).state = Function.update ops.state op after := by
  have known : op < ops.count := by
    by_contra new
    exact used (found.symm.trans (ops.unused op (Nat.not_lt.mp new)))
  exact if_pos known

theorem idle_iff : ops.idle = true ↔ ∀ op, (ops.state op).isRunning = false := by
  rw [idle, List.all_eq_true]
  constructor
  · intro all op
    by_cases known : op < ops.count
    · have here := all op (List.mem_range.mpr known)
      rwa [Bool.not_eq_true'] at here
    · rw [ops.unused op (Nat.not_lt.mp known)]
      rfl
  · intro all op _member
    rw [all op]
    rfl

/-- What holds of every operation before one of them moves on. -/
theorem forall_set {property : OpState τ ρ σ → Prop} (holds : ∀ op, property (ops.state op))
    (op : Nat) {state : OpState τ ρ σ} (new : property state) (other : Nat) :
    property ((ops.set op state).state other) := by
  change property ((if op < ops.count then Function.update ops.state op state else ops.state) other)
  split
  · by_cases here : other = op
    · subst here
      rw [Function.update_self]
      exact new
    · rw [Function.update_of_ne here]
      exact holds other
  · exact holds other

theorem forall_add {property : OpState τ ρ σ → Prop} (holds : ∀ op, property (ops.state op))
    {state : OpState τ ρ σ} (new : property state) (other : Nat) :
    property ((ops.add state).state other) := by
  change property (Function.update ops.state ops.count state other)
  by_cases here : other = ops.count
  · subst here
    rw [Function.update_self]
    exact new
  · rw [Function.update_of_ne here]
    exact holds other

theorem forall_complete {property : OpState τ ρ σ → Prop} (holds : ∀ op, property (ops.state op))
    (op : Nat) (result : ρ)
    (kept : ∀ tag, property (.outstanding tag) → property (.ready tag result)) (other : Nat) :
    property ((ops.complete op result).state other) := by
  unfold complete
  split
  · rename_i tag found
    exact forall_set holds op (kept tag (found ▸ holds op)) other
  · exact holds other

theorem forall_cancel {property : OpState τ ρ σ → Prop} (holds : ∀ op, property (ops.state op))
    (which : τ → Bool) (result : ρ)
    (kept : ∀ tag, property (.outstanding tag) → property (.ready tag result)) (other : Nat) :
    property ((ops.cancel which result).state other) := by
  have here := holds other
  change property (match ops.state other with
    | .outstanding tag => if which tag then .ready tag result else .outstanding tag
    | other => other)
  split
  · rename_i tag found
    rw [found] at here
    split
    · exact kept tag here
    · exact here
  · exact here

/-! ### Tokens -/

section Tokens

variable {token : OpState τ ρ σ → Prop}

def AtMostOne (token : OpState τ ρ σ → Prop) (ops : Ops τ ρ σ) : Prop :=
  ∀ first second, token (ops.state first) → token (ops.state second) → first = second

def ExactlyOne (token : OpState τ ρ σ → Prop) (ops : Ops τ ρ σ) : Prop :=
  ∃ op, token (ops.state op) ∧ ∀ other, token (ops.state other) → other = op

theorem AtMostOne.set (single : AtMostOne token ops) {op : Nat} {state : OpState τ ρ σ}
    (kept : token state → token (ops.state op)) : AtMostOne token (ops.set op state) := by
  have back : ∀ other, token ((ops.set op state).state other) → token (ops.state other) := by
    intro other
    change token ((if op < ops.count then Function.update ops.state op state else ops.state) other)
      → _
    split
    · by_cases here : other = op
      · subst here
        rw [Function.update_self]
        exact kept
      · rw [Function.update_of_ne here]
        exact id
    · exact id
  intro first second here there
  exact single first second (back first here) (back second there)

theorem AtMostOne.complete (single : AtMostOne token ops) (op : Nat) (result : ρ)
    (kept : ∀ tag, token (.ready tag result) → token (.outstanding tag)) :
    AtMostOne token (ops.complete op result) := by
  unfold Ops.complete
  split
  · rename_i tag found
    apply single.set
    rw [found]
    exact kept tag
  · exact single

theorem AtMostOne.cancel (single : AtMostOne token ops) (which : τ → Bool) (result : ρ)
    (kept : ∀ tag, token (.ready tag result) → token (.outstanding tag)) :
    AtMostOne token (ops.cancel which result) := by
  have back : ∀ other, token ((ops.cancel which result).state other) →
      token (ops.state other) := by
    intro other
    change token (match ops.state other with
      | .outstanding tag => if which tag then .ready tag result else .outstanding tag
      | other => other) → _
    cases ops.state other with
    | outstanding tag =>
        simp only
        split
        · exact kept tag
        · exact id
    | ready tag result => exact id
    | running stage => exact id
    | done => exact id
  intro first second here there
  exact single first second (back first here) (back second there)

theorem exactlyOne_add {state : OpState τ ρ σ} (none : ∀ op, ¬token (ops.state op))
    (new : token state) : ExactlyOne token (ops.add state) := by
  refine ⟨ops.count, ?_, ?_⟩
  · change token (Function.update ops.state ops.count state ops.count)
    rw [Function.update_self]
    exact new
  · intro other here
    by_contra different
    change token (Function.update ops.state ops.count state other) at here
    rw [Function.update_of_ne different] at here
    exact none other here

theorem ExactlyOne.atMostOne (unique : ExactlyOne token ops) : AtMostOne token ops := by
  obtain ⟨op, _here, only⟩ := unique
  intro first second isFirst isSecond
  rw [only first isFirst, only second isSecond]

theorem ExactlyOne.set (unique : ExactlyOne token ops) {op : Nat}
    {before after : OpState τ ρ σ} (found : ops.state op = before) (used : before ≠ .done)
    (kept : token after ↔ token before) : ExactlyOne token (ops.set op after) := by
  have same : ∀ other, token ((ops.set op after).state other) ↔ token (ops.state other) := by
    intro other
    rw [set_same found used]
    by_cases here : other = op
    · subst here
      rw [Function.update_self, found]
      exact kept
    · rw [Function.update_of_ne here]
  obtain ⟨owner, here, only⟩ := unique
  exact ⟨owner, (same owner).mpr here, fun other there => only other ((same other).mp there)⟩

/-- The holder of the token gives it up. -/
theorem AtMostOne.drop (single : AtMostOne token ops) {op : Nat} (here : token (ops.state op))
    (used : ¬token .done) (other : Nat) : ¬token ((ops.set op .done).state other) := by
  have busy : ops.state op ≠ .done := by
    intro finished
    rw [finished] at here
    exact used here
  rw [set_same rfl busy]
  by_cases same : other = op
  · subst same
    rw [Function.update_self]
    exact used
  · rw [Function.update_of_ne same]
    intro there
    exact same (single other op there here)

theorem ExactlyOne.complete (unique : ExactlyOne token ops) (op : Nat) (result : ρ)
    (kept : ∀ tag, token (.ready tag result) ↔ token (.outstanding tag)) :
    ExactlyOne token (ops.complete op result) := by
  unfold Ops.complete
  split
  · rename_i tag found
    exact unique.set found (by intro impossible; cases impossible) (kept tag)
  · exact unique

end Tokens

section Number

variable {kind : OpState τ ρ σ → Bool}

theorem number_le_one (single : AtMostOne (fun state => kind state = true) ops) :
    ops.number kind ≤ 1 := by
  rw [number, Finset.card_le_one]
  intro first isFirst second isSecond
  exact single first second (Finset.mem_filter.mp isFirst).2 (Finset.mem_filter.mp isSecond).2

theorem number_eq_one (unique : ExactlyOne (fun state => kind state = true) ops)
    (used : kind .done = false) : ops.number kind = 1 := by
  obtain ⟨op, here, only⟩ := unique
  have known : op < ops.count := by
    by_contra new
    rw [ops.unused op (Nat.not_lt.mp new), used] at here
    cases here
  rw [number, Finset.card_eq_one]
  refine ⟨op, ?_⟩
  ext other
  rw [Finset.mem_filter, Finset.mem_singleton]
  constructor
  · intro there
    exact only other there.2
  · rintro rfl
    exact ⟨Finset.mem_range.mpr known, here⟩

theorem number_eq_zero (used : kind .done = false) :
    ops.number kind = 0 ↔ ∀ op, kind (ops.state op) = false := by
  rw [number, Finset.card_eq_zero, Finset.filter_eq_empty_iff]
  constructor
  · intro none op
    by_cases known : op < ops.count
    · have here := none (Finset.mem_range.mpr known)
      rwa [Bool.not_eq_true] at here
    · rw [ops.unused op (Nat.not_lt.mp known)]
      exact used
  · intro none op _known
    rw [none op]
    exact Bool.false_ne_true

end Number

/-! ### Work left -/

section Work

variable {left : σ → Nat}

/-- The work that a handler has before it, none where it is not running. -/
def load (left : σ → Nat) (ops : Ops τ ρ σ) (op : Nat) : Nat := (ops.state op).load left

theorem load_running {op : Nat} {stage : σ} (running : ops.state op = .running stage) :
    ops.load left op = left stage := by
  rw [load, running, OpState.load]

theorem load_beyond {op : Nat} (new : ops.count ≤ op) : ops.load left op = 0 := by
  rw [load, ops.unused op new, OpState.load]

theorem load_set {op : Nat} {before : OpState τ ρ σ} (found : ops.state op = before)
    (used : before ≠ .done) (after : OpState τ ρ σ) (other : Nat) :
    (ops.set op after).load left other =
      if other = op then after.load left else ops.load left other := by
  unfold load
  rw [set_same found used, Function.update_apply]
  split <;> rfl

theorem load_add {state : OpState τ ρ σ} (resting : state.isRunning = false) (other : Nat) :
    (ops.add state).load left other = ops.load left other := by
  change (Function.update ops.state ops.count state other).load left = (ops.state other).load left
  rw [Function.update_apply]
  split
  · rename_i here
    rw [here, ops.unused _ (Nat.le_refl _)]
    cases state with
    | running stage => cases resting
    | outstanding tag => rfl
    | ready tag result => rfl
    | done => rfl
  · rfl

theorem load_complete (op : Nat) (result : ρ) (other : Nat) :
    (ops.complete op result).load left other = ops.load left other := by
  unfold complete
  split
  · rename_i tag found
    rw [load_set found nofun]
    split
    · rename_i here
      rw [here, load, found]
      rfl
    · rfl
  · rfl

theorem load_cancel (which : τ → Bool) (result : ρ) (other : Nat) :
    (ops.cancel which result).load left other = ops.load left other := by
  unfold load cancel
  cases found : ops.state other with
  | outstanding tag =>
      simp only [found]
      cases which tag with
      | false => rfl
      | true => rfl
  | ready tag result => simp only [found]
  | running stage => simp only [found]
  | done => simp only [found]

theorem idle_of_load (positive : ∀ stage, 0 < left stage) (none : ∀ op, ops.load left op = 0) :
    ops.idle = true := by
  apply idle_iff.mpr
  intro op
  cases state : ops.state op with
  | running stage =>
      have busy := none op
      rw [load_running state] at busy
      exact absurd busy (Nat.ne_of_gt (positive stage))
  | outstanding tag => rfl
  | ready tag result => rfl
  | done => rfl

/-- No handler has more work than before, and this one has less unless it had none. -/
structure Advances (left : σ → Nat) (op : Nat) (before after : Ops τ ρ σ) : Prop where
  others : ∀ other, after.load left other ≤ before.load left other
  lowered : before.load left op ≠ 0 → after.load left op < before.load left op

theorem advances_set {op : Nat} {stage : σ} (running : ops.state op = .running stage)
    {after : OpState τ ρ σ} (less : after.load left < left stage) :
    Advances left op ops (ops.set op after) := by
  have here : (ops.set op after).load left op < ops.load left op := by
    rw [load_set running nofun, if_pos rfl, load_running running]
    exact less
  constructor
  · intro other
    by_cases same : other = op
    · rw [same]
      exact Nat.le_of_lt here
    · rw [load_set running nofun, if_neg same]
  · exact fun _busy => here

theorem advances_still {op : Nat} (resting : ops.load left op = 0) : Advances left op ops ops :=
  { others := fun _other => Nat.le_refl _
    lowered := fun busy => absurd resting busy }

theorem Advances.congr {op : Nat} {before after later : Ops τ ρ σ}
    (advances : Advances left op before after)
    (same : ∀ other, later.load left other = after.load left other) :
    Advances left op before later := by
  constructor
  · intro other
    rw [same]
    exact advances.others other
  · rw [same]
    exact advances.lowered

end Work

end Ops

end RanOnline.AsyncOps
