/-
Methods of an object: state transformers with a result.

What a method leaves as it was is proved part by part, along its text.
-/
import Mathlib.Init

namespace RanOnline.Methods

universe u

variable {σ : Type u} {α β : Type u} {ι : Sort*}

/-- The view of the object is the same before and after the method. -/
def Leaves (view : σ → ι) (method : StateM σ α) : Prop :=
  ∀ state, view (method state).2 = view state

theorem bind_get (second : σ → StateM σ β) (state : σ) :
    (get >>= second) state = second state state := rfl

theorem bind_of_eq {first : StateM σ α} {second : α → StateM σ β} {state after : σ} {value : α}
    (ran : first state = (value, after)) : (first >>= second) state = second value after := by
  change second (first state).1 (first state).2 = _
  rw [ran]

variable {view : σ → ι}

theorem leaves_pure (value : α) : Leaves view (pure value : StateM σ α) := by
  intro _state
  rfl

theorem leaves_get : Leaves view (get : StateM σ σ) := by
  intro _state
  rfl

theorem leaves_modify {change : σ → σ} (same : ∀ state, view (change state) = view state) :
    Leaves view (modify change : StateM σ PUnit) := same

theorem Leaves.bind {first : StateM σ α} {second : α → StateM σ β}
    (leavesFirst : Leaves view first) (leavesSecond : ∀ value, Leaves view (second value)) :
    Leaves view (first >>= second) := by
  intro state
  calc
    view ((first >>= second) state).2
        = view (second (first state).1 (first state).2).2 := rfl
    _ = view (first state).2 := leavesSecond _ _
    _ = view state := leavesFirst state

theorem Leaves.ite {condition : Prop} [Decidable condition] {first second : StateM σ α}
    (leavesFirst : Leaves view first) (leavesSecond : Leaves view second) :
    Leaves view (if condition then first else second) := by
  split
  · exact leavesFirst
  · exact leavesSecond

theorem Leaves.pair {κ : Sort*} {other : σ → κ} {method : StateM σ α}
    (first : Leaves view method) (second : Leaves other method) :
    Leaves (fun state => PProd.mk (view state) (other state)) method := by
  intro state
  change PProd.mk (view (method state).2) (other (method state).2) = _
  rw [first state, second state]

/-- The view of the object has this value after the method. -/
def Sets (view : σ → ι) (value : ι) (method : StateM σ α) : Prop :=
  ∀ state, view (method state).2 = value

theorem sets_modify {value : ι} {change : σ → σ} (set : ∀ state, view (change state) = value) :
    Sets view value (modify change : StateM σ PUnit) := set

theorem Sets.last {value : ι} {first : StateM σ α} {second : α → StateM σ β}
    (sets : ∀ result, Sets view value (second result)) : Sets view value (first >>= second) := by
  intro state
  exact sets _ _

theorem Sets.bind {value : ι} {first : StateM σ α} {second : α → StateM σ β}
    (sets : Sets view value first) (leaves : ∀ result, Leaves view (second result)) :
    Sets view value (first >>= second) := by
  intro state
  calc
    view ((first >>= second) state).2
        = view (second (first state).1 (first state).2).2 := rfl
    _ = view (first state).2 := leaves _ _
    _ = value := sets state

/-! ### A view that grows -/

/-- The method adds these to what the view lists. -/
def Appends {κ : Type*} (view : σ → List κ) (added : List κ) (method : StateM σ α) : Prop :=
  ∀ state, view (method state).2 = view state ++ added

section Appends

variable {κ : Type*} {lists : σ → List κ}

theorem Leaves.appends {method : StateM σ α} (leaves : Leaves lists method) :
    Appends lists [] method := by
  intro state
  rw [leaves state, List.append_nil]

theorem Appends.bind {added further : List κ} {first : StateM σ α} {second : α → StateM σ β}
    (appends : Appends lists added first) (rest : ∀ value, Appends lists further (second value)) :
    Appends lists (added ++ further) (first >>= second) := by
  intro state
  calc
    lists ((first >>= second) state).2
        = lists (second (first state).1 (first state).2).2 := rfl
    _ = lists (first state).2 ++ further := rest _ _
    _ = lists state ++ (added ++ further) := by rw [appends state, List.append_assoc]

theorem Leaves.bind_appends {added : List κ} {first : StateM σ α} {second : α → StateM σ β}
    (leaves : Leaves lists first) (rest : ∀ value, Appends lists added (second value)) :
    Appends lists added (first >>= second) :=
  leaves.appends.bind rest

theorem Appends.bind_leaves {added : List κ} {first : StateM σ α} {second : α → StateM σ β}
    (appends : Appends lists added first) (rest : ∀ value, Leaves lists (second value)) :
    Appends lists added (first >>= second) := by
  have both := appends.bind fun value => (rest value).appends
  rw [List.append_nil] at both
  exact both

end Appends

/-! ### Pre- and postconditions -/

def Triple (pre : σ → Prop) (method : StateM σ α) (post : α → σ → Prop) : Prop :=
  ∀ state, pre state → post (method state).1 (method state).2

theorem triple_pure {pre : σ → Prop} {post : α → σ → Prop} {value : α}
    (holds : ∀ state, pre state → post value state) : Triple pre (pure value) post := holds

theorem Triple.bind {pre : σ → Prop} {between : α → σ → Prop} {post : β → σ → Prop}
    {first : StateM σ α} {second : α → StateM σ β} (establishes : Triple pre first between)
    (rest : ∀ value, Triple (between value) (second value) post) :
    Triple pre (first >>= second) post := by
  intro state holds
  exact rest _ _ (establishes state holds)

theorem Triple.ite {pre : σ → Prop} {post : α → σ → Prop} {condition : Prop}
    [Decidable condition] {first second : StateM σ α}
    (met : condition → Triple pre first post) (unmet : ¬condition → Triple pre second post) :
    Triple pre (if condition then first else second) post := by
  split
  · exact met ‹_›
  · exact unmet ‹_›

theorem Triple.weaken {pre weaker : σ → Prop} {post : α → σ → Prop} {method : StateM σ α}
    (establishes : Triple weaker method post) (weakens : ∀ state, pre state → weaker state) :
    Triple pre method post := by
  intro state holds
  exact establishes state (weakens state holds)

/-- A method that looks at the state goes on from the state that it saw. -/
theorem Triple.look {pre : σ → Prop} {post : β → σ → Prop} {second : σ → StateM σ β}
    (each : ∀ state, pre state → Triple (· = state) (second state) post) :
    Triple pre (get >>= second) post := by
  intro state holds
  exact each state holds state rfl

/-- A fact that does not depend on the state. -/
theorem Triple.known {fact : Prop} {pre : σ → Prop} {method : StateM σ α} {post : α → σ → Prop}
    (rest : fact → Triple pre method post) : Triple (fun state => fact ∧ pre state) method post := by
  intro state both
  exact rest both.1 state both.2

theorem Leaves.triple {method : StateM σ α} (leaves : Leaves view method) (value : ι) :
    Triple (fun state => view state = value) method (fun _result state => view state = value) := by
  intro state holds
  exact (leaves state).trans holds

/-- A property that the method leaves alone. -/
theorem Leaves.keeps {property : σ → Prop} {method : StateM σ α}
    (leaves : Leaves property method) : Triple property method (fun _result => property) := by
  intro state holds
  exact (leaves state).mpr holds

theorem Sets.triple {method : StateM σ α} {value : ι} (sets : Sets view value method)
    (pre : σ → Prop) : Triple pre method (fun _result state => view state = value) := by
  intro state _holds
  exact sets state

/-! ### One object seen through another -/

section Mirrors

variable {τ : Type u} {see : σ → τ}

/-- What the first method does, seen through `see`, is what the second one does. -/
def Mirrors (see : σ → τ) (method : StateM σ α) (seen : StateM τ α) : Prop :=
  ∀ state, (method state).1 = (seen (see state)).1 ∧ see (method state).2 = (seen (see state)).2

theorem mirrors_pure (value : α) :
    Mirrors see (pure value : StateM σ α) (pure value : StateM τ α) := by
  intro _state
  exact ⟨rfl, rfl⟩

theorem mirrors_modify {change : σ → σ} {seenChange : τ → τ}
    (same : ∀ state, see (change state) = seenChange (see state)) :
    Mirrors see (modify change : StateM σ PUnit) (modify seenChange : StateM τ PUnit) := by
  intro state
  exact ⟨rfl, same state⟩

theorem Mirrors.bind {first : StateM σ α} {seenFirst : StateM τ α} {second : α → StateM σ β}
    {seenSecond : α → StateM τ β} (mirrorsFirst : Mirrors see first seenFirst)
    (mirrorsSecond : ∀ value, Mirrors see (second value) (seenSecond value)) :
    Mirrors see (first >>= second) (seenFirst >>= seenSecond) := by
  intro state
  obtain ⟨value, after⟩ := mirrorsFirst state
  have later := mirrorsSecond (first state).1 (first state).2
  change (second (first state).1 (first state).2).1 =
      (seenSecond (seenFirst (see state)).1 (seenFirst (see state)).2).1 ∧
    see (second (first state).1 (first state).2).2 =
      (seenSecond (seenFirst (see state)).1 (seenFirst (see state)).2).2
  rw [← value, ← after]
  exact later

/-- A method that looks at the state goes on with what it sees of it. -/
theorem Mirrors.look {second : σ → StateM σ β} {seenSecond : τ → StateM τ β}
    (mirrors : ∀ state, Mirrors see (second state) (seenSecond (see state))) :
    Mirrors see (get >>= second) (get >>= seenSecond) := by
  intro state
  exact mirrors state state

theorem Mirrors.ite {condition : Prop} [Decidable condition] {first second : StateM σ α}
    {seenFirst seenSecond : StateM τ α} (mirrorsFirst : Mirrors see first seenFirst)
    (mirrorsSecond : Mirrors see second seenSecond) :
    Mirrors see (if condition then first else second)
      (if condition then seenFirst else seenSecond) := by
  split
  · exact mirrorsFirst
  · exact mirrorsSecond

end Mirrors

/-! ### A state beside the object -/

section Beside

variable {τ : Type u}

/-- The method, which does not know of it. -/
def beside (method : StateM σ α) : StateM (σ × τ) α := fun state =>
  ((method state.1).1, ((method state.1).2, state.2))

theorem leaves_beside (method : StateM σ α) :
    Leaves Prod.snd (beside method : StateM (σ × τ) α) := by
  intro _state
  rfl

theorem mirrors_beside (method : StateM σ α) :
    Mirrors Prod.fst (beside method : StateM (σ × τ) α) method := by
  intro _state
  exact ⟨rfl, rfl⟩

end Beside

end RanOnline.Methods
