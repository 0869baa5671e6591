/-
Threads of atomic sections.

A thread is a tree of sections on a shared state, each of them one critical
section or one access of its own; between two sections other threads may take
any number of steps.  `wp` is what must hold of a state for a thread, run from
there under such interference, to keep an invariant after every section and to
end in its postcondition.
-/
import Mathlib.Logic.Relation

namespace RanOnline.Threads

open Relation

inductive Thread (σ α : Type) : Type
  | ret (value : α)
  | step (act : σ → σ) (next : σ → Thread σ α)

variable {σ α β : Type}

namespace Thread

def bind : Thread σ α → (α → Thread σ β) → Thread σ β
  | .ret value, rest => rest value
  | .step act next, rest => .step act fun state => (next state).bind rest

instance : Monad (Thread σ) where
  pure := .ret
  bind := .bind

/-- One section that reads and writes the shared state. -/
def atomically (body : σ → σ × α) : Thread σ α :=
  .step (fun state => (body state).1) fun state => .ret (body state).2

def observe (view : σ → α) : Thread σ α := atomically fun state => (state, view state)

def update (change : σ → σ) : Thread σ Unit := atomically fun state => (change state, ())

/-- Every section of the thread stands in this relation to the state it finds. -/
def Guarantees (relation : σ → σ → Prop) : Thread σ α → Prop
  | .ret _ => True
  | .step act next => ∀ state, relation state (act state) ∧ (next state).Guarantees relation

theorem guarantees_pure (relation : σ → σ → Prop) (value : α) :
    (pure value : Thread σ α).Guarantees relation := trivial

theorem Guarantees.bind {relation : σ → σ → Prop} {thread : Thread σ α} {rest : α → Thread σ β}
    (first : thread.Guarantees relation) (second : ∀ value, (rest value).Guarantees relation) :
    (thread >>= rest).Guarantees relation := by
  induction thread with
  | ret value => exact second value
  | step act next ih =>
      intro state
      exact ⟨(first state).1, ih state (first state).2⟩

theorem guarantees_atomically {relation : σ → σ → Prop} {body : σ → σ × α}
    (related : ∀ state, relation state (body state).1) :
    (atomically body).Guarantees relation := by
  intro state
  exact ⟨related state, trivial⟩

/-- The sections of a run of the thread, each with the state it finds and the one it
leaves; `env` is what the other threads do before each of them. -/
def sections (env : Nat → σ → σ) : Thread σ α → Nat → σ → List (σ × σ)
  | .ret _, _, _ => []
  | .step act next, number, state =>
      (env number state, act (env number state)) ::
        sections env (next (env number state)) (number + 1) (act (env number state))

theorem sections_atomically {β : Type} (env : Nat → σ → σ) (body : σ → σ × α)
    (rest : α → Thread σ β) (number : Nat) (state : σ) :
    sections env (Thread.atomically body >>= rest) number state =
      (env number state, (body (env number state)).1) ::
        sections env (rest (body (env number state)).2) (number + 1)
          (body (env number state)).1 := rfl

theorem Guarantees.sections {relation : σ → σ → Prop} {thread : Thread σ α}
    (guarantees : thread.Guarantees relation) (env : Nat → σ → σ) (number : Nat) (state : σ) :
    ∀ pair ∈ sections env thread number state, relation pair.1 pair.2 := by
  induction thread generalizing number state with
  | ret value =>
      intro pair member
      cases member
  | step act next ih =>
      intro pair member
      rcases List.mem_cons.mp member with here | later
      · rw [here]
        exact (guarantees _).1
      · exact ih _ (guarantees _).2 _ _ pair later

end Thread

open Thread

/-- What the other threads may do to the state, and an invariant that they keep. -/
structure Interference (σ : Type) where
  env : σ → σ → Prop
  inv : σ → Prop
  kept : ∀ {state later : σ}, inv state → env state later → inv later

namespace Interference

variable (others : Interference σ)

/-- An assertion that the other threads cannot invalidate. -/
def Stable (assertion : σ → Prop) : Prop :=
  ∀ ⦃state later : σ⦄, others.inv state → assertion state → others.env state later →
    assertion later

variable {others}

theorem Stable.and {first second : σ → Prop} (stableFirst : others.Stable first)
    (stableSecond : others.Stable second) :
    others.Stable (fun state => first state ∧ second state) := by
  intro state later inv both moved
  exact ⟨stableFirst inv both.1 moved, stableSecond inv both.2 moved⟩

theorem Stable.true : others.Stable (fun _state => True) := by
  intro _state _later _inv _holds _moved
  trivial

theorem Stable.steps {assertion : σ → Prop} (stable : others.Stable assertion)
    {state later : σ} (inv : others.inv state) (holds : assertion state)
    (moved : ReflTransGen others.env state later) : others.inv later ∧ assertion later := by
  induction moved with
  | refl => exact ⟨inv, holds⟩
  | tail _earlier last ih => exact ⟨others.kept ih.1 last, stable ih.1 ih.2 last⟩

variable (others)

def wp : Thread σ α → (α → σ → Prop) → σ → Prop
  | .ret value, post, state =>
      ∀ later, ReflTransGen others.env state later → others.inv later → post value later
  | .step act next, post, state =>
      ∀ later, ReflTransGen others.env state later → others.inv later →
        others.inv (act later) ∧ wp (next later) post (act later)

variable {others}

theorem wp_later {thread : Thread σ α} {post : α → σ → Prop} {state later : σ}
    (holds : others.wp thread post state) (moved : ReflTransGen others.env state later) :
    others.wp thread post later := by
  cases thread with
  | ret value =>
      intro latest further inv
      exact holds latest (moved.trans further) inv
  | step act next =>
      intro latest further inv
      exact holds latest (moved.trans further) inv

theorem wp_mono {thread : Thread σ α} {strong weak : α → σ → Prop} {state : σ}
    (weaker : ∀ value state, others.inv state → strong value state → weak value state)
    (holds : others.wp thread strong state) : others.wp thread weak state := by
  induction thread generalizing state with
  | ret value =>
      intro later moved inv
      exact weaker value later inv (holds later moved inv)
  | step act next ih =>
      intro later moved inv
      obtain ⟨kept, rest⟩ := holds later moved inv
      exact ⟨kept, ih later rest⟩

theorem wp_bind {thread : Thread σ α} {rest : α → Thread σ β} {post : β → σ → Prop} {state : σ}
    (inv : others.inv state)
    (holds : others.wp thread (fun value later => others.wp (rest value) post later) state) :
    others.wp (thread >>= rest) post state := by
  induction thread generalizing state with
  | ret value => exact holds state .refl inv
  | step act next ih =>
      intro later moved laterInv
      obtain ⟨kept, remainder⟩ := holds later moved laterInv
      exact ⟨kept, ih later kept remainder⟩

theorem wp_ret {value : α} {post : α → σ → Prop} {state : σ}
    (stable : others.Stable (post value)) (inv : others.inv state) (holds : post value state) :
    others.wp (pure value) post state := by
  intro later moved _inv
  exact (stable.steps inv holds moved).2

/-- One section and the rest of the thread: what is known before the section must
be stable, what it establishes is known only until the next interference. -/
theorem wp_section {body : σ → σ × α} {rest : α → Thread σ β} {post : β → σ → Prop}
    {known : σ → Prop} {state : σ} (stable : others.Stable known) (inv : others.inv state)
    (holds : known state)
    (done : ∀ state, others.inv state → known state →
      others.inv (body state).1 ∧ others.wp (rest (body state).2) post (body state).1) :
    others.wp (atomically body >>= rest) post state := by
  intro later moved _laterInv
  obtain ⟨laterInv, laterKnown⟩ := stable.steps inv holds moved
  exact done later laterInv laterKnown

/-- The last section of a thread. -/
theorem wp_last {body : σ → σ × α} {post : α → σ → Prop} {known : σ → Prop} {state : σ}
    (stable : others.Stable known) (inv : others.inv state) (holds : known state)
    (stablePost : ∀ value, others.Stable (post value))
    (done : ∀ state, others.inv state → known state →
      others.inv (body state).1 ∧ post (body state).2 (body state).1) :
    others.wp (atomically body) post state := by
  intro later moved _laterInv
  obtain ⟨laterInv, laterKnown⟩ := stable.steps inv holds moved
  obtain ⟨kept, ended⟩ := done later laterInv laterKnown
  exact ⟨kept, fun latest further _inv => ((stablePost _).steps kept ended further).2⟩

/-! ### Threads that keep the invariant -/

variable (others)

/-- Wherever the thread starts, it keeps the invariant. -/
def Safe (thread : Thread σ α) : Prop :=
  ∀ state, others.inv state → others.wp thread (fun _value _later => True) state

variable {others}

theorem safe_pure (value : α) : others.Safe (pure value) := by
  intro state inv
  exact wp_ret Stable.true inv trivial

theorem Safe.bind {thread : Thread σ α} {rest : α → Thread σ β} (first : others.Safe thread)
    (second : ∀ value, others.Safe (rest value)) : others.Safe (thread >>= rest) := by
  intro state inv
  apply wp_bind inv
  refine wp_mono ?_ (first state inv)
  intro value later laterInv _holds
  exact second value later laterInv

theorem safe_atomically {body : σ → σ × α}
    (keeps : ∀ state, others.inv state → others.inv (body state).1) :
    others.Safe (atomically body) := by
  intro state inv
  apply wp_last Stable.true inv trivial
  · exact fun _value => Stable.true
  · exact fun later laterInv _holds => ⟨keeps later laterInv, trivial⟩

end Interference

end RanOnline.Threads
