/-
Histories: logs of what happened, newest first.

Some events come from one thread that acts in sequence, the others are apart from
it and may fall anywhere between.  `previous` is the last event of that thread, so
that a rule about what may follow it describes the thread at every interleaving.
-/
import Mathlib.Data.List.Basic

namespace RanOnline.Histories

variable {ε : Type}

/-- Every event is in order with respect to the events before it. -/
def Throughout (good : ε → List ε → Prop) : List ε → Prop
  | [] => True
  | event :: earlier => good event earlier ∧ Throughout good earlier

/-- The same, said of every way to split the log at an event. -/
def Everywhere (good : ε → List ε → Prop) (log : List ε) : Prop :=
  ∀ later event earlier, log = later ++ event :: earlier → good event earlier

theorem Throughout.suffix {good : ε → List ε → Prop} {later earlier : List ε}
    (throughout : Throughout good (later ++ earlier)) : Throughout good earlier := by
  induction later with
  | nil => exact throughout
  | cons event later ih => exact ih throughout.2

theorem Throughout.at {good : ε → List ε → Prop} {later earlier : List ε} {event : ε}
    (throughout : Throughout good (later ++ event :: earlier)) : good event earlier :=
  throughout.suffix.1

theorem everywhere_iff {good : ε → List ε → Prop} {log : List ε} :
    Everywhere good log ↔ Throughout good log := by
  constructor
  · intro everywhere
    induction log with
    | nil => trivial
    | cons event earlier ih =>
        refine ⟨everywhere [] event earlier rfl, ih ?_⟩
        intro later inner before split
        exact everywhere (event :: later) inner before (by rw [split, List.cons_append])
  · intro throughout later event earlier split
    subst split
    exact throughout.at

/-- A check of the whole log. -/
def throughoutBool (good : ε → List ε → Prop) [∀ event earlier, Decidable (good event earlier)] :
    List ε → Bool
  | [] => true
  | event :: earlier => good event earlier && throughoutBool good earlier

instance {good : ε → List ε → Prop} [∀ event earlier, Decidable (good event earlier)]
    (log : List ε) : Decidable (Everywhere good log) :=
  decidable_of_iff (throughoutBool good log = true) <| by
    rw [everywhere_iff]
    induction log with
    | nil => exact ⟨fun _checked => trivial, fun _holds => rfl⟩
    | cons event earlier ih =>
        rw [throughoutBool, Bool.and_eq_true, decide_eq_true_iff, ih]
        rfl

/-- The last event that is not apart. -/
def previous (apart : ε → Bool) (log : List ε) : Option ε := log.find? fun event => !apart event

variable {apart : ε → Bool}

theorem previous_skip {event : ε} (outside : apart event = true) (log : List ε) :
    previous apart (event :: log) = previous apart log := by
  rw [previous, List.find?_cons_of_neg (by rw [outside]; decide)]
  rfl

theorem previous_here {event : ε} (inside : apart event = false) (log : List ε) :
    previous apart (event :: log) = some event := by
  rw [previous, List.find?_cons_of_pos (by rw [inside]; rfl)]

/-- The log up to the last event that is not apart. -/
theorem previous_split {log : List ε} {event : ε} (found : previous apart log = some event) :
    apart event = false ∧
      ∃ during before, log = during ++ event :: before ∧ ∀ other ∈ during, apart other = true := by
  obtain ⟨inside, during, before, split, skipped⟩ := List.find?_eq_some_iff_append.mp found
  refine ⟨(Bool.not_eq_true' _).mp inside, during, before, split, ?_⟩
  intro other member
  simpa using skipped other member

/-- The last event of a kind, with what came before it, is determined by the log. -/
theorem last_unique {kind : ε → Prop} {first second before older : List ε} {event other : ε}
    (same : first ++ event :: before = second ++ other :: older)
    (noneFirst : ∀ later ∈ first, ¬kind later) (noneSecond : ∀ later ∈ second, ¬kind later)
    (isEvent : kind event) (isOther : kind other) : event = other ∧ before = older := by
  induction first generalizing second with
  | nil =>
      cases second with
      | nil => exact List.cons.inj same
      | cons head rest =>
          obtain ⟨headSame, _rest⟩ := List.cons.inj same
          exact absurd (headSame ▸ isEvent) (noneSecond head List.mem_cons_self)
  | cons head rest ih =>
      cases second with
      | nil =>
          obtain ⟨headSame, _rest⟩ := List.cons.inj same
          exact absurd (headSame ▸ isOther) (noneFirst head List.mem_cons_self)
      | cons otherHead otherRest =>
          obtain ⟨_headSame, restSame⟩ := List.cons.inj same
          refine ih restSame ?_ ?_
          · exact fun later member => noneFirst later (List.mem_cons_of_mem _ member)
          · exact fun later member => noneSecond later (List.mem_cons_of_mem _ member)

/-- What a fold over the log says where no event since has changed it. -/
theorem unchanged_since {β : Type} {view : List ε → β} {during before : List ε}
    (still : ∀ event ∈ during, ∀ log, view (event :: log) = view log) :
    view (during ++ before) = view before := by
  induction during with
  | nil => rfl
  | cons event during ih =>
      rw [List.cons_append, still event List.mem_cons_self]
      apply ih
      intro other member
      exact still other (List.mem_cons_of_mem _ member)

end RanOnline.Histories
