/-
Bounded byte blocks with explicit faults.

A computation over memory either returns a value or names the fault that a
native run would commit without notice: an access outside its block, an
unsigned difference below zero, a loop that outlives its measure, or the use of
a component that was never initialised.  Nothing here refers to a program.
-/
import Mathlib.Data.List.Basic
import Mathlib.Data.List.Range

namespace RanOnline.Memory

abbrev Bytes := List UInt8

inductive Fault
  | outOfBounds
  | wrapped
  | diverged
  | notInitialised
  deriving DecidableEq, Repr

abbrev Checked (α : Type) := Except Fault α

@[simp] theorem ok_bind {α β : Type} (value : α) (next : α → Checked β) :
    (Except.ok value >>= next : Checked β) = next value := rfl

@[simp] theorem error_bind {α β : Type} (fault : Fault) (next : α → Checked β) :
    ((Except.error fault : Checked α) >>= next : Checked β) = .error fault := rfl

@[simp] theorem pure_eq_ok {α : Type} (value : α) : (pure value : Checked α) = .ok value := rfl

/-- The value of a computation that is known to commit no fault, together with
what is known about it. -/
def extract {α : Type} {property : α → Prop} :
    (outcome : Checked α) → (∃ value, outcome = .ok value ∧ property value) →
      { value : α // property value }
  | .ok value, known => ⟨value, by
      obtain ⟨other, same, holds⟩ := known
      cases same
      exact holds⟩
  | .error _fault, known => False.elim (by
      obtain ⟨other, same, _holds⟩ := known
      cases same)

theorem ok_extract {α : Type} {property : α → Prop} {outcome : Checked α}
    (known : ∃ value, outcome = .ok value ∧ property value) :
    outcome = .ok (extract outcome known).val := by
  obtain ⟨value, same, _holds⟩ := known
  subst same
  rfl

/-- The difference of two unsigned sizes, refused when it would wrap. -/
def usub (minuend subtrahend : Nat) : Checked Nat :=
  if subtrahend ≤ minuend then .ok (minuend - subtrahend) else .error .wrapped

@[simp] theorem usub_add_left (base extent : Nat) :
    usub (base + extent) base = .ok extent := by
  simp [usub]

theorem usub_of_le {minuend subtrahend : Nat} (fits : subtrahend ≤ minuend) :
    usub minuend subtrahend = .ok (minuend - subtrahend) := by
  simp only [usub, if_pos fits]

/-- A block of `size` bytes; `byteAt` is never consulted outside it. -/
structure Block where
  size : Nat
  byteAt : Nat → UInt8

namespace Block

def zeroed (size : Nat) : Block :=
  { size := size
    byteAt := fun _ => 0 }

def ofBytes (bytes : Bytes) : Block :=
  { size := bytes.length
    byteAt := fun index => bytes.getD index 0 }

def read (block : Block) (offset : Nat) : Checked UInt8 :=
  if offset < block.size then .ok (block.byteAt offset) else .error .outOfBounds

def readRange (block : Block) (offset count : Nat) : Checked Bytes :=
  if offset + count ≤ block.size then
    .ok ((List.range count).map fun index => block.byteAt (offset + index))
  else .error .outOfBounds

def splice (block : Block) (offset : Nat) (data : Bytes) : Block :=
  { block with
    byteAt := fun index =>
      if offset ≤ index ∧ index < offset + data.length then data.getD (index - offset) 0
      else block.byteAt index }

def write (block : Block) (offset : Nat) (data : Bytes) : Checked Block :=
  if offset + data.length ≤ block.size then .ok (block.splice offset data)
  else .error .outOfBounds

/-- The block shows `bytes` from `offset` on, all of them inside its bounds. -/
structure Shows (block : Block) (offset : Nat) (bytes : Bytes) : Prop where
  inside : offset + bytes.length ≤ block.size
  agrees : ∀ index, index < bytes.length → block.byteAt (offset + index) = bytes.getD index 0

theorem shows_ofBytes (bytes : Bytes) : (ofBytes bytes).Shows 0 bytes :=
  { inside := by simp [ofBytes]
    agrees := by
      intro index _bound
      simp [ofBytes] }

theorem Shows.drop {block : Block} {offset : Nat} {bytes : Bytes}
    (shown : block.Shows offset bytes) {count : Nat} (bound : count ≤ bytes.length) :
    block.Shows (offset + count) (bytes.drop count) := by
  have inside := shown.inside
  constructor
  · rw [List.length_drop]
    omega
  · intro index within
    rw [List.length_drop] at within
    have agreement := shown.agrees (count + index) (by omega)
    rw [Nat.add_assoc, agreement]
    simp only [List.getD_eq_getElem?_getD, List.getElem?_drop]

theorem Shows.take {block : Block} {offset : Nat} {bytes : Bytes}
    (shown : block.Shows offset bytes) (count : Nat) :
    block.Shows offset (bytes.take count) := by
  have inside := shown.inside
  constructor
  · rw [List.length_take]
    omega
  · intro index within
    rw [List.length_take] at within
    rw [shown.agrees index (by omega)]
    simp only [List.getD_eq_getElem?_getD]
    rw [List.getElem?_take_of_lt (by omega)]

theorem Shows.append {block : Block} {offset : Nat} {first second : Bytes}
    (shownFirst : block.Shows offset first)
    (shownSecond : block.Shows (offset + first.length) second) :
    block.Shows offset (first ++ second) := by
  have inside := shownSecond.inside
  constructor
  · rw [List.length_append]
    omega
  · intro index within
    rw [List.length_append] at within
    simp only [List.getD_eq_getElem?_getD]
    by_cases early : index < first.length
    · rw [List.getElem?_append_left early, shownFirst.agrees index early]
      simp only [List.getD_eq_getElem?_getD]
    · have late := shownSecond.agrees (index - first.length) (by omega)
      have position : offset + first.length + (index - first.length) = offset + index := by
        omega
      rw [position] at late
      rw [late, List.getElem?_append_right (by omega)]
      simp only [List.getD_eq_getElem?_getD]

theorem Shows.read {block : Block} {offset : Nat} {bytes : Bytes}
    (shown : block.Shows offset bytes) {index : Nat} (bound : index < bytes.length) :
    block.read (offset + index) = .ok (bytes.getD index 0) := by
  have inside := shown.inside
  have within : offset + index < block.size := by omega
  simp only [Block.read, if_pos within, shown.agrees index bound]

theorem Shows.readRange {block : Block} {offset : Nat} {bytes : Bytes}
    (shown : block.Shows offset bytes) {count : Nat} (bound : count ≤ bytes.length) :
    block.readRange offset count = .ok (bytes.take count) := by
  have inside := shown.inside
  have within : offset + count ≤ block.size := by omega
  simp only [Block.readRange, if_pos within]
  congr 1
  apply List.ext_getElem
  · rw [List.length_map, List.length_range, List.length_take]
    omega
  · intro index left right
    rw [List.length_map, List.length_range] at left
    have shownAt := shown.agrees index (by omega)
    simp only [List.getElem_map, List.getElem_range, List.getElem_take, shownAt,
      List.getD_eq_getElem?_getD]
    rw [List.getElem?_eq_getElem (by omega), Option.getD_some]

theorem write_ok (block : Block) (offset : Nat) (data : Bytes)
    (fits : offset + data.length ≤ block.size) :
    block.write offset data = .ok (block.splice offset data) := by
  simp only [write, if_pos fits]

@[simp] theorem splice_size (block : Block) (offset : Nat) (data : Bytes) :
    (block.splice offset data).size = block.size := rfl

theorem splice_before (block : Block) (offset : Nat) (data : Bytes) {index : Nat}
    (before : index < offset) :
    (block.splice offset data).byteAt index = block.byteAt index := by
  have outside : ¬(offset ≤ index ∧ index < offset + data.length) := by omega
  exact if_neg outside

theorem shows_splice (block : Block) (offset : Nat) (data : Bytes)
    (fits : offset + data.length ≤ block.size) :
    (block.splice offset data).Shows offset data := by
  constructor
  · exact fits
  · intro index bound
    have within : offset ≤ offset + index ∧ offset + index < offset + data.length := by
      omega
    have shift : offset + index - offset = index := by omega
    simp only [splice, if_pos within, shift]

/-- A write at or past the end of what is shown leaves it shown. -/
theorem Shows.splice {block : Block} {start : Nat} {bytes : Bytes}
    (shown : block.Shows start bytes) {offset : Nat} (after : start + bytes.length ≤ offset)
    (data : Bytes) : (block.splice offset data).Shows start bytes := by
  constructor
  · exact shown.inside
  · intro index bound
    rw [splice_before block offset data (by omega)]
    exact shown.agrees index bound

/-- The block cut off behind its first `size` bytes. -/
def upTo (block : Block) (size : Nat) : Block :=
  { block with size := min block.size size }

theorem Shows.upTo {block : Block} {offset : Nat} {bytes : Bytes}
    (shown : block.Shows offset bytes) {size : Nat} (within : offset + bytes.length ≤ size) :
    (block.upTo size).Shows offset bytes := by
  constructor
  · exact Nat.le_min.mpr ⟨shown.inside, within⟩
  · exact shown.agrees

theorem shows_range (block : Block) {offset count : Nat} (inside : offset + count ≤ block.size) :
    block.Shows offset ((List.range count).map fun index => block.byteAt (offset + index)) := by
  constructor
  · rw [List.length_map, List.length_range]
    exact inside
  · intro index within
    rw [List.length_map, List.length_range] at within
    simp only [List.getD_eq_getElem?_getD, List.getElem?_map, List.getElem?_range within,
      Option.map_some, Option.getD_some]

end Block

end RanOnline.Memory
