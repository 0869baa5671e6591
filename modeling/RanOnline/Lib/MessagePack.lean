/-
The MessagePack format: values and the reference decoder.

A head says what follows it: a value that is complete with its own bytes, or the
number of the elements of an array or of the entries of a map.  `Encodes` is the
relation between a value and the bytes that the decoder reads it from, whatever
comes behind them; it is closed under the formation of arrays.
-/
import Mathlib.Algebra.Group.Nat.Defs
import Mathlib.Algebra.Ring.Int.Defs
import Mathlib.Data.List.Forall2
import RanOnline.Lib.Memory

namespace RanOnline.MessagePack

open Memory

inductive Value
  | nil
  | bool (value : Bool)
  | int (value : Int)
  | float32 (bits : Nat)
  | float64 (bits : Nat)
  | str (bytes : Bytes)
  | bin (bytes : Bytes)
  | ext (type : Int) (bytes : Bytes)
  | array (elements : List Value)
  | map (entries : List (Value × Value))

/-! ### Heads -/

inductive Head
  | value (value : Value)
  | array (count : Nat)
  | map (count : Nat)

/-- The unsigned number that the bytes write, the most significant first. -/
def beNat : Bytes → Nat
  | [] => 0
  | b :: rest => b.toNat * 256 ^ rest.length + beNat rest

/-- The signed number of `width` bytes. -/
def signed (width number : Nat) : Int :=
  if number < 2 ^ (8 * width - 1) then number else (number : Int) - 2 ^ (8 * width)

def takeBytes (count : Nat) (bytes : Bytes) : Option (Bytes × Bytes) :=
  if count ≤ bytes.length then some (bytes.take count, bytes.drop count) else none

def takeNat (width : Nat) (bytes : Bytes) : Option (Nat × Bytes) :=
  (takeBytes width bytes).map fun taken => (beNat taken.1, taken.2)

/-- A length of `width` bytes and as many bytes behind it. -/
def takeSized (width : Nat) (bytes : Bytes) : Option (Bytes × Bytes) :=
  (takeNat width bytes).bind fun sized => takeBytes sized.1 sized.2

/-- The type of an extension and its bytes. -/
def takeExt (count : Nat) (bytes : Bytes) : Option (Value × Bytes) :=
  (takeNat 1 bytes).bind fun type =>
    (takeBytes count type.2).map fun body => (.ext (signed 1 type.1) body.1, body.2)

/-- What follows a first byte outside the ranges that carry a number themselves. -/
def readTail (code : Nat) (rest : Bytes) : Option (Head × Bytes) :=
  let scalar (value : Bytes → Value) (width : Nat) : Option (Head × Bytes) :=
    (takeBytes width rest).map fun taken => (.value (value taken.1), taken.2)
  let sized (value : Bytes → Value) (width : Nat) : Option (Head × Bytes) :=
    (takeSized width rest).map fun taken => (.value (value taken.1), taken.2)
  let ext (count : Nat) : Option (Head × Bytes) :=
    (takeExt count rest).map fun taken => (.value taken.1, taken.2)
  let sizedExt (width : Nat) : Option (Head × Bytes) :=
    (takeNat width rest).bind fun size =>
      (takeExt size.1 size.2).map fun taken => (.value taken.1, taken.2)
  let counted (head : Nat → Head) (width : Nat) : Option (Head × Bytes) :=
    (takeNat width rest).map fun taken => (head taken.1, taken.2)
  match code with
  | 0xc0 => some (.value .nil, rest)
  | 0xc2 => some (.value (.bool false), rest)
  | 0xc3 => some (.value (.bool true), rest)
  | 0xc4 => sized .bin 1
  | 0xc5 => sized .bin 2
  | 0xc6 => sized .bin 4
  | 0xc7 => sizedExt 1
  | 0xc8 => sizedExt 2
  | 0xc9 => sizedExt 4
  | 0xca => scalar (fun bytes => .float32 (beNat bytes)) 4
  | 0xcb => scalar (fun bytes => .float64 (beNat bytes)) 8
  | 0xcc => scalar (fun bytes => .int (beNat bytes)) 1
  | 0xcd => scalar (fun bytes => .int (beNat bytes)) 2
  | 0xce => scalar (fun bytes => .int (beNat bytes)) 4
  | 0xcf => scalar (fun bytes => .int (beNat bytes)) 8
  | 0xd0 => scalar (fun bytes => .int (signed 1 (beNat bytes))) 1
  | 0xd1 => scalar (fun bytes => .int (signed 2 (beNat bytes))) 2
  | 0xd2 => scalar (fun bytes => .int (signed 4 (beNat bytes))) 4
  | 0xd3 => scalar (fun bytes => .int (signed 8 (beNat bytes))) 8
  | 0xd4 => ext 1
  | 0xd5 => ext 2
  | 0xd6 => ext 4
  | 0xd7 => ext 8
  | 0xd8 => ext 16
  | 0xd9 => sized .str 1
  | 0xda => sized .str 2
  | 0xdb => sized .str 4
  | 0xdc => counted .array 2
  | 0xdd => counted .array 4
  | 0xde => counted .map 2
  | 0xdf => counted .map 4
  | _ => none

def readHead : Bytes → Option (Head × Bytes)
  | [] => none
  | first :: rest =>
      let code := first.toNat
      if code < 0x80 then some (.value (.int code), rest)
      else if code < 0x90 then some (.map (code - 0x80), rest)
      else if code < 0xa0 then some (.array (code - 0x90), rest)
      else if code < 0xc0 then
        (takeBytes (code - 0xa0) rest).map fun taken => (.value (.str taken.1), taken.2)
      else if 0xe0 ≤ code then some (.value (.int ((code : Int) - 0x100)), rest)
      else readTail code rest

/-! ### Values -/

/-- So many items, one behind the other. -/
def readMany {α : Type} (item : Bytes → Option (α × Bytes)) :
    Nat → Bytes → Option (List α × Bytes)
  | 0, bytes => some ([], bytes)
  | count + 1, bytes =>
      (item bytes).bind fun first =>
        (readMany item count first.2).map fun rest => (first.1 :: rest.1, rest.2)

/-- Two items as the key and the value of an entry. -/
def readEntry {α : Type} (item : Bytes → Option (α × Bytes)) (bytes : Bytes) :
    Option ((α × α) × Bytes) :=
  (item bytes).bind fun key => (item key.2).map fun value => ((key.1, value.1), value.2)

/-- A value whose arrays and maps are nested less than `depth` deep. -/
def readValue : Nat → Bytes → Option (Value × Bytes)
  | 0, _ => none
  | depth + 1, bytes =>
      (readHead bytes).bind fun head =>
        match head.1 with
        | .value value => some (value, head.2)
        | .array count =>
            (readMany (readValue depth) count head.2).map fun read => (.array read.1, read.2)
        | .map count =>
            (readMany (readEntry (readValue depth)) count head.2).map fun read =>
              (.map read.1, read.2)

/-- The first value and what is left behind it.  Nesting takes a byte for each level. -/
def decode (bytes : Bytes) : Option (Value × Bytes) := readValue (bytes.length + 1) bytes

/-! ### Encodings -/

/-- The head and nothing behind it is what these bytes are read as. -/
def HeadAs (head : Head) (bytes : Bytes) : Prop :=
  ∀ rest, readHead (bytes ++ rest) = some (head, rest)

/-- The bytes are read as the value, with `depth` levels of nesting or more. -/
def Encodes (depth : Nat) (value : Value) (bytes : Bytes) : Prop :=
  ∀ deeper rest, readValue (depth + deeper) (bytes ++ rest) = some (value, rest)

theorem HeadAs.encodes {value : Value} {bytes : Bytes} (head : HeadAs (.value value) bytes)
    (depth : Nat) : Encodes (depth + 1) value bytes := by
  intro deeper rest
  rw [Nat.add_right_comm, readValue, head rest]
  rfl

theorem readMany_of_encodes {depth : Nat} {values : List Value} {parts : List Bytes}
    (encoded : List.Forall₂ (Encodes depth) values parts) (deeper : Nat) (rest : Bytes) :
    readMany (readValue (depth + deeper)) values.length (parts.flatten ++ rest) =
      some (values, rest) := by
  induction encoded with
  | nil => rfl
  | @cons value part values parts first more ih =>
      rw [List.flatten_cons, List.append_assoc, List.length_cons, readMany, first]
      simp only [Option.bind_some, ih, Option.map_some]

/-- An array of encoded values behind the head with their number. -/
theorem Encodes.array {depth : Nat} {values : List Value} {parts : List Bytes} {header : Bytes}
    (head : HeadAs (.array values.length) header)
    (encoded : List.Forall₂ (Encodes depth) values parts) :
    Encodes (depth + 1) (.array values) (header ++ parts.flatten) := by
  intro deeper rest
  rw [Nat.add_right_comm, readValue, List.append_assoc, head]
  simp only [Option.bind_some, readMany_of_encodes encoded, Option.map_some]

/-- The decoder reads the value and leaves nothing behind. -/
theorem Encodes.decode {depth : Nat} {value : Value} {bytes : Bytes}
    (encoded : Encodes depth value bytes) (enough : depth ≤ bytes.length + 1) :
    decode bytes = some (value, []) := by
  have read := encoded (bytes.length + 1 - depth) []
  rwa [Nat.add_sub_cancel' enough, List.append_nil] at read

theorem takeBytes_append (taken rest : Bytes) :
    takeBytes taken.length (taken ++ rest) = some (taken, rest) := by
  have inside : taken.length ≤ (taken ++ rest).length := by
    rw [List.length_append]
    omega
  rw [takeBytes, if_pos inside, List.take_left, List.drop_left]

theorem takeNat_append {width : Nat} {digits : Bytes} (size : digits.length = width)
    (rest : Bytes) : takeNat width (digits ++ rest) = some (beNat digits, rest) := by
  subst size
  rw [takeNat, takeBytes_append]
  rfl

theorem takeSized_append {width : Nat} {digits body : Bytes} (size : digits.length = width)
    (length : beNat digits = body.length) (rest : Bytes) :
    takeSized width (digits ++ (body ++ rest)) = some (body, rest) := by
  rw [takeSized, takeNat_append size, Option.bind_some, length, takeBytes_append]

/-! ### One head after another -/

/-- At most `limit` heads, and nothing behind the last of them. -/
def readHeadsWithin : Nat → Bytes → Option (List Head)
  | _, [] => some []
  | 0, _ :: _ => none
  | limit + 1, first :: more =>
      (readHead (first :: more)).bind fun head =>
        (readHeadsWithin limit head.2).map fun heads => head.1 :: heads

/-- All heads that the bytes are made of.  A head takes a byte at least. -/
def readHeads (bytes : Bytes) : Option (List Head) := readHeadsWithin bytes.length bytes

theorem HeadAs.ne_nil {head : Head} {bytes : Bytes} (read : HeadAs head bytes) : bytes ≠ [] := by
  intro empty
  have nothing := read []
  rw [empty] at nothing
  cases nothing

theorem readHeadsWithin_flatten {heads : List Head} {parts : List Bytes}
    (read : List.Forall₂ HeadAs heads parts) {limit : Nat} (enough : parts.length ≤ limit) :
    readHeadsWithin limit parts.flatten = some heads := by
  induction read generalizing limit with
  | nil => exact readHeadsWithin.eq_1 limit
  | @cons head part heads parts first more ih =>
      obtain ⟨byte, rest, shape⟩ := List.exists_cons_of_ne_nil first.ne_nil
      cases limit with
      | zero => cases enough
      | succ limit =>
          have here := first parts.flatten
          rw [List.flatten_cons, shape, List.cons_append, readHeadsWithin, ← List.cons_append,
            ← shape, here, Option.bind_some, ih (Nat.le_of_succ_le_succ enough), Option.map_some]

theorem readHeads_flatten {heads : List Head} {parts : List Bytes}
    (read : List.Forall₂ HeadAs heads parts) : readHeads parts.flatten = some heads := by
  apply readHeadsWithin_flatten read
  induction read with
  | nil => exact Nat.le_refl 0
  | @cons head part heads parts first more ih =>
      have positive := List.length_pos_of_ne_nil first.ne_nil
      rw [List.flatten_cons, List.length_append, List.length_cons]
      omega

/-! ### The least size of a head -/

/-- The size of the smallest encoding of an integer, a string or the head of an array;
that of any other head counts as one byte, which it has at least. -/
def Head.leastSize : Head → Nat
  | .value (.int number) =>
      if -32 ≤ number ∧ number < 128 then 1
      else if -128 ≤ number ∧ number < 256 then 2
      else if -32768 ≤ number ∧ number < 65536 then 3
      else if -2147483648 ≤ number ∧ number < 4294967296 then 5
      else 9
  | .value (.str bytes) =>
      bytes.length +
        (if bytes.length < 32 then 1
        else if bytes.length < 256 then 2
        else if bytes.length < 65536 then 3
        else 5)
  | .array count => if count < 16 then 1 else if count < 65536 then 3 else 5
  | .value _ | .map _ => 1

theorem takeBytes_some {count : Nat} {bytes taken rest : Bytes}
    (read : takeBytes count bytes = some (taken, rest)) :
    taken.length = count ∧ bytes.length = count + rest.length := by
  unfold takeBytes at read
  split at read
  · cases read
    rw [List.length_take, List.length_drop]
    omega
  · cases read

theorem beNat_lt (bytes : Bytes) : beNat bytes < 256 ^ bytes.length := by
  induction bytes with
  | nil => exact Nat.one_pos
  | cons byte bytes ih =>
      have bound := byte.toNat_lt
      calc
        beNat (byte :: bytes)
            = byte.toNat * 256 ^ bytes.length + beNat bytes := rfl
        _ < byte.toNat * 256 ^ bytes.length + 256 ^ bytes.length := Nat.add_lt_add_left ih _
        _ = (byte.toNat + 1) * 256 ^ bytes.length := (Nat.succ_mul _ _).symm
        _ ≤ 256 * 256 ^ bytes.length := Nat.mul_le_mul_right _ bound
        _ = 256 ^ (byte :: bytes).length := by rw [List.length_cons, Nat.pow_succ, Nat.mul_comm]

theorem takeNat_some {width number : Nat} {bytes rest : Bytes}
    (read : takeNat width bytes = some (number, rest)) :
    number < 256 ^ width ∧ bytes.length = width + rest.length := by
  unfold takeNat at read
  obtain ⟨taken, took, same⟩ := Option.map_eq_some_iff.mp read
  obtain ⟨digits, length⟩ := takeBytes_some (show _ = some (taken.1, taken.2) from took)
  cases same
  refine ⟨?_, length⟩
  have bound := beNat_lt taken.1
  rwa [digits] at bound

theorem takeSized_some {width : Nat} {bytes body rest : Bytes}
    (read : takeSized width bytes = some (body, rest)) :
    body.length < 256 ^ width ∧ bytes.length = width + body.length + rest.length := by
  unfold takeSized at read
  obtain ⟨sized, counted, took⟩ := Option.bind_eq_some_iff.mp read
  obtain ⟨bound, header⟩ := takeNat_some (show _ = some (sized.1, sized.2) from counted)
  obtain ⟨length, remaining⟩ := takeBytes_some took
  rw [length]
  exact ⟨bound, by omega⟩

theorem takeExt_some {count : Nat} {bytes rest : Bytes} {value : Value}
    (read : takeExt count bytes = some (value, rest)) :
    (∃ type body, value = .ext type body) ∧ rest.length ≤ bytes.length := by
  unfold takeExt at read
  obtain ⟨type, typed, later⟩ := Option.bind_eq_some_iff.mp read
  obtain ⟨body, took, same⟩ := Option.map_eq_some_iff.mp later
  obtain ⟨_bound, header⟩ := takeNat_some (show _ = some (type.1, type.2) from typed)
  obtain ⟨_length, remaining⟩ := takeBytes_some (show _ = some (body.1, body.2) from took)
  cases same
  exact ⟨⟨_, _, rfl⟩, by omega⟩

/-- An integer in the range of a width, signed or unsigned. -/
theorem leastSize_int {number : Int} {width : Nat}
    (known : width = 1 ∨ width = 2 ∨ width = 4 ∨ width = 8)
    (low : -2 ^ (8 * width - 1) ≤ number) (high : number < 2 ^ (8 * width)) :
    (Head.value (.int number)).leastSize ≤ width + 1 := by
  simp only [Head.leastSize]
  rcases known with rfl | rfl | rfl | rfl
  · split_ifs <;> omega
  · split_ifs <;> omega
  · split_ifs <;> omega
  · split_ifs <;> omega

theorem signed_bounds {width number : Nat} (positive : 0 < width) (fits : number < 256 ^ width) :
    -2 ^ (8 * width - 1) ≤ signed width number ∧ signed width number < 2 ^ (8 * width) := by
  have whole : (256 : Nat) ^ width = 2 ^ (8 * width) := by rw [Nat.pow_mul]
  have half : (2 : Nat) ^ (8 * width) = 2 * 2 ^ (8 * width - 1) := by
    rw [← Nat.pow_succ']
    congr 1
    omega
  have wholeInt : (2 : Int) ^ (8 * width) = ((2 ^ (8 * width) : Nat) : Int) := by
    rw [Int.natCast_pow]
    rfl
  have halfInt : (2 : Int) ^ (8 * width - 1) = ((2 ^ (8 * width - 1) : Nat) : Int) := by
    rw [Int.natCast_pow]
    rfl
  rw [whole] at fits
  unfold signed
  rw [wholeInt, halfInt]
  split <;> omega

/-! Each kind of tail takes the bytes that its head needs. -/

section Tails

variable {rest after : Bytes} {head : Head} {width : Nat}

theorem scalar_leastSize {value : Bytes → Value}
    (read : ((takeBytes width rest).map fun taken => (Head.value (value taken.1), taken.2)) =
      some (head, after))
    (least : ∀ taken : Bytes, taken.length = width →
      (Head.value (value taken)).leastSize ≤ width + 1) :
    head.leastSize + after.length ≤ rest.length + 1 := by
  obtain ⟨taken, took, same⟩ := Option.map_eq_some_iff.mp read
  obtain ⟨length, remaining⟩ := takeBytes_some (show _ = some (taken.1, taken.2) from took)
  cases same
  have here := least taken.1 length
  omega

theorem sized_leastSize {value : Bytes → Value}
    (read : ((takeSized width rest).map fun taken => (Head.value (value taken.1), taken.2)) =
      some (head, after))
    (least : ∀ body : Bytes, body.length < 256 ^ width →
      (Head.value (value body)).leastSize ≤ body.length + width + 1) :
    head.leastSize + after.length ≤ rest.length + 1 := by
  obtain ⟨taken, took, same⟩ := Option.map_eq_some_iff.mp read
  obtain ⟨bound, remaining⟩ := takeSized_some (show _ = some (taken.1, taken.2) from took)
  cases same
  have here := least taken.1 bound
  omega

theorem counted_leastSize {counted : Nat → Head}
    (read : ((takeNat width rest).map fun taken => (counted taken.1, taken.2)) =
      some (head, after))
    (least : ∀ count : Nat, count < 256 ^ width → (counted count).leastSize ≤ width + 1) :
    head.leastSize + after.length ≤ rest.length + 1 := by
  obtain ⟨taken, took, same⟩ := Option.map_eq_some_iff.mp read
  obtain ⟨bound, remaining⟩ := takeNat_some (show _ = some (taken.1, taken.2) from took)
  cases same
  have here := least taken.1 bound
  omega

theorem ext_leastSize {count : Nat}
    (read : ((takeExt count rest).map fun taken => (Head.value taken.1, taken.2)) =
      some (head, after)) :
    head.leastSize + after.length ≤ rest.length + 1 := by
  obtain ⟨taken, took, same⟩ := Option.map_eq_some_iff.mp read
  obtain ⟨⟨type, body, value⟩, remaining⟩ :=
    takeExt_some (show _ = some (taken.1, taken.2) from took)
  cases same
  rw [value]
  change 1 + taken.2.length ≤ _
  omega

theorem sizedExt_leastSize
    (read : ((takeNat width rest).bind fun size =>
      (takeExt size.1 size.2).map fun taken => (Head.value taken.1, taken.2)) =
        some (head, after)) :
    head.leastSize + after.length ≤ rest.length + 1 := by
  obtain ⟨size, sized, later⟩ := Option.bind_eq_some_iff.mp read
  obtain ⟨_bound, header⟩ := takeNat_some (show _ = some (size.1, size.2) from sized)
  have least := ext_leastSize later
  omega

theorem unsigned_leastSize (known : width = 1 ∨ width = 2 ∨ width = 4 ∨ width = 8)
    (taken : Bytes) (length : taken.length = width) :
    (Head.value (.int (beNat taken))).leastSize ≤ width + 1 := by
  have bound := beNat_lt taken
  rw [length] at bound
  apply leastSize_int known
  · rcases known with rfl | rfl | rfl | rfl <;> omega
  · rcases known with rfl | rfl | rfl | rfl <;> omega

theorem signed_leastSize (known : width = 1 ∨ width = 2 ∨ width = 4 ∨ width = 8)
    (taken : Bytes) (length : taken.length = width) :
    (Head.value (.int (signed width (beNat taken)))).leastSize ≤ width + 1 := by
  have bound := beNat_lt taken
  rw [length] at bound
  obtain ⟨low, high⟩ := signed_bounds (by omega) bound
  exact leastSize_int known low high

theorem str_leastSize (known : width = 1 ∨ width = 2 ∨ width = 4) (body : Bytes)
    (bound : body.length < 256 ^ width) :
    (Head.value (.str body)).leastSize ≤ body.length + width + 1 := by
  simp only [Head.leastSize]
  rcases known with rfl | rfl | rfl
  · split_ifs <;> omega
  · split_ifs <;> omega
  · split_ifs <;> omega

theorem array_leastSize (known : width = 2 ∨ width = 4) (count : Nat)
    (bound : count < 256 ^ width) : (Head.array count).leastSize ≤ width + 1 := by
  simp only [Head.leastSize]
  rcases known with rfl | rfl
  · split_ifs <;> omega
  · split_ifs <;> omega

theorem leastSize_readTail {code : Nat} (read : readTail code rest = some (head, after)) :
    head.leastSize + after.length ≤ rest.length + 1 := by
  have still : ∀ value : Value, (Head.value value).leastSize = 1 →
      some (Head.value value, rest) = some (head, after) →
      head.leastSize + after.length ≤ rest.length + 1 := by
    intro value least same
    cases same
    omega
  unfold readTail at read
  simp only at read
  split at read
  · exact still _ rfl read
  · exact still _ rfl read
  · exact still _ rfl read
  · exact sized_leastSize read fun body _bound => by change 1 ≤ _; omega
  · exact sized_leastSize read fun body _bound => by change 1 ≤ _; omega
  · exact sized_leastSize read fun body _bound => by change 1 ≤ _; omega
  · exact sizedExt_leastSize read
  · exact sizedExt_leastSize read
  · exact sizedExt_leastSize read
  · exact @scalar_leastSize rest after head 4 (fun taken => .float32 (beNat taken)) read
      fun taken _length => by change 1 ≤ _; omega
  · exact @scalar_leastSize rest after head 8 (fun taken => .float64 (beNat taken)) read
      fun taken _length => by change 1 ≤ _; omega
  · exact scalar_leastSize read (unsigned_leastSize (by omega))
  · exact scalar_leastSize read (unsigned_leastSize (by omega))
  · exact scalar_leastSize read (unsigned_leastSize (by omega))
  · exact scalar_leastSize read (unsigned_leastSize (by omega))
  · exact scalar_leastSize read (signed_leastSize (by omega))
  · exact scalar_leastSize read (signed_leastSize (by omega))
  · exact scalar_leastSize read (signed_leastSize (by omega))
  · exact scalar_leastSize read (signed_leastSize (by omega))
  · exact ext_leastSize read
  · exact ext_leastSize read
  · exact ext_leastSize read
  · exact ext_leastSize read
  · exact ext_leastSize read
  · exact sized_leastSize read (str_leastSize (by omega))
  · exact sized_leastSize read (str_leastSize (by omega))
  · exact sized_leastSize read (str_leastSize (by omega))
  · exact counted_leastSize read (array_leastSize (by omega))
  · exact counted_leastSize read (array_leastSize (by omega))
  · exact counted_leastSize read fun count _bound => by change 1 ≤ _; omega
  · exact counted_leastSize read fun count _bound => by change 1 ≤ _; omega
  · cases read

end Tails

/-- Nothing encodes a head in fewer bytes. -/
theorem leastSize_readHead {bytes rest : Bytes} {head : Head}
    (read : readHead bytes = some (head, rest)) :
    head.leastSize + rest.length ≤ bytes.length := by
  cases bytes with
  | nil => cases read
  | cons first more =>
      have bound := first.toNat_lt
      rw [List.length_cons]
      simp only [readHead] at read
      split at read
      · cases read
        simp only [Head.leastSize]
        split_ifs <;> omega
      · split at read
        · cases read
          change 1 + _ ≤ _
          omega
        · split at read
          · cases read
            simp only [Head.leastSize]
            split_ifs <;> omega
          · split at read
            · obtain ⟨taken, took, same⟩ := Option.map_eq_some_iff.mp read
              obtain ⟨length, remaining⟩ :=
                takeBytes_some (show _ = some (taken.1, taken.2) from took)
              cases same
              simp only [Head.leastSize]
              split_ifs <;> omega
            · split at read
              · cases read
                simp only [Head.leastSize]
                split_ifs <;> omega
              · exact leastSize_readTail read

end RanOnline.MessagePack
