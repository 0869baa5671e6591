/-
The markers of a call escape and the parameters that are bound to them (db/odbc_db.cpp).

ODBC numbers the question marks of a statement from the left, and SQLBindParameter binds
a buffer to such a number.  The text counts the parameters and the bindings walk over
them twice; both put a return value first and the other parameters behind it in the
order in which they were appended.
-/
import Mathlib.Data.List.Basic
import RanOnline.Db.DriverCalls
import RanOnline.Lib.Text

namespace RanOnline.Db

open Memory Methods

namespace Object

variable {W : Type} {driver : Driver W}

/-- Where the markers of a statement stand; marker `n` has the index `n - 1`. -/
def markers (statement : Bytes) : List Nat := statement.findIdxs (· = 63)

/-- The call escape up to the name of the procedure. -/
def callHead (params : List Param) (sp : String) : Bytes :=
  text "\x7b " ++ (if params.any Param.isReturn then text "? = " else []) ++ text ("call " ++ sp)

/-- The list of markers between the parentheses. -/
def argumentList (count : Nat) : Bytes :=
  (List.range count).flatMap fun i => text (if i = 0 then "?" else ",?")

/-- What the number of a marker, its parameter and the place of the marker have to do with
each other.  `bound` is what is bound, in the order of the calls. -/
structure MarkersMatch (params : List Param) (sp : String) (bound : List (UInt16 × Param)) :
    Prop where
  count : (markers (callText params sp)).length = bound.length
  numbers : bound.map (fun binding => binding.1.toNat) = List.range' 1 bound.length
  /-- The return value is the leading marker and has the number 1. -/
  returns : ∀ param ∈ params, param.isReturn = true →
    bound.head? = some (1, param) ∧ text "\x7b ? = call " <+: callText params sp
  /-- The others belong to the markers inside the parentheses, in append order. -/
  arguments : ∀ (k : Nat) (param : Param),
    (params.filter fun other => !other.isReturn)[k]? = some param →
      ∃ (number : UInt16) (inside : Bytes) (place : Nat), (number, param) ∈ bound ∧
        callText params sp = callHead params sp ++ text " (" ++ inside ++ text ")" ++ text " \x7d" ∧
        (markers inside)[k]? = some place ∧
        (markers (callText params sp))[number.toNat - 1]? =
          some ((callHead params sp ++ text " (").length + place)
  once : (bound.map Prod.snd).Perm params
  /-- What the driver writes to a number lands in the parameter with that number. -/
  own : ∀ written : List Written,
    bound.map (fun binding => receive written binding.1 binding.2) =
      bindOrder (received written params)

/-! ### Texts -/

theorem text_eq (literal : String) : text literal = literal.toByteArray.data.toList :=
  Text.toList_eq_data _

theorem text_append (first second : String) : text (first ++ second) = text first ++ text second := by
  simp only [text_eq, String.toByteArray_append, ByteArray.toList_data_append]

theorem text_marker (i : Nat) :
    text (if i = 0 then "?" else ",?") = if i = 0 then [63] else [44, 63] := by
  split
  · exact text_eq _
  · exact text_eq _

/-! ### Markers of a text -/

theorem markers_append (first second : Bytes) :
    markers (first ++ second) = markers first ++ (markers second).map (first.length + ·) := by
  simp only [markers]
  rw [List.findIdxs_append, Nat.zero_add, List.findIdxs_start (s := first.length)]
  congr 1
  apply List.map_congr_left
  intro place _member
  exact Nat.add_comm _ _

theorem markers_none {statement : Bytes} (plain : 63 ∉ statement) : markers statement = [] := by
  rw [markers, List.findIdxs_eq_nil_iff]
  intro c member
  rw [decide_eq_false_iff_not]
  intro same
  exact plain (same ▸ member)

theorem argumentList_succ (count : Nat) :
    argumentList (count + 1) = argumentList count ++ if count = 0 then [63] else [44, 63] := by
  rw [argumentList, List.range_succ, List.flatMap_append, List.flatMap_singleton, text_marker]
  rfl

theorem argumentList_length (count : Nat) : (argumentList count).length = 2 * count - 1 := by
  induction count with
  | zero => rfl
  | succ count ih =>
      rw [argumentList_succ, List.length_append, ih]
      split
      · rename_i first
        rw [first]
        rfl
      · change 2 * count - 1 + 2 = _
        omega

theorem markers_argumentList (count : Nat) :
    markers (argumentList count) = (List.range count).map (2 * ·) := by
  induction count with
  | zero => rfl
  | succ count ih =>
      rw [argumentList_succ, List.range_succ, List.map_append, markers_append, ih,
        argumentList_length]
      congr 1
      split
      · rename_i first
        rw [first]
        rfl
      · change [2 * count - 1 + 1] = [2 * count]
        rw [Nat.sub_add_cancel (by omega)]

theorem markers_callHead (params : List Param) {sp : String} (plain : 63 ∉ text sp) :
    markers (callHead params sp) = if params.any Param.isReturn then [2] else [] := by
  have start : text "\x7b " = [123, 32] := text_eq _
  have call : markers (text "call " ++ text sp) = [] := by
    apply markers_none
    have name : text "call " = [99, 97, 108, 108, 32] := text_eq _
    rw [name]
    intro member
    rcases List.mem_append.mp member with word | inName
    · revert word
      decide
    · exact plain inName
  have leading : text "? = " = [63, 32, 61, 32] := text_eq _
  rw [callHead, text_append, markers_append, call, List.map_nil, List.append_nil, start]
  split
  · rw [leading]
    rfl
  · rfl

theorem callText_eq (params : List Param) (sp : String) :
    callText params sp = callHead params sp ++
      (if 0 < params.countP fun param => !param.isReturn then
        text " (" ++ argumentList (params.countP fun param => !param.isReturn) ++ text ")"
      else []) ++ text " \x7d" := rfl

/-- The leading marker and those of the argument list. -/
theorem markers_callText (params : List Param) {sp : String} (plain : 63 ∉ text sp) :
    markers (callText params sp) =
      (if params.any Param.isReturn then [2] else []) ++
        (List.range (params.countP fun param => !param.isReturn)).map
          fun k => (callHead params sp ++ text " (").length + 2 * k := by
  have opening : text " (" = [32, 40] := text_eq _
  have closing : text ")" = [41] := text_eq _
  have ending : text " \x7d" = [32, 125] := text_eq _
  have shape : callText params sp = callHead params sp ++
      (if 0 < params.countP fun param => !param.isReturn then
        text " (" ++ argumentList (params.countP fun param => !param.isReturn) ++ text ")"
      else []) ++ text " \x7d" := rfl
  rw [shape, markers_append, markers_append, markers_callHead params plain, ending]
  generalize params.countP (fun param => !param.isReturn) = count
  have quiet : markers [32, 125] = [] := rfl
  rw [quiet, List.map_nil, List.append_nil]
  congr 1
  cases count with
  | zero => rfl
  | succ count =>
      have quietOpening : markers [32, 40] = [] := rfl
      have quietClosing : markers [41] = [] := rfl
      rw [if_pos (Nat.succ_pos count), markers_append, markers_append, markers_argumentList, opening,
        closing, quietOpening, quietClosing, List.map_nil, List.append_nil, List.nil_append,
        List.map_map, List.map_map, List.length_append]
      apply List.map_congr_left
      intro k _member
      change _ + (_ + 2 * k) = _ + _ + 2 * k
      rw [Nat.add_assoc]

/-! ### Numbers of the bindings -/

theorem numbered_append (number : UInt16) (first second : List Param) :
    numbered number (first ++ second) =
      numbered number first ++ numbered (number + UInt16.ofNat first.length) second := by
  induction first generalizing number with
  | nil =>
      change numbered number second = numbered (number + 0) second
      rw [UInt16.add_zero]
  | cons param rest ih =>
      have further : number + 1 + UInt16.ofNat rest.length =
          number + UInt16.ofNat (param :: rest).length := by
        rw [List.length_cons, UInt16.ofNat_add, UInt16.add_assoc, UInt16.add_comm 1]
        rfl
      rw [List.cons_append, numbered, numbered, ih, further, List.cons_append]

theorem numbered_length (number : UInt16) (params : List Param) :
    (numbered number params).length = params.length := by
  induction params generalizing number with
  | nil => rfl
  | cons param rest ih => rw [numbered, List.length_cons, ih, List.length_cons]

theorem numbered_snd (number : UInt16) (params : List Param) :
    (numbered number params).map Prod.snd = params := by
  induction params generalizing number with
  | nil => rfl
  | cons param rest ih => rw [numbered, List.map_cons, ih]

/-- The numbers go up by one as long as 16 bits hold them. -/
theorem numbered_numbers {start : Nat} {params : List Param}
    (few : start + params.length ≤ 65536) :
    (numbered (UInt16.ofNat start) params).map (fun binding => binding.1.toNat) =
      List.range' start params.length := by
  induction params generalizing start with
  | nil => rfl
  | cons param rest ih =>
      rw [List.length_cons] at few
      have here : (UInt16.ofNat start).toNat = start := UInt16.toNat_ofNat_of_lt' (by change start < 65536; omega)
      have further : UInt16.ofNat start + 1 = UInt16.ofNat (start + 1) := by
        rw [UInt16.ofNat_add]
        rfl
      rw [numbered, List.map_cons, further, ih (by omega), List.length_cons, List.range'_succ, here]

theorem numbered_getElem? (number : UInt16) (params : List Param) (k : Nat) :
    (numbered number params)[k]? = params[k]?.map fun param => (number + UInt16.ofNat k, param) := by
  induction params generalizing number k with
  | nil => rfl
  | cons param rest ih =>
      cases k with
      | zero =>
          change some (number, param) = some (number + 0, param)
          rw [UInt16.add_zero]
      | succ k =>
          rw [numbered, List.getElem?_cons_succ, List.getElem?_cons_succ, ih, UInt16.ofNat_add,
            UInt16.add_comm (UInt16.ofNat k), ← UInt16.add_assoc]
          rfl

/-! ### Writes come back to the parameter with their number -/

theorem filter_receiveFrom_returns (written : List Written) (returning other : UInt16)
    (params : List Param) :
    (receiveFrom written returning other params).filter Param.isReturn =
      (numbered returning (params.filter Param.isReturn)).map
        fun binding => receive written binding.1 binding.2 := by
  induction params generalizing returning other with
  | nil => rfl
  | cons param rest ih =>
      rw [receiveFrom]
      by_cases returns : param.isReturn = true
      · have kept := (receive_isReturn written returning param).trans returns
        rw [if_pos returns, List.filter_cons_of_pos kept, List.filter_cons_of_pos returns, ih,
          numbered, List.map_cons]
      · have dropped : ¬(receive written other param).isReturn = true := by
          rwa [receive_isReturn]
        rw [if_neg returns, List.filter_cons_of_neg dropped, List.filter_cons_of_neg returns, ih]

theorem filter_receiveFrom_others (written : List Written) (returning other : UInt16)
    (params : List Param) :
    ((receiveFrom written returning other params).filter fun param => !param.isReturn) =
      (numbered other (params.filter fun param => !param.isReturn)).map
        fun binding => receive written binding.1 binding.2 := by
  induction params generalizing returning other with
  | nil => rfl
  | cons param rest ih =>
      rw [receiveFrom]
      cases returns : param.isReturn with
      | true =>
          have dropped : ¬(!(receive written returning param).isReturn) = true := by
            rw [receive_isReturn, returns]
            exact Bool.false_ne_true
          have skipped : ¬(!param.isReturn) = true := by
            rw [returns]
            exact Bool.false_ne_true
          rw [if_pos rfl, List.filter_cons, if_neg dropped, List.filter_cons, if_neg skipped, ih]
      | false =>
          have kept : (!(receive written other param).isReturn) = true := by
            rw [receive_isReturn, returns]
            rfl
          have taken : (!param.isReturn) = true := by
            rw [returns]
            rfl
          rw [if_neg Bool.false_ne_true, List.filter_cons, if_pos kept, List.filter_cons,
            if_pos taken, ih, numbered, List.map_cons]

theorem bindOrder_received (written : List Written) (params : List Param) :
    bindOrder (received written params) =
      (numbered 1 (bindOrder params)).map fun binding => receive written binding.1 binding.2 := by
  have behind : (1 : UInt16) + UInt16.ofNat (params.filter Param.isReturn).length =
      UInt16.ofNat (1 + params.countP Param.isReturn) := by
    rw [UInt16.ofNat_add, List.countP_eq_length_filter]
    rfl
  rw [bindOrder, received, filter_receiveFrom_returns, filter_receiveFrom_others, bindOrder,
    numbered_append, List.map_append, behind]

/-! ### The escape and its bindings -/

/-- There is as many leading markers as return values. -/
theorem leading_length {params : List Param} (one : params.countP Param.isReturn ≤ 1) :
    (if params.any Param.isReturn then [2] else ([] : List Nat)).length =
      (params.filter Param.isReturn).length := by
  rw [← List.countP_eq_length_filter]
  by_cases any : params.any Param.isReturn = true
  · obtain ⟨param, member, returns⟩ := List.any_eq_true.mp any
    have positive := List.countP_pos_iff.mpr ⟨param, member, returns⟩
    rw [if_pos any]
    exact Nat.le_antisymm positive one
  · rw [if_neg any]
    symm
    apply List.countP_eq_zero.mpr
    intro param member returns
    exact any (List.any_eq_true.mpr ⟨param, member, returns⟩)

theorem bindOrder_perm (params : List Param) : (bindOrder params).Perm params :=
  List.filter_append_perm Param.isReturn params

theorem count_match {params : List Param} {sp : String} (one : params.countP Param.isReturn ≤ 1)
    (plain : 63 ∉ text sp) : (markers (callText params sp)).length = (bindOrder params).length := by
  rw [markers_callText params plain, List.length_append, List.length_map, List.length_range,
    leading_length one, bindOrder, List.length_append, List.countP_eq_length_filter]

theorem returns_match {params : List Param} {param : Param}
    (one : params.countP Param.isReturn ≤ 1) (member : param ∈ params)
    (returns : param.isReturn = true) (sp : String) :
    (numbered 1 (bindOrder params)).head? = some (1, param) ∧
      text "\x7b ? = call " <+: callText params sp := by
  constructor
  · have present : param ∈ params.filter Param.isReturn := List.mem_filter.mpr ⟨member, returns⟩
    rw [List.countP_eq_length_filter] at one
    rw [bindOrder]
    cases shape : params.filter Param.isReturn with
    | nil =>
        rw [shape] at present
        cases present
    | cons first rest =>
        rw [shape, List.length_cons] at one
        have alone : rest = [] := List.eq_nil_of_length_eq_zero (by omega)
        rw [shape, alone, List.mem_singleton] at present
        rw [present]
        rfl
  · have any : params.any Param.isReturn = true := List.any_eq_true.mpr ⟨param, member, returns⟩
    have words : text "\x7b ? = call " = text "\x7b " ++ text "? = " ++ text "call " := by
      rw [← text_append, ← text_append]
      rfl
    rw [callText, if_pos any, words, text_append]
    simp only [List.append_assoc]
    exact ⟨_, by simp only [List.append_assoc]; rfl⟩

theorem argument_match {params : List Param} {sp : String} {param : Param} {k : Nat}
    (few : params.length < 65536) (one : params.countP Param.isReturn ≤ 1)
    (plain : 63 ∉ text sp)
    (here : (params.filter fun other => !other.isReturn)[k]? = some param) :
    ∃ (number : UInt16) (inside : Bytes) (place : Nat),
      (number, param) ∈ numbered 1 (bindOrder params) ∧
      callText params sp = callHead params sp ++ text " (" ++ inside ++ text ")" ++ text " \x7d" ∧
      (markers inside)[k]? = some place ∧
      (markers (callText params sp))[number.toNat - 1]? =
        some ((callHead params sp ++ text " (").length + place) := by
  have before := leading_length one
  have total := (bindOrder_perm params).length_eq
  rw [bindOrder, List.length_append] at total
  have inside : k < params.countP fun other => !other.isReturn := by
    rw [List.countP_eq_length_filter]
    exact (List.getElem?_eq_some_iff.mp here).1
  have bound := inside
  rw [List.countP_eq_length_filter] at bound
  have found := numbered_getElem? 1 (bindOrder params) ((params.filter Param.isReturn).length + k)
  rw [bindOrder, List.getElem?_append_right (Nat.le_add_right _ _), Nat.add_sub_cancel_left, here,
    Option.map_some] at found
  have number : (1 + UInt16.ofNat ((params.filter Param.isReturn).length + k) : UInt16).toNat =
      (params.filter Param.isReturn).length + k + 1 := by
    rw [UInt16.toNat_add, UInt16.toNat_ofNat']
    change (1 + _) % 65536 = _
    omega
  refine ⟨_, argumentList (params.countP fun other => !other.isReturn), 2 * k,
    List.mem_of_getElem? found, ?_, ?_, ?_⟩
  · have any : 0 < params.countP fun other => !other.isReturn := Nat.zero_lt_of_lt inside
    rw [callText_eq, if_pos any]
    simp only [List.append_assoc]
  · rw [markers_argumentList, List.getElem?_map, List.getElem?_range inside, Option.map_some]
  · rw [number, Nat.add_sub_cancel, markers_callText params plain, ← before,
      List.getElem?_append_right (Nat.le_add_right _ _), Nat.add_sub_cancel_left, List.getElem?_map,
      List.getElem?_range inside, Option.map_some]

/-- The statement that execCall prepares has a marker for each parameter that it binds, and
every parameter is bound to its own.  ODBC counts markers in 16 bits; the names that the
servers call are literals without a question mark. -/
theorem execCall_markers (db : Object W) (sp : String) (few : db.params.length < 65536)
    (one : db.params.countP Param.isReturn ≤ 1) (plain : 63 ∉ text sp) :
    ∃ bound : List (UInt16 × Param), MarkersMatch db.params sp bound ∧
      callCalls driver sp db <+:
        .prepare (callText db.params sp) ::
          (bound.map (fun binding => .bind binding.1 binding.2) ++ [.execute]) ∧
      ((execCall driver sp db).1 = true →
        callCalls driver sp db = .prepare (callText db.params sp) ::
          (bound.map (fun binding => .bind binding.1 binding.2) ++ [.execute])) := by
  have made := @callCalls_escape W driver sp db
  have total := (bindOrder_perm db.params).length_eq
  refine ⟨numbered 1 (bindOrder db.params), ?_, made.1, made.2⟩
  constructor
  · rw [count_match one plain, numbered_length]
  · rw [numbered_length]
    exact @numbered_numbers 1 (bindOrder db.params) (by omega)
  · intro param member returns
    exact returns_match one member returns sp
  · intro k param here
    exact argument_match few one plain here
  · rw [numbered_snd]
    exact bindOrder_perm db.params
  · intro written
    exact (bindOrder_received written db.params).symm

/-- The second procedure of the smoke test; the return value is appended last. -/
def smokeCall : Object Unit :=
  ((do
    appendIParamBigint "@i_big" 5000000000
    appendOParamBigint "@o_big"
    appendRParamInteger : Method Unit Unit) (Object.new ())).2

theorem execCall_markers_smokeCall :
    ∃ bound : List (UInt16 × Param),
      MarkersMatch smokeCall.params "dbo.sp__odbc_param_smoke2" bound ∧
      callCalls (emptyDriver true) "dbo.sp__odbc_param_smoke2" smokeCall <+:
        .prepare (callText smokeCall.params "dbo.sp__odbc_param_smoke2") ::
          (bound.map (fun binding => .bind binding.1 binding.2) ++ [.execute]) ∧
      ((execCall (emptyDriver true) "dbo.sp__odbc_param_smoke2" smokeCall).1 = true →
        callCalls (emptyDriver true) "dbo.sp__odbc_param_smoke2" smokeCall =
          .prepare (callText smokeCall.params "dbo.sp__odbc_param_smoke2") ::
            (bound.map (fun binding => .bind binding.1 binding.2) ++ [.execute])) := by
  apply execCall_markers smokeCall "dbo.sp__odbc_param_smoke2"
  · decide
  · decide
  · rw [text_eq]
    decide

end Object

end RanOnline.Db
