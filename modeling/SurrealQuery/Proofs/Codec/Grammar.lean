import SurrealQuery.Proofs.Codec.Value
import SurrealQuery.Proofs.Json.Merging

/-!
# The grammar of operands and columns

Which trees stand for an operand or a column, and for which: what is no object is a literal or a
name, and an object has one key that says what is under it. The readers accept just these trees and
give what the tree stands for (`Operand.read?_eq_some_iff`, `Column.read?_eq_some_iff`).
-/

namespace SurrealQuery

open Json (Only under)

/-- The two fields of a call: a text, and the list of its arguments where there is one. -/
inductive Call.Given : Option Json → Option Json → Call → Prop
  | bare (text : String) : Given (some (.str text)) none ⟨text, []⟩
  | applied (text : String) (items : List Json) :
    Given (some (.str text)) (some (.arr items)) ⟨text, items.map Value.ofJson⟩

/-- The trees of a call: an object with its fields, or an array that lists them. -/
inductive Call.Denotes : Json → Call → Prop
  | named {members : List (String × Json)} {c : Call}
    (keys : ∀ m ∈ members, m.1 ∈ ["expression", "bindings"])
    (given : Given (under members "expression") (under members "bindings") c) :
    Denotes (.obj members) c
  | first {expression : Json} {c : Call} (given : Given (some expression) none c) :
    Denotes (.arr [expression]) c
  | both {expression bindings : Json} {c : Call}
    (given : Given (some expression) (some bindings) c) : Denotes (.arr [expression, bindings]) c

/-- The trees of an operand. -/
inductive Operand.Denotes : Json → Operand → Prop
  | plain {j : Json} (noObject : ∀ members, j ≠ .obj members) :
    Denotes j (.literal (Value.ofJson j))
  | literal {members : List (String × Json)} {j : Json} (only : Only "value" members j) :
    Denotes (.obj members) (.literal (Value.ofJson j))
  | raw {members : List (String × Json)} {text : String} (only : Only "raw" members (.str text)) :
    Denotes (.obj members) (.raw text)
  | call {members : List (String × Json)} {j : Json} {c : Call}
    (only : Only "function" members j) (call : Call.Denotes j c) : Denotes (.obj members) (.call c)

/-- The trees of a column. -/
inductive Column.Denotes : Json → Column → Prop
  | plain (s : String) : Denotes (.str s) (.name s)
  | name {members : List (String × Json)} {s : String} (only : Only "name" members (.str s)) :
    Denotes (.obj members) (.name s)
  | raw {members : List (String × Json)} {text : String} (only : Only "raw" members (.str text)) :
    Denotes (.obj members) (.raw text)
  | call {members : List (String × Json)} {j : Json} {c : Call}
    (only : Only "function" members j) (call : Call.Denotes j c) : Denotes (.obj members) (.call c)

/-! ## Calls -/

theorem Json.str?_eq_some_iff {j : Json} {s : String} : j.str? = some s ↔ j = .str s := by
  cases j <;> simp [Json.str?]

/-- A closed record that was merged has its fields once, and they are those of the record. -/
theorem Json.fields?_merged_iff {names : List String} {members : List (String × Json)}
    {fields : List (Option Json)} : (Json.obj members).merged.fields? names false = some fields ↔
      (∀ m ∈ members, m.1 ∈ names) ∧
        names.map (fun name => (under members name).map merged) = fields := by
  have hnames : (∀ m ∈ Sorted.ofList (members.map fun m => (m.1, m.2.merged)), m.1 ∈ names) ↔
      ∀ m ∈ members, m.1 ∈ names := by
    rw [Sorted.forall_keys_ofList, List.forall_mem_map]
  rw [merged_obj]
  by_cases hknown : ∀ m ∈ members, m.1 ∈ names
  · rw [fields?_of_nodup (Sorted.isSorted_ofList _).nodup_keys (hnames.2 hknown),
      Option.some.injEq]
    simp only [lookup_merged, and_iff_right hknown]
  · have hunknown : (Sorted.ofList (members.map fun m => (m.1, m.2.merged))).all
        (names.contains ·.1) = false := by
      rw [Bool.eq_false_iff]
      intro hall
      exact hknown (hnames.1 fun m hm => List.contains_iff_mem.1 (List.all_eq_true.1 hall m hm))
    refine iff_of_false (fun hfields => ?_) fun h => hknown h.1
    unfold fields? at hfields
    dsimp only at hfields
    rw [hunknown, Bool.or_false, Bool.and_false, if_neg Bool.false_ne_true] at hfields
    cases hfields

namespace Call

/-- The call that two fields give, each where it is there. -/
def ofFields? (expression bindings : Option Json) : Option Call := do
  let expression ← Json.required Json.str? expression
  let arguments ← Json.withDefault [] (Json.list? Value.read?) bindings
  some { expression, arguments }

theorem read?_eq_some_iff {j : Json} {c : Call} : read? j = some c ↔
    ∃ expression bindings, j.fields? ["expression", "bindings"] false =
      some [expression, bindings] ∧ ofFields? expression bindings = some c := by
  unfold read?
  split
  · rename_i expression bindings hfields
    rw [hfields]
    simp [ofFields?]
  · rename_i hno
    simp only [reduceCtorEq, false_iff]
    rintro ⟨expression, bindings, hfields, -⟩
    exact hno _ _ hfields

theorem list?_merged {j : Json} (h : j.legible) {values : List Value} :
    Json.list? Value.read? j.merged = some values ↔
      ∃ items, j = .arr items ∧ items.map Value.ofJson = values := by
  cases j with
  | arr items =>
    rw [Json.legible_arr] at h
    have hread : (items.map Json.merged).mapM Value.read? = some (items.map Value.ofJson) := by
      rw [← Value.readItems?_eq_mapM, Value.readItems?_of_read?, List.map_map]
      · exact congrArg some (List.map_congr_left fun j _ => Value.ofJson_merged j)
      · rw [List.forall_mem_map]
        exact fun j hj => Value.read?_of_legible (Json.legible_merged (h j hj))
    rw [Json.merged_arr, Json.list?, hread]
    simp
  | obj members =>
    rw [Json.merged_obj]
    simp [Json.list?]
  | _ => simp [Json.merged, Json.list?]

/-- The fields of a merged call are those of the call. -/
theorem ofFields?_merged (expression bindings : Option Json) (h : ∀ j ∈ bindings, j.legible)
    {c : Call} : ofFields? (expression.map Json.merged) (bindings.map Json.merged) = some c ↔
      Given expression bindings c := by
  constructor
  · intro hread
    obtain ⟨text, htext, hread⟩ := Option.bind_eq_some_iff.1 hread
    obtain ⟨values, hvalues, hread⟩ := Option.bind_eq_some_iff.1 hread
    cases hread
    cases expression with
    | none => cases htext
    | some e =>
      obtain rfl : e = .str text := Json.str?_eq_some_iff.1 ((Json.str?_merged e).symm.trans htext)
      cases bindings with
      | none =>
        cases hvalues
        exact .bare text
      | some b =>
        obtain ⟨items, rfl, rfl⟩ := (list?_merged (h b rfl)).1 hvalues
        exact .applied text items
  · intro hgiven
    cases hgiven with
    | bare text => rfl
    | applied text items =>
      have hread := (list?_merged (h _ rfl)).2 ⟨items, rfl, rfl⟩
      show (Json.list? Value.read? (Json.arr items).merged).bind _ = _
      rw [hread]
      rfl

theorem read?_merged_obj_iff {members : List (String × Json)} (h : (Json.obj members).legible)
    {c : Call} : read? (Json.obj members).merged = some c ↔ Denotes (.obj members) c := by
  have hgiven := @ofFields?_merged (under members "expression") (under members "bindings")
    (fun b hb => Json.legible_of_under h hb) c
  rw [read?_eq_some_iff]
  simp only [Json.fields?_merged_iff]
  constructor
  · rintro ⟨expression, bindings, ⟨keys, hfields⟩, hread⟩
    cases hfields
    exact .named keys (hgiven.1 hread)
  · rintro ⟨keys, given⟩
    exact ⟨_, _, ⟨keys, rfl⟩, hgiven.2 given⟩

theorem read?_merged_arr_iff {items : List Json} (h : (Json.arr items).legible) {c : Call} :
    read? (Json.arr items).merged = some c ↔ Denotes (.arr items) c := by
  rw [Json.legible_arr] at h
  rw [read?_eq_some_iff, Json.merged_arr]
  match items with
  | [] =>
    refine iff_of_false ?_ fun hdenotes => by cases hdenotes
    rintro ⟨expression, bindings, hfields, hread⟩
    cases hfields
    cases hread
  | [e] =>
    have hgiven := @ofFields?_merged (some e) none (fun b hb => by cases hb) c
    constructor
    · rintro ⟨expression, bindings, hfields, hread⟩
      cases hfields
      exact .first (hgiven.1 hread)
    · intro hdenotes
      cases hdenotes with
      | first given => exact ⟨_, _, rfl, hgiven.2 given⟩
  | [e, b] =>
    have hgiven := @ofFields?_merged (some e) (some b) (by simpa using h b (by simp)) c
    constructor
    · rintro ⟨expression, bindings, hfields, hread⟩
      cases hfields
      exact .both (hgiven.1 hread)
    · intro hdenotes
      cases hdenotes with
      | both given => exact ⟨_, _, rfl, hgiven.2 given⟩
  | e :: b :: x :: rest =>
    refine iff_of_false ?_ fun hdenotes => by cases hdenotes
    rintro ⟨expression, bindings, hfields, -⟩
    rw [Json.fields?, if_neg (by simp)] at hfields
    cases hfields

/-- Reading a merged tree gives the call that the tree stands for. -/
theorem read?_merged_iff {j : Json} (h : j.legible) {c : Call} :
    read? j.merged = some c ↔ Denotes j c := by
  cases j with
  | obj members => exact read?_merged_obj_iff h
  | arr items => exact read?_merged_arr_iff h
  | _ => exact iff_of_false (fun hread => by cases hread) fun hdenotes => by cases hdenotes

end Call

/-! ## Operands and columns -/

theorem Json.Only.legible {key : String} {members : List (String × Json)} {j : Json}
    (h : Only key members j) (hlegible : (Json.obj members).legible) : j.legible :=
  legible_of_under hlegible h.2

theorem Json.Only.merged_eq {key : String} {members : List (String × Json)} {j : Json}
    (h : Only key members j) : (Json.obj members).merged = .obj [(key, j.merged)] :=
  merged_eq_singleton_iff.2 ⟨members, j, rfl, h, rfl⟩

/-- A tree with a text under its one key. -/
theorem Json.exists_only_of_str? {j v : Json} {key text : String}
    (hmerged : j.merged = .obj [(key, v)]) (htext : v.str? = some text) :
    ∃ members, j = .obj members ∧ Only key members (.str text) := by
  obtain ⟨members, x, rfl, honly, rfl⟩ := merged_eq_singleton_iff.1 hmerged
  rw [str?_merged, str?_eq_some_iff] at htext
  rw [htext] at honly
  exact ⟨members, rfl, honly⟩

/-- A tree with a call under its one key. -/
theorem Call.exists_only_of_read? {j v : Json} {key : String} {c : Call} (hlegible : j.legible)
    (hmerged : j.merged = .obj [(key, v)]) (hc : read? v = some c) :
    ∃ members x, j = .obj members ∧ Only key members x ∧ Denotes x c := by
  obtain ⟨members, x, rfl, honly, rfl⟩ := Json.merged_eq_singleton_iff.1 hmerged
  exact ⟨members, x, rfl, honly, (read?_merged_iff (honly.legible hlegible)).1 hc⟩

theorem Operand.legible_of_read? {j : Json} {o : Operand} (hread : read? j = some o) :
    j.legible := by
  unfold read? at hread
  split at hread
  · assumption
  · cases hread

theorem Operand.denotes_of_read? {j : Json} {o : Operand} (hread : read? j = some o) :
    Denotes j o := by
  have hlegible := legible_of_read? hread
  unfold read? at hread
  rw [if_pos hlegible] at hread
  split at hread
  · rename_i v hmerged
    obtain ⟨members, x, rfl, honly, rfl⟩ := Json.merged_eq_singleton_iff.1 hmerged
    rw [Value.read?_merged (honly.legible hlegible)] at hread
    cases hread
    exact .literal honly
  · rename_i v hmerged
    obtain ⟨text, htext, rfl⟩ := Option.map_eq_some_iff.1 hread
    obtain ⟨members, rfl, honly⟩ := Json.exists_only_of_str? hmerged htext
    exact .raw honly
  · rename_i v hmerged
    obtain ⟨c, hc, rfl⟩ := Option.map_eq_some_iff.1 hread
    obtain ⟨members, x, rfl, honly, hcall⟩ := Call.exists_only_of_read? hlegible hmerged hc
    exact .call honly hcall
  · cases hread
  · rename_i hobject
    cases hread
    rw [Value.ofJson_merged]
    refine .plain ?_
    rintro members rfl
    exact hobject _ (Json.merged_obj members)

theorem Operand.read?_of_denotes {j : Json} {o : Operand} (hlegible : j.legible)
    (h : Denotes j o) : read? j = some o := by
  unfold read?
  rw [if_pos hlegible]
  cases h with
  | plain noObject =>
    rw [← Value.ofJson_merged]
    cases j with
    | obj members => exact absurd rfl (noObject members)
    | arr items => rw [Json.merged_arr]
    | _ => rfl
  | @literal members x only =>
    rw [only.merged_eq]
    show (Value.read? x.merged).map Operand.literal = _
    rw [Value.read?_merged (only.legible hlegible)]
    rfl
  | raw only =>
    rw [only.merged_eq]
    rfl
  | @call members x c only call =>
    rw [only.merged_eq]
    show (Call.read? x.merged).map Operand.call = _
    rw [(Call.read?_merged_iff (only.legible hlegible)).2 call]
    rfl

/-- **Operands.** Whatever is legible and stands for an operand is read as that operand, and nothing
else is read. -/
theorem Operand.read?_eq_some_iff {j : Json} {o : Operand} :
    read? j = some o ↔ j.legible ∧ Denotes j o :=
  ⟨fun h => ⟨legible_of_read? h, denotes_of_read? h⟩, fun h => read?_of_denotes h.1 h.2⟩

/-- A tree under the key of a value is a literal. -/
theorem Operand.read?_value {j : Json} (h : j.legible) :
    read? (.obj [("value", j)]) = some (.literal (Value.ofJson j)) := by
  have hlegible : (Json.obj [("value", j)]).legible := by
    rw [Json.legible_obj, List.forall_mem_singleton]
    exact h
  have honly : Json.Only "value" [("value", j)] j := ⟨by simp, rfl⟩
  exact read?_of_denotes hlegible (.literal honly)

theorem Column.legible_of_read? {j : Json} {c : Column} (hread : read? j = some c) :
    j.legible := by
  unfold read? at hread
  split at hread
  · assumption
  · cases hread

theorem Column.denotes_of_read? {j : Json} {c : Column} (hread : read? j = some c) :
    Denotes j c := by
  have hlegible := legible_of_read? hread
  unfold read? at hread
  rw [if_pos hlegible] at hread
  split at hread
  · rename_i s hmerged
    cases hread
    have hstr : j.merged.str? = some s := by
      rw [hmerged]
      rfl
    rw [Json.str?_merged, Json.str?_eq_some_iff] at hstr
    rw [hstr]
    exact .plain s
  · rename_i v hmerged
    obtain ⟨s, hs, rfl⟩ := Option.map_eq_some_iff.1 hread
    obtain ⟨members, rfl, honly⟩ := Json.exists_only_of_str? hmerged hs
    exact .name honly
  · rename_i v hmerged
    obtain ⟨text, htext, rfl⟩ := Option.map_eq_some_iff.1 hread
    obtain ⟨members, rfl, honly⟩ := Json.exists_only_of_str? hmerged htext
    exact .raw honly
  · rename_i v hmerged
    obtain ⟨c, hc, rfl⟩ := Option.map_eq_some_iff.1 hread
    obtain ⟨members, x, rfl, honly, hcall⟩ := Call.exists_only_of_read? hlegible hmerged hc
    exact .call honly hcall
  · cases hread

theorem Column.read?_of_denotes {j : Json} {c : Column} (hlegible : j.legible)
    (h : Denotes j c) : read? j = some c := by
  unfold read?
  rw [if_pos hlegible]
  cases h with
  | plain s => rfl
  | name only | raw only =>
    rw [only.merged_eq]
    rfl
  | @call members x c only call =>
    rw [only.merged_eq]
    show (Call.read? x.merged).map Column.call = _
    rw [(Call.read?_merged_iff (only.legible hlegible)).2 call]
    rfl

/-- **Columns.** Whatever is legible and stands for a column is read as that column, and nothing
else is read. -/
theorem Column.read?_eq_some_iff {j : Json} {c : Column} :
    read? j = some c ↔ j.legible ∧ Denotes j c :=
  ⟨fun h => ⟨legible_of_read? h, denotes_of_read? h⟩, fun h => read?_of_denotes h.1 h.2⟩

end SurrealQuery
