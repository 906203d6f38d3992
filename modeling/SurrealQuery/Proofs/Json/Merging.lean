import Mathlib.Data.List.Induction
import SurrealQuery.Proofs.Json.Decoding
import SurrealQuery.Value

/-!
# Merging repeated keys

An object has under a key what its last member of that key says (`Json.under`). Merging a tree keeps
this for every object in it, and so it keeps the value that the tree denotes.
-/

namespace SurrealQuery

/-! ## Sorting by key -/

namespace Sorted

variable {α β : Type}

theorem lookup_insert (k k' : String) (a : α) (entries : List (String × α)) :
    (insert k a entries).lookup k' = if k' = k then some a else entries.lookup k' := by
  induction entries with
  | nil => by_cases h : k' = k <;> simp [insert, List.lookup_cons, beq_eq_false_iff_ne.2, h]
  | cons e rest ih =>
    obtain ⟨k₀, a₀⟩ := e
    rw [insert]
    split
    · by_cases h : k' = k <;> simp [List.lookup_cons, beq_eq_false_iff_ne.2, h]
    · split
      · subst k₀
        by_cases h : k' = k <;> simp [List.lookup_cons, beq_eq_false_iff_ne.2, h]
      · rename_i hne
        by_cases h₀ : k' = k₀
        · subst k₀
          simp [Ne.symm hne]
        · simp [List.lookup_cons, beq_eq_false_iff_ne.2 h₀, ih]

theorem ofList_append_singleton (entries : List (String × α)) (e : String × α) :
    ofList (entries ++ [e]) = insert e.1 e.2 (ofList entries) :=
  List.foldl_append ..

/-- Of several entries with one key the last one is found. -/
theorem lookup_ofList (entries : List (String × α)) (k : String) :
    (ofList entries).lookup k = entries.reverse.lookup k := by
  induction entries using List.reverseRecOn with
  | nil => rfl
  | append_singleton entries e ih =>
    obtain ⟨k₀, a⟩ := e
    rw [ofList_append_singleton, lookup_insert, ih, List.reverse_append]
    by_cases h : k = k₀ <;> simp [List.lookup_cons, beq_eq_false_iff_ne.2, h]

/-- What is found under a key, where something is done to all entries. -/
theorem lookup_map (f : α → β) (entries : List (String × α)) (k : String) :
    (entries.map fun e => (e.1, f e.2)).lookup k = (entries.lookup k).map f := by
  induction entries with
  | nil => rfl
  | cons e rest ih =>
    rw [List.map_cons, List.lookup_cons, List.lookup_cons]
    cases k == e.1
    · exact ih
    · rfl

theorem mem_keys_ofList {entries : List (String × α)} {k : String} :
    k ∈ (ofList entries).map Prod.fst ↔ k ∈ entries.map Prod.fst := by
  have h := congrArg Option.isSome (lookup_ofList entries k)
  rw [Bool.eq_iff_iff, List.lookup_isSome_iff, List.lookup_isSome_iff] at h
  simpa only [List.mem_map, List.mem_reverse, beq_iff_eq, @eq_comm _ k] using h

theorem mem_of_mem_ofList {entries : List (String × α)} {e : String × α} (h : e ∈ ofList entries) :
    e ∈ entries := by
  induction entries using List.reverseRecOn with
  | nil => cases h
  | append_singleton entries e₀ ih =>
    rw [ofList_append_singleton] at h
    rcases mem_insert h with rfl | h
    · exact List.mem_append_right _ (List.mem_singleton_self _)
    · exact List.mem_append_left _ (ih h)

theorem IsSorted.nodup_keys {entries : List (String × α)} (h : IsSorted entries) :
    (entries.map Prod.fst).Nodup :=
  List.pairwise_map.2 (h.imp fun {_ _} hlt => String.ne_of_lt hlt)

theorem map_insert (f : α → β) (k : String) (a : α) (entries : List (String × α)) :
    (insert k a entries).map (fun e => (e.1, f e.2)) =
      insert k (f a) (entries.map fun e => (e.1, f e.2)) := by
  induction entries with
  | nil => rfl
  | cons e rest ih =>
    rw [insert, List.map_cons, insert]
    split
    · rfl
    · split
      · rfl
      · rw [List.map_cons, ih]

/-- Sorting goes by the keys alone. -/
theorem map_ofList (f : α → β) (entries : List (String × α)) :
    (ofList entries).map (fun e => (e.1, f e.2)) = ofList (entries.map fun e => (e.1, f e.2)) := by
  induction entries using List.reverseRecOn with
  | nil => rfl
  | append_singleton entries e ih =>
    rw [ofList_append_singleton, map_insert, ih, List.map_append]
    exact (ofList_append_singleton _ (e.1, f e.2)).symm

theorem forall_keys_ofList {entries : List (String × α)} {P : String → Prop} :
    (∀ e ∈ ofList entries, P e.1) ↔ ∀ e ∈ entries, P e.1 := by
  refine ⟨fun h e he => ?_, fun h e he => h e (mem_of_mem_ofList he)⟩
  obtain ⟨e', he', heq⟩ := List.mem_map.1 (mem_keys_ofList.2 (List.mem_map_of_mem he))
  rw [← heq]
  exact h e' he'

/-- One entry is left where all have one key, and it is the last. -/
theorem ofList_eq_singleton_iff {entries : List (String × α)} {k : String} {a : α} :
    ofList entries = [(k, a)] ↔
      (∀ e ∈ entries, e.1 = k) ∧ entries.reverse.lookup k = some a := by
  constructor
  · intro h
    rw [← forall_keys_ofList (P := (· = k)), ← lookup_ofList, h]
    simp
  · rintro ⟨hkeys, hlookup⟩
    have hsorted := isSorted_ofList entries
    have hall : ∀ e ∈ ofList entries, e.1 = k := fun e he => hkeys e (mem_of_mem_ofList he)
    rw [← lookup_ofList] at hlookup
    match hlist : ofList entries with
    | [] =>
      rw [hlist] at hlookup
      cases hlookup
    | [e] =>
      rw [hlist] at hlookup hall
      obtain rfl : e.1 = k := hall e (List.mem_singleton_self e)
      rw [List.lookup_cons, beq_self_eq_true] at hlookup
      cases hlookup
      rfl
    | e :: e' :: rest =>
      rw [hlist] at hsorted hall
      have hlt : e.1 < e'.1 := (List.pairwise_cons.1 hsorted).1 e' (List.mem_cons_self ..)
      rw [hall e (by simp), hall e' (by simp)] at hlt
      exact absurd hlt (String.lt_irrefl k)

end Sorted

/-! ## Trees -/

namespace Json

/-- Induction over trees: what holds for all items, or under all keys, holds for the container. -/
theorem tree_induction {motive : Json → Prop} (null : motive .null) (bool : ∀ b, motive (.bool b))
    (num : ∀ n, motive (.num n)) (str : ∀ s, motive (.str s))
    (arr : ∀ items, (∀ j ∈ items, motive j) → motive (.arr items))
    (obj : ∀ members, (∀ m ∈ members, motive m.2) → motive (.obj members))
    (unreadable : motive .unreadable) : ∀ j, motive j
  | .null => null
  | .bool b => bool b
  | .num n => num n
  | .str s => str s
  | .arr items => arr items fun j _ => tree_induction null bool num str arr obj unreadable j
  | .obj members => obj members fun m hm =>
    have hsize : sizeOf m.2 < sizeOf members := by
      have hlt := List.sizeOf_lt_of_mem hm
      have hpair : sizeOf m = 1 + sizeOf m.1 + sizeOf m.2 := rfl
      omega
    tree_induction null bool num str arr obj unreadable m.2
  | .unreadable => unreadable

/-- What an object has under a key: the last member of that key says it. -/
def under (members : List (String × Json)) (key : String) : Option Json :=
  members.reverse.lookup key

/-- An object with one key, repeated or not, and what it has under it. -/
def Only (key : String) (members : List (String × Json)) (j : Json) : Prop :=
  (∀ m ∈ members, m.1 = key) ∧ under members key = some j

theorem legible_arr {items : List Json} : (Json.arr items).legible ↔ ∀ j ∈ items, j.legible := by
  rw [legible, legibleItems_eq_all, List.all_eq_true]

theorem legible_obj {members : List (String × Json)} :
    (Json.obj members).legible ↔ ∀ m ∈ members, m.2.legible := by
  rw [legible, legibleMembers_eq_all, List.all_eq_true]

theorem mem_of_under {members : List (String × Json)} {key : String} {j : Json}
    (h : under members key = some j) : (key, j) ∈ members := by
  obtain ⟨before, after, hsplit, -⟩ := List.lookup_eq_some_iff.1 h
  rw [← List.mem_reverse, hsplit]
  exact List.mem_append_right _ (List.mem_cons_self ..)

theorem legible_of_under {members : List (String × Json)} {key : String} {j : Json}
    (h : (Json.obj members).legible) (hunder : under members key = some j) : j.legible :=
  legible_obj.1 h _ (mem_of_under hunder)

theorem merged_arr (items : List Json) : (Json.arr items).merged = .arr (items.map merged) := by
  rw [merged, mergedItems_eq_map]

theorem merged_obj (members : List (String × Json)) :
    (Json.obj members).merged = .obj (Sorted.ofList (members.map fun m => (m.1, m.2.merged))) := by
  rw [merged, mergedMembers_eq_map]

/-- A merged object has under each key what the object has there. -/
theorem lookup_merged (members : List (String × Json)) (key : String) :
    (Sorted.ofList (members.map fun m => (m.1, m.2.merged))).lookup key =
      (under members key).map merged := by
  rw [Sorted.lookup_ofList, ← List.map_reverse, Sorted.lookup_map]
  rfl

theorem str?_merged (j : Json) : j.merged.str? = j.str? := by
  cases j with
  | arr items => rw [merged_arr]; rfl
  | obj members => rw [merged_obj]; rfl
  | _ => rfl

theorem legible_merged {j : Json} (h : j.legible) : j.merged.legible := by
  induction j using tree_induction with
  | arr items ih =>
    rw [legible_arr] at h
    rw [merged_arr, legible_arr, List.forall_mem_map]
    exact fun j hj => ih j hj (h j hj)
  | obj members ih =>
    rw [legible_obj] at h
    rw [merged_obj, legible_obj]
    intro e he
    obtain ⟨m, hm, rfl⟩ := List.mem_map.1 (Sorted.mem_of_mem_ofList he)
    exact ih m hm (h m hm)
  | _ => exact h

/-- Merging leaves one member exactly if the tree is an object with one key. -/
theorem merged_eq_singleton_iff {j v : Json} {key : String} :
    j.merged = .obj [(key, v)] ↔
      ∃ members x, j = .obj members ∧ Only key members x ∧ x.merged = v := by
  have hmembers (members : List (String × Json)) : (Json.obj members).merged = .obj [(key, v)] ↔
      ∃ x, Only key members x ∧ x.merged = v := by
    rw [merged_obj, Json.obj.injEq, Sorted.ofList_eq_singleton_iff, List.forall_mem_map,
      ← List.map_reverse, Sorted.lookup_map, Option.map_eq_some_iff, ← exists_and_left]
    simp only [Only, under, and_assoc]
  constructor
  · intro h
    cases j with
    | obj members =>
      obtain ⟨x, hx⟩ := (hmembers members).1 h
      exact ⟨members, x, rfl, hx⟩
    | arr items =>
      rw [merged_arr] at h
      cases h
    | _ => cases h
  · rintro ⟨members, x, rfl, hx⟩
    exact (hmembers members).2 ⟨x, hx⟩

end Json

/-! ## Values of trees -/

namespace Value

theorem ofJsonItems_eq_map (items : List Json) : ofJsonItems items = items.map ofJson := by
  induction items with
  | nil => rfl
  | cons j items ih => rw [ofJsonItems, ih, List.map_cons]

theorem ofJsonMembers_eq_map (members : List (String × Json)) :
    ofJsonMembers members = members.map fun m => (m.1, ofJson m.2) := by
  induction members with
  | nil => rfl
  | cons m members ih => rw [ofJsonMembers, ih, List.map_cons]

/-- Merging does not change what a tree denotes. -/
theorem ofJson_merged (j : Json) : ofJson j.merged = ofJson j := by
  induction j using Json.tree_induction with
  | arr items ih =>
    rw [Json.merged_arr, ofJson, ofJson, ofJsonItems_eq_map, ofJsonItems_eq_map, List.map_map]
    exact congrArg array (List.map_congr_left ih)
  | obj members ih =>
    have hmembers : (members.map fun m => (m.1, ofJson m.2.merged)) =
        members.map fun m => (m.1, ofJson m.2) :=
      List.map_congr_left fun m hm => congrArg (Prod.mk m.1) (ih m hm)
    rw [Json.merged_obj, ofJson, ofJson, ofJsonMembers_eq_map, ofJsonMembers_eq_map]
    refine object_congr ?_
    rw [Sorted.ofList_of_isSorted ((Sorted.isSorted_ofList _).map ofJson), Sorted.map_ofList,
      List.map_map]
    exact congrArg Sorted.ofList hmembers
  | _ => rfl

theorem readItems?_of_read? {items : List Json} (h : ∀ j ∈ items, read? j = some (ofJson j)) :
    readItems? items = some (items.map ofJson) := by
  induction items with
  | nil => rfl
  | cons j items ih =>
    rw [List.forall_mem_cons] at h
    rw [readItems?, h.1, ih h.2]
    rfl

theorem readMembers?_of_read? {members : List (String × Json)}
    (h : ∀ m ∈ members, read? m.2 = some (ofJson m.2)) :
    readMembers? members = some (members.map fun m => (m.1, ofJson m.2)) := by
  induction members with
  | nil => rfl
  | cons m members ih =>
    rw [List.forall_mem_cons] at h
    rw [readMembers?, h.1, ih h.2]
    rfl

theorem read?_num (n : Json.Number) : read? (.num n) = some (ofNumber n) := by
  cases n with
  | float x => rfl
  | int n =>
    show ((Json.num (.int n)).int64?.map Value.int <|> some (.float (Double.ofInt n))) = _
    unfold Json.int64? Json.int? ofNumber
    rw [Option.bind_eq_bind, Option.bind_some]
    dsimp only
    split <;> rfl

/-- Trying the kinds of values in turn finds the value that a tree denotes. -/
theorem read?_of_legible {j : Json} (h : j.legible) : read? j = some (ofJson j) := by
  induction j using Json.tree_induction with
  | num n => exact read?_num n
  | arr items ih =>
    rw [Json.legible_arr] at h
    show (readItems? items).map array = _
    rw [readItems?_of_read? fun j hj => ih j hj (h j hj), ofJson, ofJsonItems_eq_map]
    rfl
  | obj members ih =>
    rw [Json.legible_obj] at h
    show (readMembers? members).map ofEntries = _
    rw [readMembers?_of_read? fun m hm => ih m hm (h m hm), ofJson, ofJsonMembers_eq_map]
    rfl
  | unreadable => cases h
  | _ => rfl

theorem read?_merged {j : Json} (h : j.legible) : read? j.merged = some (ofJson j) := by
  rw [read?_of_legible (Json.legible_merged h), ofJson_merged]

end Value

end SurrealQuery
