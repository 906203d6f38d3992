import Mathlib.Data.List.Sort
import SurrealQuery.Proofs.Codec.Grammar

/-!
# The value of a tree

`Value.Denotes` says which value a tree denotes, with one rule for each kind of tree and two for
integers. A tree that is legible denotes one value, which is found both by looking at the kind of the
tree and by trying the kinds of values in turn (`value_readers_agree`).
-/

namespace SurrealQuery

open Json (under)

/-! ## Entries in order -/

namespace Sorted

variable {α : Type} {entries others : List (String × α)}

theorem IsSorted.lookup_eq_some_iff (h : IsSorted entries) {k : String} {a : α} :
    entries.lookup k = some a ↔ (k, a) ∈ entries := by
  constructor
  · intro hlookup
    obtain ⟨before, after, rfl, -⟩ := List.lookup_eq_some_iff.1 hlookup
    exact List.mem_append_right _ (List.mem_cons_self ..)
  · intro hmem
    obtain ⟨before, after, rfl⟩ := List.append_of_mem hmem
    refine List.lookup_eq_some_iff.2 ⟨before, after, rfl, fun e he => ?_⟩
    have hlt : e.1 < k := (List.pairwise_append.1 h).2.2 e he _ (List.mem_cons_self ..)
    exact bne_iff_ne.2 (String.ne_of_lt hlt).symm

/-- Entries in order are known by what is found under each key. -/
theorem IsSorted.eq_of_lookup (h : IsSorted entries) (h' : IsSorted others)
    (hsame : ∀ k, entries.lookup k = others.lookup k) : entries = others := by
  have : Std.Antisymm fun a b : String × α => a.1 < b.1 :=
    ⟨fun _ _ hab hba => absurd hba (String.lt_asymm hab)⟩
  have : Std.Irrefl fun a b : String × α => a.1 < b.1 := ⟨fun a => String.lt_irrefl a.1⟩
  refine List.Pairwise.eq_of_mem_iff h h' fun e => ?_
  rw [← h.lookup_eq_some_iff, ← h'.lookup_eq_some_iff, hsame]

end Sorted

/-! ## What trees denote -/

namespace Value

/-- The value that a tree denotes. An integer that fits 64 bits with a sign is itself, and any other
number is a double. Items keep their order. The keys of an object are put in order, and under each
key is what the last member of that key denotes. -/
inductive Denotes : Json → Value → Prop
  | null : Denotes .null .null
  | bool (b : Bool) : Denotes (.bool b) (.bool b)
  | int {n : Int} {m : Int64} (fits : m.toInt = n) : Denotes (.num (.int n)) (.int m)
  | wide {n : Int} (noFit : ∀ m : Int64, m.toInt ≠ n) :
    Denotes (.num (.int n)) (.float (Double.ofInt n))
  | float (x : Double) : Denotes (.num (.float x)) (.float x)
  | str (s : String) : Denotes (.str s) (.text s)
  | arr {items : List Json} {values : List Value} (length : values.length = items.length)
    (each : ∀ (i : Nat) j v, items[i]? = some j → values[i]? = some v → Denotes j v) :
    Denotes (.arr items) (.array values)
  | obj {members : List (String × Json)} {entries : List (String × Value)}
    (sorted : Sorted.IsSorted entries)
    (keys : ∀ k, (entries.lookup k).isSome = (under members k).isSome)
    (each : ∀ k j v, under members k = some j → entries.lookup k = some v → Denotes j v) :
    Denotes (.obj members) (.object entries sorted)

theorem denotes_ofNumber (n : Json.Number) : Denotes (.num n) (ofNumber n) := by
  cases n with
  | float x => exact .float x
  | int n =>
    rw [ofNumber]
    split
    · rename_i hrange
      exact .int (Int64.toInt_ofInt_of_le hrange.1 hrange.2)
    · rename_i hrange
      refine .wide fun m hm => hrange ?_
      rw [← hm]
      exact ⟨m.le_toInt, m.toInt_lt⟩

theorem denotes_ofJson {j : Json} (h : j.legible) : Denotes j (ofJson j) := by
  induction j using Json.tree_induction with
  | null => exact .null
  | bool b => exact .bool b
  | num n => exact denotes_ofNumber n
  | str s => exact .str s
  | unreadable => cases h
  | arr items ih =>
    rw [Json.legible_arr] at h
    rw [ofJson, ofJsonItems_eq_map]
    refine .arr (List.length_map _) fun i j v hj hv => ?_
    rw [List.getElem?_map, hj] at hv
    cases hv
    have hmem : j ∈ items := List.mem_of_getElem? hj
    exact ih j hmem (h j hmem)
  | obj members ih =>
    have hlookup (k : String) : (Sorted.ofList (members.map fun m => (m.1, ofJson m.2))).lookup k =
        (under members k).map ofJson := by
      rw [Sorted.lookup_ofList, ← List.map_reverse, Sorted.lookup_map]
      rfl
    rw [ofJson, ofJsonMembers_eq_map]
    refine .obj (Sorted.isSorted_ofList _) (fun k => ?_) fun k j v hj hv => ?_
    · rw [hlookup, Option.isSome_map]
    · rw [hlookup, hj] at hv
      cases hv
      exact ih _ (Json.mem_of_under hj) (Json.legible_of_under h hj)

/-- A tree denotes one value at most. -/
theorem Denotes.eq {j : Json} {v w : Value} (hv : Denotes j v) (hw : Denotes j w) : v = w := by
  induction hv generalizing w with
  | int fits =>
    cases hw with
    | int fits' => exact congrArg Value.int (Int64.toInt_inj.1 (fits.trans fits'.symm))
    | wide noFit => exact absurd fits (noFit _)
  | wide noFit =>
    cases hw with
    | int fits => exact absurd fits (noFit _)
    | wide _ => rfl
  | @arr items values length _ ih =>
    cases hw with
    | @arr _ values' length' each =>
      refine congrArg Value.array (List.ext_getElem (length.trans length'.symm) fun i hi hi' => ?_)
      have hitem : items[i]? = some items[i] := List.getElem?_eq_getElem (length ▸ hi)
      exact ih i _ _ hitem (List.getElem?_eq_getElem hi)
        (each i _ _ hitem (List.getElem?_eq_getElem hi'))
  | @obj members entries sorted keys _ ih =>
    cases hw with
    | @obj _ entries' sorted' keys' each =>
      refine Value.object_congr (sorted.eq_of_lookup sorted' fun k => ?_)
      have hkey := keys k
      have hkey' := keys' k
      -- Both have the key or neither has it, by whether some member does.
      cases hj : under members k with
      | none =>
        rw [hj, Option.isSome_none, Option.isSome_eq_false_iff, Option.isNone_iff_eq_none]
          at hkey hkey'
        rw [hkey, hkey']
      | some j =>
        rw [hj, Option.isSome_some, Option.isSome_iff_exists] at hkey hkey'
        obtain ⟨v, hv⟩ := hkey
        obtain ⟨w, hw⟩ := hkey'
        rw [hv, hw, ih k j v hj hv (each k j w hj hw)]
  | _ =>
    cases hw
    rfl

theorem denotes_iff {j : Json} (h : j.legible) {v : Value} : Denotes j v ↔ v = ofJson j :=
  ⟨fun hv => hv.eq (denotes_ofJson h), fun hv => hv ▸ denotes_ofJson h⟩

end Value

/-! ## Literals -/

/-- What is no object may be written without saying that it is a value. -/
theorem Operand.read?_plain {j : Json} (hobject : ∀ members, j ≠ .obj members) :
    read? j = read? (.obj [("value", j)]) := by
  by_cases h : j.legible
  · rw [read?_value h]
    exact read?_of_denotes h (.plain hobject)
  · have hwrapped : ¬(Json.obj [("value", j)]).legible := by
      rwa [Json.legible_obj, List.forall_mem_singleton]
    unfold read?
    rw [if_neg h, if_neg hwrapped]

/-- **A tree has one value.** Every legible tree denotes one value. Trying the kinds of values in turn
finds it, as looking at the kind of the tree does. It is the literal that the tree stands for under
the key that says so, and without that key if the tree is no object. -/
theorem value_readers_agree :
    (∀ j : Json, j.legible → Value.read? j = some (Value.ofJson j) ∧
      (∀ v, Value.Denotes j v ↔ v = Value.ofJson j) ∧
      Operand.read? (.obj [("value", j)]) = some (.literal (Value.ofJson j))) ∧
    ∀ j : Json, (∀ members, j ≠ .obj members) →
      Operand.read? j = Operand.read? (.obj [("value", j)]) :=
  ⟨fun _ h => ⟨Value.read?_of_legible h, fun _ => Value.denotes_iff h, Operand.read?_value h⟩,
    fun _ => Operand.read?_plain⟩

/-- The largest integer of 64 bits with a sign, the one after it, a negative zero, and an object with
a repeated key. -/
def mixedTree : Json :=
  .arr [.num (.int 9223372036854775807), .num (.int 9223372036854775808),
    .num (.float (Double.zero true)),
    .obj [("b", .null), ("a", .arr []), ("b", .num (.int (-1)))]]

theorem value_readers_agree_mixedTree :
    mixedTree.legible ∧
      Value.read? mixedTree = some (.array [.int 9223372036854775807,
        .float (Double.ofInt 9223372036854775808), .float (Double.zero true),
        .object [("a", .array []), ("b", .int (-1))] (List.pairwise_pair.2 (by decide))]) ∧
      (∀ members, mixedTree ≠ .obj members) ∧
      Operand.read? mixedTree = Operand.read? (.obj [("value", mixedTree)]) := by
  have hlegible : mixedTree.legible := rfl
  have hobject : ∀ members, mixedTree ≠ .obj members := nofun
  refine ⟨hlegible, ?_, hobject, value_readers_agree.2 mixedTree hobject⟩
  rw [(value_readers_agree.1 mixedTree hlegible).1]
  rfl

end SurrealQuery
