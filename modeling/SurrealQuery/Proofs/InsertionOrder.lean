import Mathlib.Data.Finset.Card
import Mathlib.Data.List.Forall2
import SurrealQuery.Proofs.Codec.Value

/-!
# Fields in the order in which they were first given

Fields can be given one by one, collected from pairs, read from the text of an object, and given over
from other fields, and each way may go on where another ended. Whatever the way, the fields are those
of the pairs in their order: each key once, where it came first, with the operand that came last
(`recipe_insertionOrdered`).
-/

namespace SurrealQuery

/-! ## Keys by their first occurrence -/

section FirstOccurrence

variable {α : Type} [DecidableEq α]

theorem eraseDups_concat (ks : List α) (k : α) :
    (ks ++ [k]).eraseDups = if k ∈ ks then ks.eraseDups else ks.eraseDups ++ [k] := by
  rw [List.eraseDups_append, List.removeAll, List.filter_singleton]
  by_cases h : k ∈ ks
  · simp [h]
  · simp [h, List.eraseDups_cons]

theorem eraseDups_of_nodup {ks : List α} (h : ks.Nodup) : ks.eraseDups = ks := by
  induction ks using List.reverseRecOn with
  | nil => rfl
  | append_singleton ks k ih =>
    obtain ⟨hks, -, hne⟩ := List.nodup_append.1 h
    have hk : k ∉ ks := fun hk => hne k hk k (List.mem_singleton_self k) rfl
    rw [eraseDups_concat, if_neg hk, ih hks]

theorem eraseDups_append_eraseDups (ks ks' : List α) :
    (ks ++ ks'.eraseDups).eraseDups = (ks ++ ks').eraseDups := by
  induction ks' using List.reverseRecOn with
  | nil => rfl
  | append_singleton ks' k ih =>
    rw [← List.append_assoc, eraseDups_concat, eraseDups_concat]
    by_cases h : k ∈ ks'
    · rw [if_pos h, if_pos (List.mem_append_right _ h), ih]
    · rw [if_neg h, ← List.append_assoc, eraseDups_concat, ih]
      simp [List.mem_eraseDups]

/-- Without its repetitions, a list is in the order of first occurrences. -/
theorem pairwise_idxOf_eraseDups (ks : List α) :
    ks.eraseDups.Pairwise fun k k' => ks.idxOf k < ks.idxOf k' := by
  induction ks using List.reverseRecOn with
  | nil => exact .nil
  | append_singleton ks k ih =>
    have hmem {k' : α} (h : k' ∈ ks.eraseDups) : k' ∈ ks := List.mem_eraseDups.1 h
    have hkeep : ks.eraseDups.Pairwise fun k₁ k₂ =>
        (ks ++ [k]).idxOf k₁ < (ks ++ [k]).idxOf k₂ := by
      refine ih.imp_of_mem fun h₁ h₂ hlt => ?_
      rwa [List.idxOf_append_of_mem (hmem h₁), List.idxOf_append_of_mem (hmem h₂)]
    rw [eraseDups_concat]
    split
    · exact hkeep
    · rename_i hk
      refine List.pairwise_append.2 ⟨hkeep, List.pairwise_singleton _ _, fun k₁ h₁ k₂ h₂ => ?_⟩
      obtain rfl := List.mem_singleton.1 h₂
      rw [List.idxOf_append_of_mem (hmem h₁), List.idxOf_append_of_notMem hk]
      have hlt := List.idxOf_lt_length_of_mem (hmem h₁)
      omega

end FirstOccurrence

namespace Fields

variable (f : Fields) (pairs : List (String × Operand))

/-! ## Giving pairs one after the other -/

theorem setAll_append (more : List (String × Operand)) :
    f.setAll (pairs ++ more) = (f.setAll pairs).setAll more :=
  List.foldl_append ..

theorem setAll_concat (e : String × Operand) :
    f.setAll (pairs ++ [e]) = (f.setAll pairs).set e.1 e.2 :=
  setAll_append f pairs [e]

theorem keys_setAll :
    (f.setAll pairs).keys = (f.keys ++ pairs.map Prod.fst).eraseDups := by
  induction pairs using List.reverseRecOn with
  | nil =>
    have hkeys : f.keys.eraseDups = f.keys := eraseDups_of_nodup f.nodup
    rw [List.map_nil, List.append_nil, hkeys]
    rfl
  | append_singleton pairs e ih =>
    rw [setAll_concat, keys_set, ih, List.map_append, ← List.append_assoc, List.map_singleton,
      eraseDups_concat]
    simp only [List.mem_eraseDups]

theorem get?_setAll (k : String) :
    (f.setAll pairs).get? k = (pairs.reverse.lookup k).or (f.get? k) := by
  induction pairs using List.reverseRecOn with
  | nil => rfl
  | append_singleton pairs e ih =>
    obtain ⟨key, operand⟩ := e
    rw [setAll_concat, get?_set, ih, List.reverse_append, List.reverse_singleton,
      List.singleton_append]
    by_cases h : k = key
    · simp [h]
    · simp [h, List.lookup_cons, beq_eq_false_iff_ne.2 h]

theorem keys_ofList : (ofList pairs).keys = (pairs.map Prod.fst).eraseDups :=
  keys_setAll empty pairs

theorem get?_ofList (k : String) : (ofList pairs).get? k = pairs.reverse.lookup k := by
  rw [ofList, get?_setAll]
  exact Option.or_none

/-! ## Equality -/

/-- The same keys in the same order, with operands that are the same in some sense. -/
def Alike (same : Operand → Operand → Prop) (f g : Fields) : Prop :=
  List.Forall₂ (fun e e' => e.1 = e'.1 ∧ same e.2 e'.2) f.entries g.entries

theorem lookup_of_not_mem {entries : List (String × Operand)} {k : String}
    (h : k ∉ entries.map Prod.fst) : entries.lookup k = none := by
  rw [List.lookup_eq_none_iff]
  intro e he
  rw [bne_iff_ne]
  rintro rfl
  exact h (List.mem_map_of_mem he)

/-- Where keys are distinct, entries correspond if and only if the keys are the same and what is
found under each key corresponds. -/
theorem forall₂_entries_iff {same : Operand → Operand → Prop}
    {entries entries' : List (String × Operand)} (h : (entries.map Prod.fst).Nodup)
    (h' : (entries'.map Prod.fst).Nodup) :
    List.Forall₂ (fun e e' => e.1 = e'.1 ∧ same e.2 e'.2) entries entries' ↔
      entries.map Prod.fst = entries'.map Prod.fst ∧
        ∀ k, Option.Rel same (entries.lookup k) (entries'.lookup k) := by
  induction entries generalizing entries' with
  | nil =>
    cases entries' with
    | nil => simp
    | cons e' entries' => simp
  | cons e entries ih =>
    cases entries' with
    | nil => simp
    | cons e' entries' =>
      obtain ⟨key, o⟩ := e
      obtain ⟨key', o'⟩ := e'
      rw [List.map_cons, List.nodup_cons] at h h'
      rw [List.forall₂_cons, ih h.2 h'.2, List.map_cons, List.map_cons, List.cons.injEq]
      constructor
      · rintro ⟨⟨hkey, ho⟩, hkeys, hlookup⟩
        obtain rfl : key = key' := hkey
        refine ⟨⟨rfl, hkeys⟩, fun k => ?_⟩
        by_cases hk : k = key
        · simpa [hk] using Option.Rel.some ho
        · simpa [List.lookup_cons, beq_eq_false_iff_ne.2 hk] using hlookup k
      · rintro ⟨⟨hkey, hkeys⟩, hlookup⟩
        obtain rfl : key = key' := hkey
        refine ⟨⟨rfl, ?_⟩, hkeys, fun k => ?_⟩
        · have hfound := hlookup key
          rw [List.lookup_cons_self, List.lookup_cons_self] at hfound
          cases hfound
          assumption
        · by_cases hk : k = key
          · -- The key of the first entries is not among the others.
            rw [hk, lookup_of_not_mem h.1, lookup_of_not_mem h'.1]
            exact .none
          · simpa [List.lookup_cons, beq_eq_false_iff_ne.2 hk] using hlookup k

theorem alike_iff {same : Operand → Operand → Prop} {f g : Fields} :
    Alike same f g ↔ f.keys = g.keys ∧ ∀ k, Option.Rel same (f.get? k) (g.get? k) :=
  forall₂_entries_iff f.nodup g.nodup

theorem alike_eq_iff {f g : Fields} : Alike Eq f g ↔ f = g := by
  have hentry (e e' : String × Operand) : (e.1 = e'.1 ∧ e.2 = e'.2) ↔ e = e' := Prod.ext_iff.symm
  unfold Alike
  simp only [hentry, List.forall₂_eq_eq_eq]
  exact ⟨eq_of_entries, congrArg entries⟩

theorem eq_iff {f g : Fields} : f = g ↔ f.keys = g.keys ∧ ∀ k, f.get? k = g.get? k := by
  have hrel (o o' : Option Operand) : Option.Rel Eq o o' ↔ o = o' := by
    cases o <;> cases o' <;> simp
  rw [← alike_eq_iff, alike_iff]
  simp only [hrel]

/-! ## Giving fields over -/

/-- Under a key there is one entry, so the first is the last. -/
theorem lookup_reverse_entries (k : String) : f.entries.reverse.lookup k = f.get? k := by
  obtain ⟨entries, nodup⟩ := f
  show entries.reverse.lookup k = entries.lookup k
  induction entries with
  | nil => rfl
  | cons e entries ih =>
    obtain ⟨key, o⟩ := e
    rw [List.map_cons, List.nodup_cons] at nodup
    rw [List.reverse_cons, List.lookup_append, ih nodup.2]
    by_cases hk : k = key
    · rw [hk, lookup_of_not_mem nodup.1]
      simp
    · simp [List.lookup_cons, beq_eq_false_iff_ne.2 hk]

/-- Pairs that were collected before can be given instead of them. -/
theorem setAll_entries_ofList : f.setAll (ofList pairs).entries = f.setAll pairs := by
  rw [eq_iff, keys_setAll, keys_setAll]
  constructor
  · have hkeys : (ofList pairs).entries.map Prod.fst = (pairs.map Prod.fst).eraseDups :=
      keys_ofList pairs
    rw [hkeys, eraseDups_append_eraseDups]
  · intro k
    rw [get?_setAll, get?_setAll, lookup_reverse_entries, get?_ofList]

/-! ## Ways to make fields -/

/-- The pairs that the members of an object stand for. -/
def memberPairs? : List (String × Json) → Option (List (String × Operand))
  | [] => some []
  | (key, j) :: rest => do
    let operand ← Operand.read? j
    let pairs ← memberPairs? rest
    some ((key, operand) :: pairs)

/-- The pairs that the text of an object writes, in document order. -/
def textPairs? (text : String) : Option (List (String × Operand)) :=
  match Json.parse text with
  | some (.obj members) => memberPairs? members
  | _ => none

theorem setMembers?_eq (members : List (String × Json)) :
    setMembers? f members = (memberPairs? members).map f.setAll := by
  induction members generalizing f with
  | nil => rfl
  | cons m members ih =>
    obtain ⟨key, j⟩ := m
    rw [setMembers?, memberPairs?]
    cases Operand.read? j with
    | none => rfl
    | some operand =>
      show setMembers? (f.set key operand) members = _
      rw [ih]
      cases memberPairs? members <;> rfl

theorem decode_eq (text : String) : Json.decode read? text = (textPairs? text).map ofList := by
  unfold Json.decode textPairs?
  cases Json.parse text with
  | none => rfl
  | some j =>
    cases j with
    | obj members => exact setMembers?_eq empty members
    | _ => rfl

/-- A way to make fields: from none, by setting one more, by collecting those that there are and
further pairs, by reading the text of an object, or by giving fields over to others. -/
inductive Recipe where
  | empty
  | set (before : Recipe) (key : String) (operand : Operand)
  | collect (before : Recipe) (pairs : List (String × Operand))
  | object (text : String)
  | merge (before after : Recipe)

namespace Recipe

/-- The fields that are made, unless a text cannot be read. -/
def build? : Recipe → Option Fields
  | empty => some Fields.empty
  | set before key operand => before.build?.map (·.set key operand)
  | collect before pairs => before.build?.map fun f => ofList (f.entries ++ pairs)
  | object text => Json.decode Fields.read? text
  | merge before after => do
    let f ← before.build?
    let g ← after.build?
    some (f.setAll g.entries)

/-- All the pairs that are given, in order. -/
def pairs? : Recipe → Option (List (String × Operand))
  | empty => some []
  | set before key operand => before.pairs?.map (· ++ [(key, operand)])
  | collect before pairs => before.pairs?.map (· ++ pairs)
  | object text => textPairs? text
  | merge before after => do
    let pairs ← before.pairs?
    let more ← after.pairs?
    some (pairs ++ more)

/-- The way does not matter, only the pairs. -/
theorem build?_eq (r : Recipe) : r.build? = r.pairs?.map ofList := by
  induction r with
  | empty => rfl
  | set before key operand ih =>
    rw [build?, pairs?, ih, Option.map_map, Option.map_map]
    congr 1
    funext pairs
    exact (setAll_concat _ _ (key, operand)).symm
  | collect before more ih =>
    rw [build?, pairs?, ih, Option.map_map, Option.map_map]
    congr 1
    funext pairs
    show Fields.empty.setAll _ = Fields.empty.setAll _
    rw [setAll_append, setAll_entries_ofList, setAll_append]
  | object text => exact decode_eq text
  | merge before after ih ih' =>
    rw [build?, pairs?, ih, ih']
    cases before.pairs? with
    | none => rfl
    | some pairs =>
      cases after.pairs? with
      | none => rfl
      | some more =>
        show some ((ofList pairs).setAll _) = some (Fields.empty.setAll _)
        rw [setAll_entries_ofList, setAll_append]
        rfl

end Recipe

/-! ## Maps in insertion order -/

/-- What fields are after pairs were given in order: each key once, the keys in the order in which
they came first, and under each key what came last. -/
structure InsertionOrdered (f : Fields) (pairs : List (String × Operand)) : Prop where
  nodup : f.keys.Nodup
  keys_eq : f.keys = (pairs.map Prod.fst).eraseDups
  order : f.keys.Pairwise fun k k' =>
    (pairs.map Prod.fst).idxOf k < (pairs.map Prod.fst).idxOf k'
  get?_eq : ∀ k, f.get? k = pairs.reverse.lookup k
  size_eq : f.size = (pairs.map Prod.fst).toFinset.card
  length_keys : f.keys.length = f.size
  length_operands : f.operands.length = f.size
  entry_iff : ∀ (i : Nat) key operand, f.entries[i]? = some (key, operand) ↔
    f.keys[i]? = some key ∧ f.operands[i]? = some operand

theorem size_ofList : (ofList pairs).size = (pairs.map Prod.fst).toFinset.card := by
  have hnodup : (ofList pairs).keys.Nodup := (ofList pairs).nodup
  have hkeys : (ofList pairs).keys.toFinset = (pairs.map Prod.fst).toFinset := by
    ext k
    rw [List.mem_toFinset, List.mem_toFinset, keys_ofList, List.mem_eraseDups]
  rw [← hkeys, List.toFinset_card_of_nodup hnodup]
  exact (List.length_map _).symm

theorem insertionOrdered_ofList : (ofList pairs).InsertionOrdered pairs where
  nodup := (ofList pairs).nodup
  keys_eq := keys_ofList pairs
  order := by
    rw [keys_ofList]
    exact pairwise_idxOf_eraseDups _
  get?_eq := get?_ofList pairs
  size_eq := size_ofList pairs
  length_keys := List.length_map ..
  length_operands := List.length_map ..
  entry_iff i key operand := by
    rw [keys, operands, List.getElem?_map, List.getElem?_map]
    cases (ofList pairs).entries[i]? with
    | none => simp
    | some e => simp [Prod.ext_iff]

/-- **Fields are a map in insertion order.** However the pairs are given, the fields have each key
once, in the order of first occurrences, and under it the operand that came last; keys, operands and
entries agree place by place. Two ways lead to equal fields if and only if the keys first occur in
the same order and the last operand under each is the same, whatever it means that operands are the
same. -/
theorem recipe_insertionOrdered {r : Recipe} {pairs : List (String × Operand)}
    (h : r.pairs? = some pairs) :
    ∃ f, r.build? = some f ∧ f.InsertionOrdered pairs ∧
      ∀ (r' : Recipe) (pairs' : List (String × Operand)), r'.pairs? = some pairs' →
        ∃ g, r'.build? = some g ∧
          (f = g ↔ (pairs.map Prod.fst).eraseDups = (pairs'.map Prod.fst).eraseDups ∧
            ∀ k, pairs.reverse.lookup k = pairs'.reverse.lookup k) ∧
          ∀ same, Alike same f g ↔
            (pairs.map Prod.fst).eraseDups = (pairs'.map Prod.fst).eraseDups ∧
              ∀ k, Option.Rel same (pairs.reverse.lookup k) (pairs'.reverse.lookup k) := by
  have hbuild {r : Recipe} {pairs : List (String × Operand)} (h : r.pairs? = some pairs) :
      r.build? = some (ofList pairs) := by
    rw [r.build?_eq, h]
    rfl
  refine ⟨_, hbuild h, insertionOrdered_ofList pairs, fun r' pairs' h' =>
    ⟨_, hbuild h', ?_, fun same => ?_⟩⟩
  · rw [eq_iff]
    simp only [keys_ofList, get?_ofList]
  · rw [alike_iff]
    simp only [keys_ofList, get?_ofList]

/-- An object with a key twice. -/
def repeatingText : String :=
  "\x7b \"c\" : null, \"b\" : \x7b\"raw\": \"5\"\x7d, \"c\" : \x7b\"raw\": \"6\"\x7d \x7d"

theorem parse_repeatingText : Json.parse repeatingText = some (.obj [("c", .null),
    ("b", .obj [("raw", .str "5")]), ("c", .obj [("raw", .str "6")])]) := by
  cbv

/-- A key is set, collected again behind a new one, and given a third time from a text. -/
def mixedRecipe : Recipe :=
  .merge (.collect (.set .empty "b" (.raw "1")) [("a", .raw "2"), ("b", .raw "3")])
    (.object repeatingText)

theorem recipe_insertionOrdered_mixedRecipe :
    mixedRecipe.pairs? = some [("b", .raw "1"), ("a", .raw "2"), ("b", .raw "3"),
      ("c", .literal .null), ("b", .raw "5"), ("c", .raw "6")] ∧
    ∃ f, mixedRecipe.build? = some f ∧ f.keys = ["b", "a", "c"] ∧ f.size = 3 ∧
      f.get? "b" = some (.raw "5") ∧ f.get? "d" = none := by
  have hobject : (Recipe.object repeatingText).pairs? =
      some [("c", .literal .null), ("b", .raw "5"), ("c", .raw "6")] := by
    rw [Recipe.pairs?, textPairs?, parse_repeatingText]
    rfl
  have hpairs : mixedRecipe.pairs? = some [("b", .raw "1"), ("a", .raw "2"), ("b", .raw "3"),
      ("c", .literal .null), ("b", .raw "5"), ("c", .raw "6")] := by
    rw [mixedRecipe, Recipe.pairs?, hobject]
    rfl
  obtain ⟨f, hf, hmap, -⟩ := recipe_insertionOrdered hpairs
  refine ⟨hpairs, f, hf, ?_, ?_, ?_, ?_⟩
  · rw [hmap.keys_eq]
    decide
  · rw [hmap.size_eq]
    decide
  · rw [hmap.get?_eq]
    rfl
  · rw [hmap.get?_eq]
    rfl

end Fields

end SurrealQuery
