import SurrealQuery.Operator
import SurrealQuery.Proofs.Words

/-!
# Words for operators

A token means an operator by its words alone: how much blank space there is between them, of what
kind, and the case of their letters do not matter. No operator is itself a word for one, so what a
token means stands for itself (`resolve_by_words`).
-/

namespace SurrealQuery.Operator

/-- The words of a token, in lower case. -/
def lowerWords (token : String) : List (List Char) :=
  (Text.words token.toList).map (List.map Char.toLower)

/-- Two tokens with the same words, the case of ASCII letters aside. -/
def SameWords (s t : String) : Prop :=
  lowerWords s = lowerWords t

instance (s t : String) : Decidable (SameWords s t) :=
  inferInstanceAs (Decidable (_ = _))

theorem words_normalize (token : String) : Text.words (normalize token) = Text.words token.toList :=
  Text.words_intercalate fun _ => Text.ne_nil_and_not_isBlank_of_mem_words

/-- Evenly spaced and in lower case, tokens are equal if and only if they have the same words. -/
theorem lower_normalize_eq_iff {s t : String} :
    (normalize s).map Char.toLower = (normalize t).map Char.toLower ↔ SameWords s t := by
  have hwords (token : String) :
      Text.words ((normalize token).map Char.toLower) = lowerWords token := by
    rw [Text.words_map Text.isBlank_toLower, words_normalize]
    rfl
  have hspaced (token : String) :
      (normalize token).map Char.toLower = [' '].intercalate (lowerWords token) :=
    Text.map_intercalate rfl _
  constructor
  · intro h
    rw [SameWords, ← hwords, h, hwords]
  · intro h
    rw [hspaced, h, hspaced]

/-! ## The table -/

theorem normalize_alias : ∀ e ∈ aliases, normalize e.1 = e.1.toList := by
  decide +kernel

/-- No two entries have the same words. -/
theorem eq_of_sameWords : ∀ e ∈ aliases, ∀ e' ∈ aliases, SameWords e.1 e'.1 → e = e' := by
  decide +kernel

theorem mem_all_of_mem_aliases : ∀ e ∈ aliases, e.2 ∈ all := by
  decide +kernel

/-- No operator has the words of an entry. -/
theorem not_sameWords_of_mem_all : ∀ operator ∈ all, ∀ e ∈ aliases, ¬SameWords e.1 operator := by
  decide +kernel

theorem sameLetters_normalize_iff {e : String × String} (he : e ∈ aliases) {token : String} :
    Text.sameLetters e.1.toList (normalize token) ↔ SameWords e.1 token := by
  rw [← lower_normalize_eq_iff, normalize_alias e he, Text.sameLetters, beq_iff_eq]

theorem exists_sameWords_or (token : String) :
    (∃ e ∈ aliases, SameWords e.1 token) ∨ ∀ e ∈ aliases, ¬SameWords e.1 token := by
  by_cases h : ∃ e ∈ aliases, SameWords e.1 token
  · exact .inl h
  · exact .inr fun e he hwords => h ⟨e, he, hwords⟩

/-! ## Looking a token up -/

/-- The operator that a token means by a table of words. -/
def resolveIn (table : List (String × String)) (token : String) : String :=
  ((table.find? fun e => Text.sameLetters e.1.toList (normalize token)).map Prod.snd).getD token

theorem resolve_eq_resolveIn (token : String) : resolve token = resolveIn aliases token := by
  unfold resolve resolveIn
  split
  · rename_i word operator hfind
    have hfind' : aliases.find? (fun e => Text.sameLetters e.1.toList (normalize token)) =
        some (word, operator) := hfind
    rw [hfind']
    rfl
  · rename_i hfind
    have hfind' : aliases.find? (fun e => Text.sameLetters e.1.toList (normalize token)) = none :=
      hfind
    rw [hfind']
    rfl

variable {table : List (String × String)} {token : String}

/-- The order of the table does not matter, since no other entry has the words. -/
theorem resolveIn_of_sameWords (hperm : table.Perm aliases) {e : String × String}
    (he : e ∈ aliases) (h : SameWords e.1 token) : resolveIn table token = e.2 := by
  have hfind : table.find? (fun e => Text.sameLetters e.1.toList (normalize token)) = some e := by
    cases hfound : table.find? fun e => Text.sameLetters e.1.toList (normalize token) with
    | none =>
      rw [List.find?_eq_none] at hfound
      exact absurd ((sameLetters_normalize_iff he).2 h) (hfound e (hperm.mem_iff.2 he))
    | some e' =>
      have he' : e' ∈ aliases := hperm.mem_iff.1 (List.mem_of_find?_eq_some hfound)
      have hletters : Text.sameLetters e'.1.toList (normalize token) := by
        simpa using List.find?_some hfound
      have h' : SameWords e'.1 token := (sameLetters_normalize_iff he').1 hletters
      rw [eq_of_sameWords e' he' e he (h'.trans h.symm)]
  rw [resolveIn, hfind]
  rfl

theorem resolveIn_of_not_sameWords (hperm : table.Perm aliases)
    (h : ∀ e ∈ aliases, ¬SameWords e.1 token) : resolveIn table token = token := by
  have hfind : table.find? (fun e => Text.sameLetters e.1.toList (normalize token)) = none := by
    rw [List.find?_eq_none]
    intro e he
    have he' : e ∈ aliases := hperm.mem_iff.1 he
    rw [sameLetters_normalize_iff he']
    exact h e he'
  rw [resolveIn, hfind]
  rfl

theorem resolve_of_sameWords {e : String × String} (he : e ∈ aliases) (h : SameWords e.1 token) :
    resolve token = e.2 := by
  rw [resolve_eq_resolveIn]
  exact resolveIn_of_sameWords (.refl _) he h

theorem resolve_of_not_sameWords (h : ∀ e ∈ aliases, ¬SameWords e.1 token) :
    resolve token = token := by
  rw [resolve_eq_resolveIn]
  exact resolveIn_of_not_sameWords (.refl _) h

theorem resolve_of_mem_all {operator : String} (h : operator ∈ all) :
    resolve operator = operator :=
  resolve_of_not_sameWords (not_sameWords_of_mem_all operator h)

theorem resolve_idempotent (token : String) : resolve (resolve token) = resolve token := by
  rcases exists_sameWords_or token with ⟨e, he, hwords⟩ | hno
  · rw [resolve_of_sameWords he hwords]
    exact resolve_of_mem_all (mem_all_of_mem_aliases e he)
  · rw [resolve_of_not_sameWords hno, resolve_of_not_sameWords hno]

/-- **Operators by their words.** A token with the words of an entry means the operator of that entry
and of no other, in whatever order the table is. A token without such words stands for itself as it
is. So does what a token means, and tokens with the same words mean the same if one of them means
something else than itself. -/
theorem resolve_by_words (token : String) :
    (∀ e ∈ aliases, SameWords e.1 token →
      resolve token = e.2 ∧ e.2 ∈ all ∧ ∀ e' ∈ aliases, SameWords e'.1 token → e' = e) ∧
    ((∀ e ∈ aliases, ¬SameWords e.1 token) → resolve token = token) ∧
    (∀ table, table.Perm aliases → resolveIn table token = resolve token) ∧
    resolve (resolve token) = resolve token ∧
    ∀ other, SameWords token other → resolve token ≠ token → resolve other = resolve token := by
  refine ⟨fun e he h => ⟨resolve_of_sameWords he h, mem_all_of_mem_aliases e he, ?_⟩,
    resolve_of_not_sameWords, fun table hperm => ?_, resolve_idempotent token,
    fun other hother hne => ?_⟩
  · exact fun e' he' h' => eq_of_sameWords e' he' e he (h'.trans h.symm)
  · rcases exists_sameWords_or token with ⟨e, he, hwords⟩ | hno
    · rw [resolveIn_of_sameWords hperm he hwords, resolve_of_sameWords he hwords]
    · rw [resolveIn_of_not_sameWords hperm hno, resolve_of_not_sameWords hno]
  · rcases exists_sameWords_or token with ⟨e, he, hwords⟩ | hno
    · rw [resolve_of_sameWords he hwords, resolve_of_sameWords he (hwords.trans hother)]
    · exact absurd (resolve_of_not_sameWords hno) hne

/-- An em space, a tab and a line break around the words and between them. -/
theorem resolve_by_words_spaced :
    SameWords "IS NOT" "\tiS\u2003 NoT\n" ∧ resolve "\tiS\u2003 NoT\n" = "!=" ∧ "!=" ∈ all ∧
      (∀ e ∈ aliases, ¬SameWords e.1 " is\u200bnot ") ∧
      resolve " is\u200bnot " = " is\u200bnot " := by
  have hwords : SameWords "IS NOT" "\tiS\u2003 NoT\n" := by decide +kernel
  have hno : ∀ e ∈ aliases, ¬SameWords e.1 " is\u200bnot " := by decide +kernel
  obtain ⟨hresolve, hall, -⟩ := (resolve_by_words _).1 ("IS NOT", "!=") (by decide) hwords
  exact ⟨hwords, hresolve, hall, hno, (resolve_by_words _).2.1 hno⟩

end SurrealQuery.Operator
