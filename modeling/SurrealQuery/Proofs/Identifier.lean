import SurrealQuery.Proofs.Placeholder

/-!
# Quoted names

A quoted name ends at the first backtick that stands alone, and can be read back from what stands
before it (`unquote_escape`). So a name is told from the text after it (`quote_delimited`).
-/

namespace SurrealQuery.Identifier

/-- Reads a quoted name after its opening backtick: the name, and the text after the closing
backtick. Two backticks are one of the name. -/
def unquote : List Char → Option (List Char × List Char)
  | '`' :: '`' :: rest => (unquote rest).map fun (name, rest) => ('`' :: name, rest)
  | '`' :: rest => some ([], rest)
  | c :: rest => (unquote rest).map fun (name, rest) => (c :: name, rest)
  | [] => none

theorem unquote_closing {rest : List Char} (h : rest.head? ≠ some '`') :
    unquote ('`' :: rest) = some ([], rest) := by
  rw [unquote]
  rintro rest' rfl
  exact h rfl

theorem unquote_char {c : Char} (h : c ≠ '`') (rest : List Char) :
    unquote (c :: rest) = (unquote rest).map fun (name, rest) => (c :: name, rest) := by
  rw [unquote]
  · rintro rest' rfl
    exact absurd rfl h
  · rintro rfl
    exact absurd rfl h

theorem unquote_escape (name : List Char) {rest : List Char} (h : rest.head? ≠ some '`') :
    unquote (escape name ++ '`' :: rest) = some (name, rest) := by
  unfold escape
  induction name with
  | nil => exact unquote_closing h
  | cons c cs ih =>
    rw [List.flatMap_cons, List.append_assoc]
    by_cases hc : c = '`'
    · subst hc
      rw [if_pos rfl, List.cons_append, List.cons_append, List.nil_append, unquote, ih]
      rfl
    · rw [if_neg hc, List.singleton_append, unquote_char hc, ih]
      rfl

/-- A name without alias marker is all base. -/
theorem splitAlias_of_none {cs : List Char} (h : (splitAlias cs).2 = none) :
    splitAlias cs = (cs, none) := by
  induction cs with
  | nil => rfl
  | cons c cs ih =>
    rw [splitAlias_cons] at h ⊢
    split at h
    · cases h
    · rw [ih h]

theorem withAlias_of_none (lead : String) {name : String}
    (h : (splitAlias name.toList).2 = none) : withAlias lead name = path name := by
  unfold withAlias
  rw [splitAlias_of_none h]
  dsimp only
  rw [String.ofList_toList]

/-- A name that is neither a path nor has an alias is quoted as a whole. -/
theorem column_eq_quote {name : String} (hpath : '.' ∉ name.toList)
    (halias : (splitAlias name.toList).2 = none) : column name = quote name := by
  rw [column, withAlias_of_none "" halias, path, if_neg (by simpa using hpath)]

/-! ## Where a quoted name ends -/

theorem escape_cons (c : Char) (cs : List Char) :
    escape (c :: cs) = (if c = '`' then ['`', '`'] else [c]) ++ escape cs :=
  rfl

/-- Reading takes off a name as it is escaped, up to a backtick that stands alone. -/
theorem eq_escape_of_unquote {cs name rest : List Char} (h : unquote cs = some (name, rest)) :
    cs = escape name ++ '`' :: rest ∧ rest.head? ≠ some '`' := by
  fun_induction unquote cs generalizing name with
  | case1 cs ih =>
    obtain ⟨⟨inner, _⟩, hinner, heq⟩ := Option.map_eq_some_iff.1 h
    cases heq
    obtain ⟨rfl, hrest⟩ := ih hinner
    exact ⟨rfl, hrest⟩
  | case2 cs hsingle =>
    cases h
    refine ⟨rfl, fun hhead => ?_⟩
    obtain ⟨tail, htail⟩ := List.head?_eq_some_iff.1 hhead
    exact hsingle tail htail
  | case3 c cs hdouble hquote ih =>
    obtain ⟨⟨inner, _⟩, hinner, heq⟩ := Option.map_eq_some_iff.1 h
    cases heq
    obtain ⟨rfl, hrest⟩ := ih hinner
    refine ⟨?_, hrest⟩
    rw [escape_cons, if_neg hquote]
    rfl
  | case4 => cases h

theorem unquote_eq_some_iff {cs name rest : List Char} :
    unquote cs = some (name, rest) ↔ cs = escape name ++ '`' :: rest ∧ rest.head? ≠ some '`' := by
  refine ⟨eq_escape_of_unquote, ?_⟩
  rintro ⟨rfl, hrest⟩
  exact unquote_escape name hrest

/-- Reads the first quoted name of a text, from the backtick that opens it. -/
def readQuoted : List Char → Option (List Char × List Char)
  | [] => none
  | c :: cs => if c = '`' then unquote cs else readQuoted cs

theorem toList_quote {name : String} (h : name ≠ "*") :
    (quote name).toList = '`' :: (escape name.toList ++ ['`']) := by
  rw [quote, if_neg h, String.toList_ofList]

theorem readQuoted_quote_iff {name : String} (h : name ≠ "*") {rest : List Char} :
    readQuoted ((quote name).toList ++ rest) = some (name.toList, rest) ↔
      rest.head? ≠ some '`' := by
  rw [toList_quote h, List.cons_append, readQuoted, if_pos rfl, unquote_eq_some_iff]
  simp

/-- The name `*` is the only one that is written without backticks. -/
theorem quote_injective : Function.Injective quote := by
  have hstar {name : String} (h : name ≠ "*") : quote "*" ≠ quote name := by
    rw [Ne, ← String.toList_inj, toList_quote h]
    exact nofun
  have hread {name : String} (h : name ≠ "*") :
      readQuoted ((quote name).toList ++ []) = some (name.toList, []) :=
    (readQuoted_quote_iff h).2 (by simp)
  intro a b hab
  by_cases ha : a = "*"
  · by_cases hb : b = "*"
    · rw [ha, hb]
    · exact absurd (ha ▸ hab) (hstar hb)
  · by_cases hb : b = "*"
    · exact absurd (hb ▸ hab.symm) (hstar ha)
    · have hsame := hread ha
      rw [hab, hread hb] at hsame
      exact String.toList_inj.1 (by simpa using hsame.symm)

/-- **A quoted name ends where its closing backtick is.** Reading a quoted name in front of a text
gives the name and that text, if and only if the text does not go on with a backtick. What is taken
off the front of a text is the quoted name. Names that are written alike are the same. -/
theorem quote_delimited :
    (∀ name : String, name ≠ "*" → ∀ rest : List Char,
      readQuoted ((quote name).toList ++ rest) = some (name.toList, rest) ↔
        rest.head? ≠ some '`') ∧
    (∀ (name : String) (cs rest : List Char), name ≠ "*" →
      readQuoted ('`' :: cs) = some (name.toList, rest) → '`' :: cs = (quote name).toList ++ rest) ∧
    Function.Injective quote := by
  refine ⟨fun name hname rest => readQuoted_quote_iff hname, fun name cs rest hname hread => ?_,
    quote_injective⟩
  rw [readQuoted, if_pos rfl] at hread
  obtain ⟨rfl, -⟩ := eq_escape_of_unquote hread
  rw [toList_quote hname]
  simp

/-- The name is three backticks, of which two come together with those around it. -/
theorem quote_delimited_backticks :
    "```" ≠ "*" ∧ (quote "```").toList = "````````".toList ∧
      readQuoted ((quote "```").toList ++ " = `x`".toList) =
        some ("```".toList, " = `x`".toList) ∧
      readQuoted ((quote "```").toList ++ "`x`".toList) ≠ some ("```".toList, "`x`".toList) := by
  have hname : "```" ≠ "*" := by decide
  refine ⟨hname, by decide, (quote_delimited.1 _ hname _).2 (by decide), fun h => ?_⟩
  exact (quote_delimited.1 _ hname _).1 h (by decide)

end SurrealQuery.Identifier

/-- A reference without mark is the name of a table, and stands after the prefix. -/
theorem SurrealQuery.Settings.table_of_not_mem_recordMark (s : Settings) {reference : String}
    (h : recordMark ∉ reference.toList) :
    s.table reference =
      .ok (Identifier.withAlias s.tablePrefix (s.tablePrefix ++ reference)) := by
  have hrecord : ¬isRecordReference reference := by simpa [isRecordReference] using h
  rw [Settings.table, if_neg hrecord]
