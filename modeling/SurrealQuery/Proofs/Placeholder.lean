import SurrealQuery.Statement.Clause
import SurrealQuery.Operator

/-!
# Placeholders in texts

A placeholder may come about where two texts meet: `$` at the end of one and `?` at the start of
the next. Away from such a place the placeholders of a text are those of its parts
(`countPlaceholders_append`).

Quoting a name or a key, upper-casing a word and resolving an operator change a text, but neither
make placeholders nor break them: they keep `$` and `?` where they are and put neither anywhere
else (`countPlaceholders_flatMap`).
-/

namespace SurrealQuery

open Template (countPlaceholders)

/-! ## Counting -/

/-- A text is taken apart at its placeholders. -/
theorem placeholder_induction {motive : List Char → Prop} (nil : motive [])
    (mark : ∀ cs, motive cs → motive ('$' :: '?' :: cs))
    (char : ∀ c cs, (c = '$' → cs.head? ≠ some '?') → motive cs → motive (c :: cs))
    (cs : List Char) : motive cs := by
  fun_induction countPlaceholders cs with
  | case1 cs ih => exact mark cs ih
  | case2 c cs hne ih =>
    refine char c cs ?_ ih
    rintro rfl hq
    obtain ⟨d, rest, rfl⟩ := List.exists_cons_of_ne_nil (l := cs) (by rintro rfl; cases hq)
    obtain rfl : d = '?' := by simpa using hq
    exact hne rest rfl rfl
  | case3 => exact nil

theorem countPlaceholders_cons {c : Char} {cs : List Char}
    (h : c = '$' → cs.head? ≠ some '?') : countPlaceholders (c :: cs) = countPlaceholders cs := by
  rw [countPlaceholders]
  rintro rest rfl rfl
  exact h rfl rfl

theorem getLast?_eq_of_cons {c d : Char} {cs : List Char} (h : cs.getLast? = some d) :
    (c :: cs).getLast? = some d := by
  rw [List.getLast?_cons, h]
  rfl

theorem head?_append_ne {c : Char} {cs ds : List Char} (hc : c = '$' → cs.head? ≠ some '?')
    (h : (c :: cs).getLast? = some '$' → ds.head? ≠ some '?') :
    c = '$' → (cs ++ ds).head? ≠ some '?' := by
  rintro rfl
  cases cs with
  | nil => exact h rfl
  | cons d cs => exact hc rfl

/-- Where no placeholder comes about between two texts, each keeps its own. -/
theorem countPlaceholders_append {cs ds : List Char}
    (h : cs.getLast? = some '$' → ds.head? ≠ some '?') :
    countPlaceholders (cs ++ ds) = countPlaceholders cs + countPlaceholders ds := by
  induction cs using placeholder_induction with
  | nil => rw [List.nil_append, countPlaceholders, Nat.zero_add]
  | mark cs ih =>
    have hcs := ih fun hl => h (getLast?_eq_of_cons (getLast?_eq_of_cons hl))
    rw [List.cons_append, List.cons_append, countPlaceholders, countPlaceholders, hcs]
    omega
  | char c cs hc ih =>
    rw [List.cons_append, countPlaceholders_cons (head?_append_ne hc h),
      countPlaceholders_cons hc, ih fun hl => h (getLast?_eq_of_cons hl)]

theorem countPlaceholders_le_cons (c : Char) (cs : List Char) :
    countPlaceholders cs ≤ countPlaceholders (c :: cs) := by
  by_cases hc : c = '$' → cs.head? ≠ some '?'
  · exact Nat.le_of_eq (countPlaceholders_cons hc).symm
  · obtain ⟨rfl, hcs⟩ := Classical.not_imp.1 hc
    cases cs with
    | nil => simp at hcs
    | cons d cs =>
      obtain rfl : d = '?' := by simpa using hcs
      rw [countPlaceholders_cons fun h => absurd h (by decide), countPlaceholders]
      omega

theorem countPlaceholders_append_le (cs ds : List Char) :
    countPlaceholders cs + countPlaceholders ds ≤ countPlaceholders (cs ++ ds) := by
  induction cs using placeholder_induction with
  | nil => exact Nat.le_of_eq (Nat.zero_add _)
  | mark cs ih =>
    rw [List.cons_append, List.cons_append, countPlaceholders, countPlaceholders]
    omega
  | char c cs hc ih =>
    rw [countPlaceholders_cons hc]
    exact Nat.le_trans ih (countPlaceholders_le_cons c (cs ++ ds))

/-- A text without `$` has no placeholder. -/
theorem countPlaceholders_eq_zero {cs : List Char} (h : '$' ∉ cs) : countPlaceholders cs = 0 := by
  induction cs with
  | nil => rfl
  | cons c cs ih =>
    rw [List.mem_cons, not_or] at h
    rw [countPlaceholders_cons fun hc => absurd hc.symm h.1, ih h.2]

/-- How a character may be written so that placeholders stay what they are. -/
def KeepsMark (c : Char) (written : List Char) : Prop :=
  if c = '$' ∨ c = '?' then written = [c] else written ≠ [] ∧ '$' ∉ written ∧ '?' ∉ written

instance (c : Char) (written : List Char) : Decidable (KeepsMark c written) := by
  unfold KeepsMark
  infer_instance

theorem head?_flatMap_ne {write : Char → List Char} (h : ∀ c, KeepsMark c (write c))
    {cs : List Char} (hcs : cs.head? ≠ some '?') : (cs.flatMap write).head? ≠ some '?' := by
  cases cs with
  | nil => simp
  | cons c cs =>
    have hc := h c
    rw [List.flatMap_cons, List.head?_append]
    unfold KeepsMark at hc
    split at hc
    · rw [hc]
      simpa using hcs
    · obtain ⟨d, ds, hw⟩ := List.exists_cons_of_ne_nil hc.1
      rw [hw] at hc ⊢
      rintro ⟨⟩
      exact hc.2.2 (List.mem_cons_self ..)

/-- Writing every character so that `$` and `?` stay and no others come about keeps the number of
placeholders. -/
theorem countPlaceholders_flatMap {write : Char → List Char} (h : ∀ c, KeepsMark c (write c))
    (cs : List Char) : countPlaceholders (cs.flatMap write) = countPlaceholders cs := by
  have mark : ∀ c, c = '$' ∨ c = '?' → write c = [c] := fun c hc => by
    simpa only [KeepsMark, if_pos hc] using h c
  induction cs using placeholder_induction with
  | nil => rfl
  | mark cs ih =>
    rw [List.flatMap_cons, List.flatMap_cons, mark '$' (.inl rfl), mark '?' (.inr rfl),
      List.singleton_append, List.singleton_append, countPlaceholders, countPlaceholders, ih]
  | char c cs hne ih =>
    rw [List.flatMap_cons, countPlaceholders_cons hne]
    by_cases hc : c = '$' ∨ c = '?'
    · rw [mark c hc, List.singleton_append,
        countPlaceholders_cons fun hd => head?_flatMap_ne h (hne hd), ih]
    · have hw : '$' ∉ write c := by
        have := h c
        rw [KeepsMark, if_neg hc] at this
        exact this.2.1
      rw [countPlaceholders_append fun hl => absurd (List.mem_of_getLast? hl) hw,
        countPlaceholders_eq_zero hw, ih, Nat.zero_add]

/-! ## Texts side by side -/

/-- A text without placeholders. -/
def IsPlain (s : String) : Prop :=
  countPlaceholders s.toList = 0

instance (s : String) : Decidable (IsPlain s) :=
  inferInstanceAs (Decidable (_ = _))

/-- No placeholder comes about where one text ends and the other starts. -/
def Apart (s t : String) : Prop :=
  s.toList.getLast? = some '$' → t.toList.head? ≠ some '?'

/-- Whether a text starts with a character other than `?`. -/
def opens (s : String) : Bool :=
  s.toList.head?.any (· != '?')

/-- Whether a text ends in a character other than `$`. -/
def closes (s : String) : Bool :=
  s.toList.getLast?.any (· != '$')

/-- A text that keeps those on both sides of it apart. -/
def IsGlue (s : String) : Prop :=
  IsPlain s ∧ opens s ∧ closes s

instance (s : String) : Decidable (IsGlue s) :=
  inferInstanceAs (Decidable (_ ∧ _))

theorem apart_of_opens {s t : String} (h : opens t) : Apart s t := by
  rintro - ht
  rw [opens, ht] at h
  exact absurd h (by decide)

theorem apart_of_closes {s t : String} (h : closes s) : Apart s t := by
  intro hs
  rw [closes, hs] at h
  exact absurd h (by decide)

theorem opens_append {s : String} (t : String) (h : opens s) : opens (s ++ t) := by
  unfold opens at h ⊢
  rw [String.toList_append, List.head?_append]
  cases hs : s.toList.head? with
  | none => rw [hs] at h; exact absurd h (by decide)
  | some c => rw [hs] at h; exact h

theorem closes_append (s : String) {t : String} (h : closes t) :
    closes (s ++ t) := by
  unfold closes at h ⊢
  rw [String.toList_append, List.getLast?_append]
  cases ht : t.toList.getLast? with
  | none => rw [ht] at h; exact absurd h (by decide)
  | some c => rw [ht] at h; exact h

namespace IsPlain

variable {s t g : String}

theorem append (hs : IsPlain s) (ht : IsPlain t) (h : Apart s t) : IsPlain (s ++ t) := by
  unfold IsPlain at *
  rw [String.toList_append, countPlaceholders_append h, hs, ht]

theorem append_glue (hs : IsPlain s) (hg : IsGlue g) : IsPlain (s ++ g) :=
  hs.append hg.1 (apart_of_opens hg.2.1)

theorem glue_append (ht : IsPlain t) (hg : IsGlue g) : IsPlain (g ++ t) :=
  hg.1.append ht (apart_of_closes hg.2.2)

/-- Two plain texts with glue between them. -/
theorem glue (hs : IsPlain s) (ht : IsPlain t) (hg : IsGlue g) :
    IsPlain (s ++ g ++ t) :=
  (hs.append_glue hg).append ht (apart_of_closes (closes_append s hg.2.2))

/-- A part of a plain text is plain. -/
theorem of_infix (hs : IsPlain s) (h : t.toList <:+: s.toList) : IsPlain t := by
  obtain ⟨before, after, hs'⟩ := h
  unfold IsPlain at *
  rw [← hs'] at hs
  have h₁ := countPlaceholders_append_le (before ++ t.toList) after
  have h₂ := countPlaceholders_append_le before t.toList
  omega

end IsPlain

/-! ## What is made of names, keys and words -/

theorem keepsMark_self (c : Char) : KeepsMark c [c] := by
  unfold KeepsMark
  split
  · rfl
  · rename_i hc
    rw [not_or] at hc
    simp [Ne.symm hc.1, Ne.symm hc.2]

theorem keepsMark_escape (c : Char) : KeepsMark c (if c = '`' then ['`', '`'] else [c]) := by
  by_cases hc : c = '`'
  · subst hc; decide
  · rw [if_neg hc]
    exact keepsMark_self c

theorem countPlaceholders_quote (name : String) :
    countPlaceholders (Identifier.quote name).toList = countPlaceholders name.toList := by
  unfold Identifier.quote
  split
  · rfl
  · rw [String.toList_ofList, countPlaceholders_cons fun hc => absurd hc (by decide),
      countPlaceholders_append fun _ => by decide, Identifier.escape,
      countPlaceholders_flatMap keepsMark_escape]
    rfl

theorem isPlain_quote {name : String} (h : IsPlain name) : IsPlain (Identifier.quote name) :=
  (countPlaceholders_quote name).trans h

theorem countPlaceholders_path (name : String) :
    countPlaceholders (Identifier.path name).toList = countPlaceholders name.toList := by
  unfold Identifier.path
  split
  · rfl
  · exact countPlaceholders_quote name

theorem isPlain_path {name : String} (h : IsPlain name) : IsPlain (Identifier.path name) :=
  (countPlaceholders_path name).trans h

theorem suffix_of_aliasAfter? {cs found : List Char} (h : Identifier.aliasAfter? cs = some found) :
    found <:+ cs := by
  unfold Identifier.aliasAfter? at h
  split at h
  · rename_i c cs
    split at h
    · split at h
      · rename_i a s blank rest hrest
        split at h
        · cases h
          have h₁ : rest.dropWhile Text.isBlank <:+ rest := List.dropWhile_suffix _
          have h₂ : rest <:+ cs.dropWhile Text.isBlank := by
            rw [hrest]
            exact ⟨[a, s, blank], rfl⟩
          have h₃ : cs.dropWhile Text.isBlank <:+ c :: cs :=
            (List.dropWhile_suffix _).trans (List.suffix_cons c cs)
          exact h₁.trans (h₂.trans h₃)
        · cases h
      · cases h
    · cases h
  · cases h

theorem splitAlias_cons (c : Char) (cs : List Char) :
    Identifier.splitAlias (c :: cs) = match Identifier.aliasAfter? (c :: cs) with
      | some found => ([], some found)
      | none => (c :: (Identifier.splitAlias cs).1, (Identifier.splitAlias cs).2) := by
  -- The generated equation would look into the patterns of `aliasAfter?`, which takes seconds.
  exact rfl

/-- What stands before the alias marker, and the alias after it, are parts of the name. -/
theorem splitAlias_parts (cs : List Char) :
    (Identifier.splitAlias cs).1 <+: cs ∧
      ∀ found, (Identifier.splitAlias cs).2 = some found → found <:+ cs := by
  induction cs with
  | nil => exact ⟨List.prefix_rfl, fun found h => by cases h⟩
  | cons c cs ih =>
    rw [splitAlias_cons]
    split
    · rename_i found hfound
      refine ⟨List.nil_prefix, fun found' h => ?_⟩
      cases h
      exact suffix_of_aliasAfter? hfound
    · exact ⟨(List.prefix_cons_inj c).2 ih.1,
        fun found h => (ih.2 found h).trans (List.suffix_cons c cs)⟩

theorem isPlain_withAlias {aliasPrefix name : String} (h : IsPlain name)
    (halias : ∀ found, (Identifier.splitAlias name.toList).2 = some found →
      IsPlain (aliasPrefix ++ String.ofList found)) :
    IsPlain (Identifier.withAlias aliasPrefix name) := by
  have hbase : IsPlain (String.ofList (Identifier.splitAlias name.toList).1) := by
    refine h.of_infix ?_
    rw [String.toList_ofList]
    exact (splitAlias_parts name.toList).1.isInfix
  unfold Identifier.withAlias
  split
  · rename_i base found hsplit
    rw [hsplit] at hbase halias
    exact (isPlain_path hbase).glue (isPlain_quote (halias found rfl)) (by decide)
  · rename_i base hsplit
    rw [hsplit] at hbase
    exact isPlain_path hbase

theorem isPlain_column {name : String} (h : IsPlain name) : IsPlain (Identifier.column name) := by
  refine isPlain_withAlias h fun found hfound => ?_
  refine h.of_infix ?_
  rw [String.empty_append, String.toList_ofList]
  exact ((splitAlias_parts name.toList).2 found hfound).isInfix

theorem keepsMark_quoted (c : Char) : KeepsMark c (Json.Quoted.escape c) := by
  by_cases hc : c ∈ ['"', '\\', '\n', '\r', '\t', Char.ofNat 8, Char.ofNat 12]
  · simp only [List.mem_cons, List.not_mem_nil, or_false] at hc
    rcases hc with rfl | rfl | rfl | rfl | rfl | rfl | rfl <;> decide
  · simp only [List.mem_cons, List.not_mem_nil, or_false, not_or] at hc
    obtain ⟨h₁, h₂, h₃, h₄, h₅, h₆, h₇⟩ := hc
    rw [Json.Quoted.escape, if_neg h₁, if_neg h₂, if_neg h₃, if_neg h₄, if_neg h₅, if_neg h₆,
      if_neg h₇]
    split
    · rename_i hlow
      have digit : ∀ n < 16, Json.Quoted.hexDigit n ≠ '$' ∧ Json.Quoted.hexDigit n ≠ '?' := by
        decide
      have hd := digit (c.toNat / 16) (by omega)
      have hm := digit (c.toNat % 16) (by omega)
      have hne : ¬ (c = '$' ∨ c = '?') := by
        rintro (rfl | rfl) <;> exact absurd hlow (by decide)
      rw [KeepsMark, if_neg hne]
      simp [hd.1.symm, hd.2.symm, hm.1.symm, hm.2.symm]
    · exact keepsMark_self c

theorem countPlaceholders_jsonQuote (s : String) :
    countPlaceholders (Json.quote s).toList = countPlaceholders s.toList := by
  rw [Json.quote, String.toList_ofList, Json.Quoted.encode,
    countPlaceholders_cons fun hc => absurd hc (by decide),
    countPlaceholders_append fun _ => by decide, countPlaceholders_flatMap keepsMark_quoted]
  rfl

theorem isPlain_jsonQuote {s : String} (h : IsPlain s) : IsPlain (Json.quote s) :=
  (countPlaceholders_jsonQuote s).trans h

theorem ofNat_ne {n : Nat} {c : Char} (hc : 0 < c.toNat) (hn : n ≠ c.toNat) :
    Char.ofNat n ≠ c := by
  rintro rfl
  by_cases h : n.isValidChar
  · have hvalid : Char.ofNat n = Char.ofNatAux n h := dif_pos h
    rw [hvalid] at hn
    exact hn rfl
  · have hinvalid : (Char.ofNat n).toNat = 0 := congrArg Char.toNat (dif_neg h)
    omega

theorem keepsMark_upper (c : Char) : KeepsMark c (Text.upperChar c) := by
  by_cases hc : c = '$' ∨ c = '?'
  · rw [KeepsMark, if_pos hc]
    rcases hc with rfl | rfl <;> decide +kernel
  · rw [KeepsMark, if_neg hc]
    unfold Text.upperChar
    split
    · rename_i codes hcodes
      -- That no upper case in a table is `$` (36) or `?` (63) is checked entry by entry.
      have table : ∀ e ∈ Text.upperExpansions, e.2 ≠ [] ∧ ∀ n ∈ e.2, n ≠ 36 ∧ n ≠ 63 := by
        decide +kernel
      obtain ⟨before, after, hsplit, -⟩ := List.lookup_eq_some_iff.1 hcodes
      have he := table (c.toNat, codes) (by rw [hsplit]; simp)
      refine ⟨fun hnil => he.1 (List.map_eq_nil_iff.1 hnil), ?_, ?_⟩
      · rintro hm
        obtain ⟨n, hn, hn'⟩ := List.mem_map.1 hm
        exact ofNat_ne (by decide) (he.2 n hn).1 hn'
      · rintro hm
        obtain ⟨n, hn, hn'⟩ := List.mem_map.1 hm
        exact ofNat_ne (by decide) (he.2 n hn).2 hn'
    · dsimp only
      split
      · rename_i first last step image hrun
        have table : ∀ e ∈ Text.upperRuns, 63 < e.2.2.2 := by decide +kernel
        have himage : 63 < image := table _ (List.mem_of_find?_eq_some hrun)
        refine ⟨List.cons_ne_nil _ _, ?_, ?_⟩ <;> rw [List.mem_singleton] <;>
          exact (ofNat_ne (by decide) (by simp; omega)).symm
      · rw [not_or] at hc
        simp [Ne.symm hc.1, Ne.symm hc.2]

theorem countPlaceholders_upper (s : String) :
    countPlaceholders (Text.upper s).toList = countPlaceholders s.toList := by
  rw [Text.upper, String.toList_ofList, countPlaceholders_flatMap keepsMark_upper]

theorem isPlain_upper {s : String} (h : IsPlain s) : IsPlain (Text.upper s) :=
  (countPlaceholders_upper s).trans h

theorem isPlain_resolve {token : String} (h : IsPlain token) :
    IsPlain (Operator.resolve token) := by
  unfold Operator.resolve
  split
  · rename_i word operator hfind
    have table : ∀ e ∈ Operator.aliases, IsPlain e.2 := by decide +kernel
    exact table _ (List.mem_of_find?_eq_some hfind)
  · exact h

/-! ## Numbers and durations -/

theorem dollar_notMem_toDigits (n : Nat) : '$' ∉ Nat.toDigits 10 n := by
  intro h
  exact absurd (Nat.isDigit_of_mem_toDigits (by decide) (by decide) h) (by decide)

theorem isPlain_decimal (n : Nat) : IsPlain (Text.decimal n) := by
  refine countPlaceholders_eq_zero ?_
  rw [Text.decimal, String.toList_ofList]
  exact dollar_notMem_toDigits n

theorem isPlain_intChars (n : Int) : IsPlain (String.ofList (Json.intChars n)) := by
  refine countPlaceholders_eq_zero ?_
  rw [String.toList_ofList, Json.intChars, List.mem_append, not_or]
  refine ⟨?_, dollar_notMem_toDigits _⟩
  split <;> decide

theorem dollar_notMem_term (count : Nat) {unit : String} (h : '$' ∉ unit.toList) :
    '$' ∉ (Duration.term count unit).toList := by
  unfold Duration.term
  split
  · decide
  · rw [String.toList_append, List.mem_append, not_or, Text.decimal, String.toList_ofList]
    exact ⟨dollar_notMem_toDigits count, h⟩

theorem dollar_notMem_terms {scale : List (Nat × String)} (h : ∀ e ∈ scale, '$' ∉ e.2.toList)
    (seconds : Nat) : '$' ∉ (Duration.terms scale seconds).toList := by
  induction scale generalizing seconds with
  | nil => rw [Duration.terms]; decide
  | cons e rest ih =>
    obtain ⟨size, unit⟩ := e
    rw [Duration.terms, String.toList_append, List.mem_append, not_or]
    exact ⟨dollar_notMem_term _ (h _ (List.mem_cons_self ..)),
      ih (fun e he => h e (List.mem_cons_of_mem _ he)) _⟩

theorem isPlain_render (d : Duration) : IsPlain d.render := by
  refine countPlaceholders_eq_zero ?_
  unfold Duration.render
  dsimp only
  split
  · decide
  · rw [String.toList_append, List.mem_append, not_or]
    exact ⟨dollar_notMem_terms (by decide) _, dollar_notMem_term _ (by decide)⟩

/-! ## Lists and tables -/

theorem apart_commaTail (s : String) (texts : List String) : Apart s (Text.commaTail texts) := by
  cases texts with
  | nil => intro _; decide
  | cons t rest => exact apart_of_opens (opens_append _ (opens_append _ (by decide)))

theorem isPlain_commaTail {texts : List String} (h : ∀ t ∈ texts, IsPlain t) :
    IsPlain (Text.commaTail texts) := by
  induction texts with
  | nil => decide
  | cons t rest ih =>
    have ht := h t (List.mem_cons_self ..)
    have hrest := ih fun t' ht' => h t' (List.mem_cons_of_mem _ ht')
    exact (ht.glue_append (by decide)).append hrest (apart_commaTail _ rest)

theorem isPlain_commaList {texts : List String} (h : ∀ t ∈ texts, IsPlain t) :
    IsPlain (Text.commaList texts) := by
  cases texts with
  | nil => decide
  | cons t rest =>
    exact (h t (List.mem_cons_self ..)).append
      (isPlain_commaTail fun t' ht' => h t' (List.mem_cons_of_mem _ ht')) (apart_commaTail _ rest)

/-- The texts of which a reference to a table is made: the prefix with the table, and with the alias
that the table may have. -/
def Settings.tableTexts (s : Settings) (reference : String) : List String :=
  (s.tablePrefix ++ reference) ::
    if isRecordReference reference then []
    else (Identifier.splitAlias (s.tablePrefix ++ reference).toList).2.toList.map
      (s.tablePrefix ++ String.ofList ·)

theorem isPlain_table {s : Settings} {reference table : String}
    (h : ∀ t ∈ s.tableTexts reference, IsPlain t) (hok : s.table reference = .ok table) :
    IsPlain table := by
  have hname : IsPlain (s.tablePrefix ++ reference) := h _ (List.mem_cons_self ..)
  unfold Settings.table at hok
  split at hok
  · cases hid : RecordId.parse reference with
    | error e => rw [hid] at hok; cases hok
    | ok id =>
      rw [hid] at hok
      cases hok
      exact isPlain_jsonQuote hname
  · rename_i hrecord
    cases hok
    refine isPlain_withAlias hname fun found hfound => h _ ?_
    rw [Settings.tableTexts, if_neg hrecord, hfound]
    simp

end SurrealQuery
