import Mathlib.Data.List.TakeWhile
import SurrealQuery.Proofs.Identifier

/-!
# Names with an alias

A marker divides a name from its alias: blanks, the word `AS` in any case, and blanks again. A name
is split at its first marker, whatever looks like one further on, and what stands before that marker
has none of its own. So a name is written as its base, ` AS ` and its alias, however the marker is
spelled (`column_split_once`).
-/

namespace SurrealQuery.Identifier

/-! ## Markers -/

/-- One blank or more. -/
def IsGap (cs : List Char) : Prop :=
  cs ≠ [] ∧ ∀ c ∈ cs, Text.isBlank c

/-- The two letters of `AS`, each in any case. The long s is an `s` in another case. -/
def IsAs (a s : Char) : Prop :=
  (a = 'a' ∨ a = 'A') ∧ (s = 's' ∨ s = 'S' ∨ s = 'ſ')

/-- Blanks, the word `AS` in any case, and blanks. -/
def IsMarker (m : List Char) : Prop :=
  ∃ before a s after, m = before ++ a :: s :: after ∧ IsGap before ∧ IsAs a s ∧ IsGap after

/-- There is a marker somewhere in the text. -/
def HasMarker (cs : List Char) : Prop :=
  ∃ m, IsMarker m ∧ m <:+: cs

/-- A text in three parts with its first marker in the middle, which has all the blanks around the
word. -/
structure IsSplit (base marker found : List Char) : Prop where
  isMarker : IsMarker marker
  base_end : ∀ c, base.getLast? = some c → ¬Text.isBlank c
  found_start : ∀ c, found.head? = some c → ¬Text.isBlank c
  first : ∀ before m after, base ++ marker ++ found = before ++ m ++ after → IsMarker m →
    base.length ≤ before.length

variable {base marker found cs : List Char}

theorem IsAs.not_isBlank {a s : Char} (h : IsAs a s) : ¬Text.isBlank a := by
  rcases h.1 with rfl | rfl <;> decide

theorem IsMarker.ne_nil (h : IsMarker marker) : marker ≠ [] := by
  obtain ⟨before, a, s, after, rfl, -⟩ := h
  simp

/-- A marker may have more blanks in front. -/
theorem IsMarker.cons {c : Char} (hc : Text.isBlank c) (h : IsMarker marker) :
    IsMarker (c :: marker) := by
  obtain ⟨before, a, s, after, rfl, hbefore, has, hafter⟩ := h
  refine ⟨c :: before, a, s, after, rfl, ⟨List.cons_ne_nil _ _, ?_⟩, has, hafter⟩
  exact List.forall_mem_cons.2 ⟨hc, hbefore.2⟩

/-- A marker may have more blanks behind. -/
theorem IsMarker.append {gap : List Char} (h : IsMarker marker)
    (hgap : ∀ c ∈ gap, Text.isBlank c) : IsMarker (marker ++ gap) := by
  obtain ⟨before, a, s, after, rfl, hbefore, has, hafter⟩ := h
  refine ⟨before, a, s, after ++ gap, by simp, hbefore, has, ?_, ?_⟩
  · simp [hafter.1]
  · intro c hc
    rcases List.mem_append.1 hc with hc | hc
    · exact hafter.2 c hc
    · exact hgap c hc

theorem dropWhile_isBlank_append {gap rest : List Char} (hgap : ∀ c ∈ gap, Text.isBlank c)
    (hrest : ∀ c, rest.head? = some c → ¬Text.isBlank c) :
    (gap ++ rest).dropWhile Text.isBlank = rest := by
  rw [List.dropWhile_append_of_pos hgap]
  cases rest with
  | nil => rfl
  | cons c rest => exact List.dropWhile_cons_of_neg (hrest c rfl)

theorem not_isBlank_of_head?_dropWhile (rest : List Char) (c : Char)
    (h : (rest.dropWhile Text.isBlank).head? = some c) : ¬Text.isBlank c := by
  have hhead := List.head?_dropWhile_not Text.isBlank rest
  rw [h] at hhead
  simpa using hhead

/-! ## A marker in front -/

theorem aliasAfter?_marker (hmarker : IsMarker marker)
    (hfound : ∀ c, found.head? = some c → ¬Text.isBlank c) :
    aliasAfter? (marker ++ found) = some found := by
  obtain ⟨before, a, s, after, rfl, ⟨hne, hbefore⟩, has, hne', hafter⟩ := hmarker
  obtain ⟨b, before, rfl⟩ := List.exists_cons_of_ne_nil hne
  obtain ⟨b', after, rfl⟩ := List.exists_cons_of_ne_nil hne'
  rw [List.forall_mem_cons] at hbefore hafter
  have hdrop : (before ++ a :: s :: b' :: (after ++ found)).dropWhile Text.isBlank =
      a :: s :: b' :: (after ++ found) := by
    refine dropWhile_isBlank_append hbefore.2 ?_
    rintro c ⟨⟩
    exact has.not_isBlank
  have htext : b :: before ++ a :: s :: b' :: after ++ found =
      b :: (before ++ a :: s :: b' :: (after ++ found)) := by
    simp
  rw [htext, aliasAfter?, if_pos hbefore.1, hdrop]
  dsimp only
  rw [if_pos ⟨has.1, has.2, hafter.1⟩, dropWhile_isBlank_append hafter.2 hfound]

/-- What is found after a marker in front starts with no blank. -/
theorem exists_marker_of_aliasAfter? (h : aliasAfter? cs = some found) :
    ∃ marker, IsMarker marker ∧ cs = marker ++ found ∧
      ∀ c, found.head? = some c → ¬Text.isBlank c := by
  unfold aliasAfter? at h
  split at h
  case h_2 => cases h
  rename_i b before
  split at h
  case isFalse => cases h
  rename_i hb
  split at h
  case h_2 => cases h
  rename_i a s b' rest hrest
  split at h
  case isFalse => cases h
  rename_i has
  cases h
  have hbefore := List.takeWhile_append_dropWhile (p := Text.isBlank) (l := before)
  have hafter := List.takeWhile_append_dropWhile (p := Text.isBlank) (l := rest)
  refine ⟨b :: before.takeWhile Text.isBlank ++ a :: s :: b' :: rest.takeWhile Text.isBlank,
    ⟨_, a, s, _, rfl, ⟨List.cons_ne_nil _ _, ?_⟩, ⟨has.1, has.2.1⟩, List.cons_ne_nil _ _, ?_⟩,
    ?_, ?_⟩
  · exact List.forall_mem_cons.2 ⟨hb, fun c hc => List.mem_takeWhile_imp hc⟩
  · exact List.forall_mem_cons.2 ⟨has.2.2, fun c hc => List.mem_takeWhile_imp hc⟩
  · rw [List.cons_append, List.cons_append, List.append_assoc, List.cons_append, List.cons_append,
      List.cons_append, hafter, ← hrest, hbefore]
  · exact not_isBlank_of_head?_dropWhile rest

/-- Where no alias is found in front, no marker stands there. -/
theorem not_prefix_of_aliasAfter?_eq_none (h : aliasAfter? cs = none) (hmarker : IsMarker marker) :
    ¬marker <+: cs := by
  rintro ⟨rest, rfl⟩
  -- The blanks that follow belong to the marker.
  have hgap : IsMarker (marker ++ rest.takeWhile Text.isBlank) :=
    hmarker.append fun c hc => List.mem_takeWhile_imp hc
  have hsome := aliasAfter?_marker hgap (not_isBlank_of_head?_dropWhile rest)
  rw [List.append_assoc, List.takeWhile_append_dropWhile, h] at hsome
  cases hsome

/-! ## The first marker -/

/-- A text without marker is all base. -/
theorem splitAlias_of_not_hasMarker (h : ¬HasMarker cs) : splitAlias cs = (cs, none) := by
  induction cs with
  | nil => rfl
  | cons c cs ih =>
    have hnone : aliasAfter? (c :: cs) = none := by
      rw [Option.eq_none_iff_forall_ne_some]
      intro found hfound
      obtain ⟨m, hm, hcs, -⟩ := exists_marker_of_aliasAfter? hfound
      exact h ⟨m, hm, (List.prefix_append m found).isInfix.trans (hcs ▸ List.infix_rfl)⟩
    have hrest : ¬HasMarker cs := fun ⟨m, hm, hinfix⟩ => h ⟨m, hm, List.infix_cons hinfix⟩
    rw [splitAlias_cons, hnone]
    dsimp only
    rw [ih hrest]

/-- The induction is on the base: no marker starts in it, so each of its characters is passed over,
and what is left is split at the same marker. -/
theorem splitAlias_at_first (hmarker : IsMarker marker)
    (hfound : ∀ c, found.head? = some c → ¬Text.isBlank c)
    (hfirst : ∀ before m after, base ++ marker ++ found = before ++ m ++ after → IsMarker m →
      base.length ≤ before.length) :
    splitAlias (base ++ marker ++ found) = (base, some found) := by
  induction base with
  | nil =>
    have hsome := aliasAfter?_marker hmarker hfound
    obtain ⟨c, marker, rfl⟩ := List.exists_cons_of_ne_nil hmarker.ne_nil
    rw [List.nil_append, List.cons_append, splitAlias_cons, ← List.cons_append, hsome]
  | cons c base ih =>
    have hnone : aliasAfter? (c :: base ++ marker ++ found) = none := by
      rw [Option.eq_none_iff_forall_ne_some]
      intro found' hfound'
      obtain ⟨m, hm, htext, -⟩ := exists_marker_of_aliasAfter? hfound'
      have hle := hfirst [] m found' htext hm
      simp at hle
    have hrest : splitAlias (base ++ marker ++ found) = (base, some found) := by
      refine ih fun before m after htext hm => ?_
      have hle := hfirst (c :: before) m after (by simpa using htext) hm
      simpa using hle
    rw [List.cons_append, List.cons_append] at hnone ⊢
    rw [splitAlias_cons, hnone]
    dsimp only
    rw [hrest]

theorem IsSplit.splitAlias_eq (h : IsSplit base marker found) :
    splitAlias (base ++ marker ++ found) = (base, some found) :=
  splitAlias_at_first h.isMarker h.found_start h.first

/-- What stands before the first marker has no marker in it. -/
theorem IsSplit.not_hasMarker (h : IsSplit base marker found) : ¬HasMarker base := by
  rintro ⟨m, hm, before, after, rfl⟩
  have hle := h.first before m (after ++ marker ++ found) (by simp) hm
  have hpos := List.length_pos_iff.2 hm.ne_nil
  simp only [List.length_append] at hle
  omega

/-- A text with a marker can be split. -/
theorem exists_isSplit (h : HasMarker cs) :
    ∃ base marker found, cs = base ++ marker ++ found ∧ IsSplit base marker found := by
  induction cs with
  | nil =>
    obtain ⟨m, hm, hinfix⟩ := h
    exact absurd (List.infix_nil.1 hinfix) hm.ne_nil
  | cons c cs ih =>
    cases hfound : aliasAfter? (c :: cs) with
    | some found =>
      obtain ⟨marker, hmarker, hcs, hstart⟩ := exists_marker_of_aliasAfter? hfound
      exact ⟨[], marker, found, hcs, hmarker, nofun, hstart, fun _ _ _ _ _ => Nat.zero_le _⟩
    | none =>
      have hfront {m : List Char} (hm : IsMarker m) : ¬m <+: c :: cs :=
        not_prefix_of_aliasAfter?_eq_none hfound hm
      have hrest : HasMarker cs := by
        obtain ⟨m, hm, hinfix⟩ := h
        exact ⟨m, hm, (List.infix_cons_iff.1 hinfix).resolve_left (hfront hm)⟩
      obtain ⟨base, marker, found, rfl, hsplit⟩ := ih hrest
      refine ⟨c :: base, marker, found, rfl, hsplit.isMarker, ?_, hsplit.found_start, ?_⟩
      · intro d hd
        cases base with
        | nil =>
          -- A blank in front of the marker would be part of one that starts earlier.
          cases hd
          exact fun hblank => hfront (hsplit.isMarker.cons hblank) ⟨found, rfl⟩
        | cons b base => exact hsplit.base_end d (by simpa using hd)
      · intro before m after htext hm
        cases before with
        | nil => exact absurd ⟨after, htext.symm⟩ (hfront hm)
        | cons b before =>
          rw [List.cons_append, List.cons_append, List.cons_append, List.cons_append] at htext
          exact Nat.succ_le_succ (hsplit.first before m after (List.cons.inj htext).2 hm)

theorem hasMarker_iff : HasMarker cs ↔ (splitAlias cs).2.isSome := by
  constructor
  · intro h
    obtain ⟨base, marker, found, rfl, hsplit⟩ := exists_isSplit h
    rw [hsplit.splitAlias_eq]
    rfl
  · intro h
    by_contra hno
    rw [splitAlias_of_not_hasMarker hno] at h
    cases h

instance : DecidablePred HasMarker :=
  fun _ => decidable_of_iff _ hasMarker_iff.symm

/-- Three parts are divided at the first marker if and only if their text is split so. -/
theorem isSplit_iff :
    IsSplit base marker found ↔ splitAlias (base ++ marker ++ found) = (base, some found) := by
  refine ⟨IsSplit.splitAlias_eq, fun h => ?_⟩
  have hmarker : HasMarker (base ++ marker ++ found) := by
    rw [hasMarker_iff, h]
    rfl
  obtain ⟨base', marker', found', htext, hsplit⟩ := exists_isSplit hmarker
  rw [htext, hsplit.splitAlias_eq] at h
  cases h
  obtain rfl : marker = marker' := List.append_cancel_left (List.append_cancel_right htext)
  exact hsplit

instance : Decidable (IsSplit base marker found) :=
  decidable_of_iff _ isSplit_iff.symm

/-! ## Names as they are written -/

theorem path_eq (name : String) : path name = if '.' ∈ name.toList then name else quote name := by
  simp [path]

theorem withAlias_of_not_hasMarker (lead : String) {name : String} (h : ¬HasMarker name.toList) :
    withAlias lead name = path name :=
  withAlias_of_none lead (by rw [splitAlias_of_not_hasMarker h])

theorem withAlias_of_isSplit (lead : String) {base marker found : String}
    (h : IsSplit base.toList marker.toList found.toList) :
    withAlias lead (base ++ marker ++ found) =
      column base ++ " AS " ++ quote (lead ++ found) := by
  have hbase : column base = path base := withAlias_of_not_hasMarker "" h.not_hasMarker
  unfold withAlias
  rw [String.toList_append, String.toList_append, h.splitAlias_eq, hbase]
  dsimp only
  rw [String.ofList_toList, String.ofList_toList]

/-- **A name is split once.** A name without marker is a path or quoted as a whole. Any other name
has a first marker, with a base before it that has none and an alias after it. It is written as its
base and its alias, whatever the marker looks like and whatever the alias has in it. So it is with a
table behind its prefix, where the alias has the prefix as well. -/
theorem column_split_once :
    (∀ name : String, ¬HasMarker name.toList →
      column name = if '.' ∈ name.toList then name else quote name) ∧
    (∀ name : String, HasMarker name.toList → ∃ base marker found : String,
      name = base ++ marker ++ found ∧ IsSplit base.toList marker.toList found.toList) ∧
    (∀ base marker found : String, IsSplit base.toList marker.toList found.toList →
      ¬HasMarker base.toList ∧
        column (base ++ marker ++ found) = column base ++ " AS " ++ quote found) ∧
    ∀ (settings : Settings) (reference : String), recordMark ∉ reference.toList →
      (¬HasMarker (settings.tablePrefix ++ reference).toList → settings.table reference =
        .ok (if '.' ∈ (settings.tablePrefix ++ reference).toList
          then settings.tablePrefix ++ reference
          else quote (settings.tablePrefix ++ reference))) ∧
      ∀ base marker found : String, settings.tablePrefix ++ reference = base ++ marker ++ found →
        IsSplit base.toList marker.toList found.toList → settings.table reference =
          .ok (column base ++ " AS " ++ quote (settings.tablePrefix ++ found)) := by
  refine ⟨fun name h => ?_, fun name h => ?_, fun base marker found h => ⟨h.not_hasMarker, ?_⟩,
    fun settings reference hrecord => ⟨fun h => ?_, fun base marker found htext h => ?_⟩⟩
  · rw [column, withAlias_of_not_hasMarker "" h, path_eq]
  · obtain ⟨base, marker, found, htext, hsplit⟩ := exists_isSplit h
    refine ⟨.ofList base, .ofList marker, .ofList found, ?_, ?_⟩
    · rw [← String.toList_inj, htext]
      simp
    · simpa using hsplit
  · rw [column, withAlias_of_isSplit "" h, String.empty_append]
  · rw [settings.table_of_not_mem_recordMark hrecord, withAlias_of_not_hasMarker _ h, path_eq]
  · rw [settings.table_of_not_mem_recordMark hrecord, htext, withAlias_of_isSplit _ h]

/-- The base is a path, the marker has an em space and a long s, and the alias has another marker, a
point and a backtick. The prefix makes the marker of the table complete. -/
theorem column_split_once_overlapping :
    IsSplit "home.city".toList "\u2003aſ \t".toList "as `x`.y aS z".toList ∧
      column "home.city\u2003aſ \tas `x`.y aS z" = "home.city AS `as ``x``.y aS z`" ∧
      IsSplit "old".toList " as ".toList "Users".toList ∧
      Settings.table ⟨"old as"⟩ " Users" = .ok "`old` AS `old asUsers`" := by
  obtain ⟨hplain, -, hsplit, htable⟩ := column_split_once
  have hname : IsSplit "home.city".toList "\u2003aſ \t".toList "as `x`.y aS z".toList := by
    decide
  have hreference : IsSplit "old".toList " as ".toList "Users".toList := by decide
  refine ⟨hname, ?_, hreference, ?_⟩
  · refine (hsplit _ _ _ hname).2.trans ?_
    rw [hplain "home.city" (by decide)]
    decide
  · rw [(htable ⟨"old as"⟩ " Users" (by decide)).2 _ _ _ rfl hreference, hplain "old" (by decide)]
    decide

end SurrealQuery.Identifier
