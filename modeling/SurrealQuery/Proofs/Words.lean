import SurrealQuery.Text.Blank

/-!
# Words between blanks

A word ends at a blank, words with a space between them are found again, and the case of letters
does not matter to where words end.
-/

namespace SurrealQuery.Text

/-! ## Pieces -/

theorem exists_pieces (cs : List Char) : ∃ word rest, pieces cs = word :: rest := by
  cases cs with
  | nil => exact ⟨[], [], rfl⟩
  | cons c cs =>
    rw [pieces]
    split
    · exact ⟨_, _, rfl⟩
    · split <;> exact ⟨_, _, rfl⟩

/-- Characters that are not blank are one piece, up to a blank. -/
theorem pieces_append {word : List Char} (hword : ∀ c ∈ word, ¬isBlank c) {blank : Char}
    (hblank : isBlank blank) (rest : List Char) :
    pieces (word ++ blank :: rest) = word :: pieces rest := by
  induction word with
  | nil => rw [List.nil_append, pieces, if_pos hblank]
  | cons c word ih =>
    rw [List.forall_mem_cons] at hword
    rw [List.cons_append, pieces, if_neg hword.1, ih hword.2]

theorem pieces_of_not_isBlank {word : List Char} (hword : ∀ c ∈ word, ¬isBlank c) :
    pieces word = [word] := by
  induction word with
  | nil => rfl
  | cons c word ih =>
    rw [List.forall_mem_cons] at hword
    rw [pieces, if_neg hword.1, ih hword.2]

theorem not_isBlank_of_mem_pieces {cs : List Char} :
    ∀ word ∈ pieces cs, ∀ c ∈ word, ¬isBlank c := by
  induction cs with
  | nil => simp [pieces]
  | cons c cs ih =>
    obtain ⟨first, rest, hpieces⟩ := exists_pieces cs
    rw [hpieces, List.forall_mem_cons] at ih
    rw [pieces]
    split
    · rw [hpieces]
      simpa using ih
    · rename_i hc
      rw [hpieces]
      simpa using ⟨⟨by simpa using hc, by simpa using ih.1⟩, by simpa using ih.2⟩

/-- A text is cut at the same places if its characters are changed, but for their being blank. -/
theorem pieces_map {f : Char → Char} (hf : ∀ c, isBlank (f c) = isBlank c) (cs : List Char) :
    pieces (cs.map f) = (pieces cs).map (List.map f) := by
  induction cs with
  | nil => rfl
  | cons c cs ih =>
    obtain ⟨first, rest, hpieces⟩ := exists_pieces cs
    rw [List.map_cons, pieces, pieces, hf, ih, hpieces]
    split <;> rfl

/-! ## Words -/

theorem words_append {word : List Char} (hne : word ≠ []) (hword : ∀ c ∈ word, ¬isBlank c)
    {blank : Char} (hblank : isBlank blank) (rest : List Char) :
    words (word ++ blank :: rest) = word :: words rest := by
  rw [words, pieces_append hword hblank, List.filter_cons_of_pos (by simpa using hne)]
  rfl

theorem head?_words {word : List Char} (hne : word ≠ []) (hword : ∀ c ∈ word, ¬isBlank c)
    {blank : Char} (hblank : isBlank blank) (rest : List Char) :
    (words (word ++ blank :: rest)).head? = some word := by
  rw [words_append hne hword hblank]
  rfl

theorem words_of_not_isBlank {word : List Char} (hne : word ≠ [])
    (hword : ∀ c ∈ word, ¬isBlank c) : words word = [word] := by
  rw [words, pieces_of_not_isBlank hword, List.filter_cons_of_pos (by simpa using hne)]
  rfl

theorem ne_nil_and_not_isBlank_of_mem_words {cs word : List Char} (h : word ∈ words cs) :
    word ≠ [] ∧ ∀ c ∈ word, ¬isBlank c := by
  obtain ⟨hmem, hne⟩ := List.mem_filter.1 h
  exact ⟨by simpa using hne, not_isBlank_of_mem_pieces word hmem⟩

/-- Words with a space between them are the words of that text. -/
theorem words_intercalate {ws : List (List Char)}
    (h : ∀ word ∈ ws, word ≠ [] ∧ ∀ c ∈ word, ¬isBlank c) :
    words ([' '].intercalate ws) = ws := by
  induction ws with
  | nil => rfl
  | cons word ws ih =>
    rw [List.forall_mem_cons] at h
    obtain ⟨⟨hne, hword⟩, hws⟩ := h
    cases ws with
    | nil =>
      rw [List.intercalate_singleton]
      exact words_of_not_isBlank hne hword
    | cons next ws =>
      rw [List.intercalate_cons_cons, List.append_assoc, List.singleton_append,
        words_append hne hword (by decide), ih hws]

theorem map_intercalate {f : Char → Char} (hf : f ' ' = ' ') (ws : List (List Char)) :
    ([' '].intercalate ws).map f = [' '].intercalate (ws.map (List.map f)) := by
  induction ws with
  | nil => rfl
  | cons word ws ih =>
    cases ws with
    | nil => simp
    | cons next ws =>
      rw [List.intercalate_cons_cons, List.map_append, List.map_append, ih, List.map_singleton, hf]
      exact List.intercalate_cons_cons.symm

theorem words_map {f : Char → Char} (hf : ∀ c, isBlank (f c) = isBlank c) (cs : List Char) :
    words (cs.map f) = (words cs).map (List.map f) := by
  rw [words, words, pieces_map hf, List.filter_map]
  congr 2
  funext word
  simp

theorem isBlank_of_between_letters {c : Char} (hlow : 65 ≤ c.toNat) (hhigh : c.toNat ≤ 122) :
    isBlank c = false := by
  simp [isBlank]
  omega

theorem isBlank_toLower (c : Char) : isBlank c.toLower = isBlank c := by
  unfold Char.toLower
  split
  · rename_i h
    have hlow : 65 ≤ c.toNat := h.1
    have hhigh : c.toNat ≤ 90 := h.2
    have hlower : (c.val + ('a'.val - 'A'.val)).toNat = c.toNat + 32 := by
      rw [UInt32.toNat_add]
      exact Nat.mod_eq_of_lt (Nat.lt_of_le_of_lt (Nat.add_le_add_right hhigh 32) (by decide))
    rw [isBlank_of_between_letters hlow (by omega), isBlank_of_between_letters]
    · show 65 ≤ (c.val + ('a'.val - 'A'.val)).toNat
      omega
    · show (c.val + ('a'.val - 'A'.val)).toNat ≤ 122
      omega
  · rfl

end SurrealQuery.Text
