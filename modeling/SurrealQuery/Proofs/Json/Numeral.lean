import SurrealQuery.Json.Numeral

/-!
# Integers in decimal

What is written for an integer is a numeral, and the numeral denotes the integer (`scan_intChars`,
`number?_ofInt`).
-/

namespace SurrealQuery.Json.Numeral

/-- What may follow a numeral: no digit, point or exponent mark. -/
def Ends (rest : List Char) : Prop :=
  ∀ c, rest.head? = some c → c.isDigit = false ∧ c ≠ '.' ∧ c ≠ 'e' ∧ c ≠ 'E'

/-- Digits end where something else comes. -/
theorem digits_append {ds rest : List Char} (hds : ∀ c ∈ ds, c.isDigit)
    (hrest : ∀ c, rest.head? = some c → c.isDigit = false) : digits (ds ++ rest) = (ds, rest) := by
  have htake : rest.takeWhile Char.isDigit = [] ∧ rest.dropWhile Char.isDigit = rest := by
    cases rest with
    | nil => exact ⟨rfl, rfl⟩
    | cons c cs => simp [hrest c rfl]
  unfold digits
  rw [List.takeWhile_append_of_pos hds, List.dropWhile_append_of_pos hds, htake.1, htake.2,
    List.append_nil]

theorem digits?_append {ds rest : List Char} (hne : ds ≠ []) (hds : ∀ c ∈ ds, c.isDigit)
    (hrest : ∀ c, rest.head? = some c → c.isDigit = false) :
    digits? (ds ++ rest) = some (ds, rest) := by
  unfold digits?
  rw [digits_append hds hrest]
  simp [hne]

theorem isDigit_of_mem_toDigits {n : Nat} {c : Char} (h : c ∈ Nat.toDigits 10 n) : c.isDigit :=
  Nat.isDigit_of_mem_toDigits (by decide) (by decide) h

/-- Only zero is written with a zero in front. -/
theorem toDigits_eq_zero {n : Nat} {ds : List Char} (h : Nat.toDigits 10 n = '0' :: ds) :
    ds = [] := by
  induction n using Nat.strongRecOn generalizing ds with
  | ind n ih =>
    by_cases hn : n < 10
    · rw [Nat.toDigits_of_lt_base hn] at h
      exact (List.cons.inj h).2.symm
    · rw [Nat.toDigits_of_base_le (by decide) (by omega)] at h
      cases hfront : Nat.toDigits 10 (n / 10) with
      | nil => exact absurd hfront Nat.toDigits_ne_nil
      | cons c cs =>
        rw [hfront] at h
        obtain ⟨rfl, -⟩ := List.cons.inj h
        -- The front is that of a zero, which is not written in front of another digit.
        have hcs := ih (n / 10) (by omega) hfront
        have hvalue : Nat.ofDigitChars 10 (Nat.toDigits 10 (n / 10)) 0 = n / 10 :=
          Nat.ofDigitChars_ten_toDigits
        rw [hfront, hcs] at hvalue
        have : n / 10 = 0 := hvalue.symm
        omega

theorem scanWhole_toDigits {n : Nat} {rest : List Char} (hrest : Ends rest) :
    scanWhole (Nat.toDigits 10 n ++ rest) = some (Nat.toDigits 10 n, rest) := by
  have hdigits : digits? (Nat.toDigits 10 n ++ rest) = some (Nat.toDigits 10 n, rest) :=
    digits?_append Nat.toDigits_ne_nil (fun _ => isDigit_of_mem_toDigits)
      fun c hc => (hrest c hc).1
  unfold scanWhole
  split
  · rename_i rest' hzero
    cases hds : Nat.toDigits 10 n with
    | nil => exact absurd hds Nat.toDigits_ne_nil
    | cons c cs =>
      rw [hds] at hzero
      obtain ⟨rfl, hcs⟩ := List.cons.inj hzero
      rw [toDigits_eq_zero hds] at hcs ⊢
      rw [← hcs]
      rfl
  · exact hdigits

theorem scanFraction_of_ends {rest : List Char} (hrest : Ends rest) :
    scanFraction rest = some ([], rest) := by
  unfold scanFraction
  split
  · exact absurd rfl (hrest '.' rfl).2.1
  · rfl

theorem scanExponent_of_ends {rest : List Char} (hrest : Ends rest) :
    scanExponent rest = some (none, rest) := by
  unfold scanExponent
  split
  · exact absurd rfl (hrest 'e' rfl).2.2.1
  · exact absurd rfl (hrest 'E' rfl).2.2.2
  · rfl

/-- The numeral of an integer. -/
def ofInt (n : Int) : Numeral :=
  ⟨decide (n < 0), Nat.toDigits 10 n.natAbs, [], none⟩

theorem scanUnsigned_toDigits (negative : Bool) (n : Nat) {rest : List Char} (hrest : Ends rest) :
    scanUnsigned negative (Nat.toDigits 10 n ++ rest) =
      some (⟨negative, Nat.toDigits 10 n, [], none⟩, rest) := by
  unfold scanUnsigned
  simp only [scanWhole_toDigits hrest, scanFraction_of_ends hrest, scanExponent_of_ends hrest,
    Option.bind_eq_bind, Option.bind_some]

theorem scan_of_unsigned {cs : List Char} (h : cs.head? ≠ some '-') :
    scan cs = scanUnsigned false cs := by
  unfold scan
  split
  · exact absurd rfl h
  · rfl

theorem exists_toDigits (n : Nat) : ∃ c cs, Nat.toDigits 10 n = c :: cs ∧ c.isDigit := by
  cases hds : Nat.toDigits 10 n with
  | nil => exact absurd hds Nat.toDigits_ne_nil
  | cons c cs => exact ⟨c, cs, rfl, isDigit_of_mem_toDigits (hds ▸ List.mem_cons_self ..)⟩

/-- An integer starts with a sign or a digit. -/
theorem exists_intChars (n : Int) :
    ∃ c cs, intChars n = c :: cs ∧ (c = '-' ∨ c.isDigit) := by
  unfold intChars
  split
  · exact ⟨_, _, rfl, .inl rfl⟩
  · obtain ⟨c, cs, hcs, hc⟩ := exists_toDigits n.natAbs
    exact ⟨c, cs, hcs, .inr hc⟩

theorem scan_intChars (n : Int) {rest : List Char} (hrest : Ends rest) :
    scan (intChars n ++ rest) = some (ofInt n, rest) := by
  unfold intChars ofInt
  by_cases hn : n < 0
  · rw [if_pos hn, decide_eq_true hn, List.append_assoc]
    exact scanUnsigned_toDigits true _ hrest
  · rw [if_neg hn, decide_eq_false hn, List.nil_append, scan_of_unsigned]
    · exact scanUnsigned_toDigits false _ hrest
    · obtain ⟨c, cs, hcs, hc⟩ := exists_toDigits n.natAbs
      rw [hcs]
      rintro ⟨⟩
      exact absurd hc (by decide)

/-- The integers of 64 bits, with a sign or without. -/
theorem number?_ofInt {n : Int} (hlow : -0x8000000000000000 ≤ n) (hhigh : n < 0x10000000000000000) :
    (ofInt n).number? = some (.int n) := by
  unfold number? ofInt
  simp only [Nat.ofDigitChars_ten_toDigits]
  by_cases hn : n < 0
  · have hbound : n.natAbs ≤ 0x8000000000000000 := by omega
    have hpos : 0 < n.natAbs := by omega
    have hvalue : -(n.natAbs : Int) = n := by omega
    have hsign : decide (n < 0) = true := decide_eq_true hn
    refine (if_pos ⟨rfl, rfl, ?_⟩).trans ?_
    · rw [if_pos hsign, hvalue]
    · rw [if_pos hsign]
      exact ⟨hpos, hbound⟩
  · have hbound : n.natAbs < 0x10000000000000000 := by omega
    have hvalue : (n.natAbs : Int) = n := by omega
    have hsign : ¬decide (n < 0) = true := by rwa [decide_eq_true_iff]
    refine (if_pos ⟨rfl, rfl, ?_⟩).trans ?_
    · rw [if_neg hsign, hvalue]
    · rw [if_neg hsign]
      exact hbound

end SurrealQuery.Json.Numeral
