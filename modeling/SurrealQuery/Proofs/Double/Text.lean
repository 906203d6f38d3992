import SurrealQuery.Proofs.Double.Nearest
import SurrealQuery.Proofs.Json.Numeral

/-!
# Doubles in decimal

A numeral is read from its text (`scan_toChars`). What is written for a double is the text of a
numeral with a fraction or an exponent, and the numeral denotes the double (`scan_double`).
-/

namespace SurrealQuery.Json.Numeral

/-! ## The text of a numeral -/

/-- A numeral whose whole part and fraction are digits, with no zero in front. -/
structure Plain (n : Numeral) : Prop where
  whole_ne_nil : n.whole ≠ []
  whole_zero : n.whole.head? = some '0' → n.whole = ['0']
  whole_digits : ∀ c ∈ n.whole, c.isDigit
  fraction_digits : ∀ c ∈ n.fraction, c.isDigit

def fractionChars (ds : List Char) : List Char :=
  if ds.isEmpty then [] else '.' :: ds

def exponentChars : Option Int → List Char
  | none => []
  | some e => 'e' :: (if e < 0 then '-' else '+') :: Nat.toDigits 10 e.natAbs

/-- The text of a numeral; an exponent is written with its sign. -/
def toChars (n : Numeral) : List Char :=
  (if n.negative then ['-'] else []) ++
    (n.whole ++ (fractionChars n.fraction ++ exponentChars n.exponent))

theorem scanSigned_exponent (e : Int) {rest : List Char} (hrest : Ends rest) :
    scanSigned ((if e < 0 then '-' else '+') :: (Nat.toDigits 10 e.natAbs ++ rest)) =
      some (e, rest) := by
  have hdigits : digits? (Nat.toDigits 10 e.natAbs ++ rest) =
      some (Nat.toDigits 10 e.natAbs, rest) :=
    digits?_append Nat.toDigits_ne_nil (fun _ => isDigit_of_mem_toDigits) fun c hc => (hrest c hc).1
  by_cases he : e < 0
  · have hvalue : -(e.natAbs : Int) = e := by omega
    rw [if_pos he]
    show (digits? _).map (fun p => (-(Nat.ofDigitChars 10 p.1 0 : Int), p.2)) = _
    rw [hdigits, Option.map_some, Nat.ofDigitChars_ten_toDigits, hvalue]
  · have hvalue : (e.natAbs : Int) = e := by omega
    rw [if_neg he]
    show (digits? _).map (fun p => ((Nat.ofDigitChars 10 p.1 0 : Int), p.2)) = _
    rw [hdigits, Option.map_some, Nat.ofDigitChars_ten_toDigits, hvalue]

theorem scanExponent_exponentChars (e : Option Int) {rest : List Char} (hrest : Ends rest) :
    scanExponent (exponentChars e ++ rest) = some (e, rest) := by
  cases e with
  | none => exact scanExponent_of_ends hrest
  | some e =>
    show (scanSigned ((if e < 0 then '-' else '+') :: (Nat.toDigits 10 e.natAbs ++ rest))).map _ = _
    rw [scanSigned_exponent e hrest]
    rfl

/-- The exponent is no part of the digits before it. -/
theorem head?_exponentChars (e : Option Int) {rest : List Char} (hrest : Ends rest) {c : Char}
    (hc : (exponentChars e ++ rest).head? = some c) : c.isDigit = false ∧ c ≠ '.' := by
  cases e with
  | none => exact ⟨(hrest c hc).1, (hrest c hc).2.1⟩
  | some e =>
    cases hc
    decide

theorem scanFraction_fractionChars {ds rest : List Char} (hds : ∀ c ∈ ds, c.isDigit)
    (hrest : ∀ c, rest.head? = some c → c.isDigit = false ∧ c ≠ '.') :
    scanFraction (fractionChars ds ++ rest) = some (ds, rest) := by
  cases ds with
  | nil =>
    show scanFraction rest = _
    unfold scanFraction
    split
    · exact absurd rfl (hrest '.' rfl).2
    · rfl
  | cons d ds => exact digits?_append (List.cons_ne_nil _ _) hds fun c hc => (hrest c hc).1

theorem head?_fractionChars (ds : List Char) {rest : List Char} {c : Char}
    (hrest : ∀ c, rest.head? = some c → c.isDigit = false ∧ c ≠ '.')
    (hc : (fractionChars ds ++ rest).head? = some c) : c.isDigit = false := by
  cases ds with
  | nil => exact (hrest c hc).1
  | cons d ds =>
    cases hc
    decide

theorem Plain.scanWhole {n : Numeral} (h : n.Plain) {rest : List Char}
    (hrest : ∀ c, rest.head? = some c → c.isDigit = false) :
    scanWhole (n.whole ++ rest) = some (n.whole, rest) := by
  unfold Numeral.scanWhole
  split
  · rename_i rest' hzero
    have hhead : n.whole.head? = some '0' := by
      cases hwhole : n.whole with
      | nil => exact absurd hwhole h.whole_ne_nil
      | cons c cs =>
        rw [hwhole] at hzero
        exact congrArg some (List.cons.inj hzero).1
    rw [h.whole_zero hhead] at hzero ⊢
    cases hzero
    rfl
  · exact digits?_append h.whole_ne_nil h.whole_digits hrest

theorem Plain.scanUnsigned {n : Numeral} (h : n.Plain) {rest : List Char} (hrest : Ends rest) :
    scanUnsigned n.negative
      (n.whole ++ (fractionChars n.fraction ++ (exponentChars n.exponent ++ rest))) =
        some (n, rest) := by
  have hexponent c := head?_exponentChars n.exponent hrest (c := c)
  unfold Numeral.scanUnsigned
  simp only [h.scanWhole fun c => head?_fractionChars n.fraction hexponent,
    scanFraction_fractionChars h.fraction_digits hexponent,
    scanExponent_exponentChars n.exponent hrest, Option.bind_eq_bind, Option.bind_some]

/-- A numeral starts with a sign or a digit. -/
theorem Plain.exists_toChars {n : Numeral} (h : n.Plain) :
    ∃ c cs, n.toChars = c :: cs ∧ (c = '-' ∨ c.isDigit) := by
  unfold toChars
  split
  · exact ⟨_, _, rfl, .inl rfl⟩
  · obtain ⟨c, cs, hcs⟩ := List.exists_cons_of_ne_nil h.whole_ne_nil
    have hc : c.isDigit := h.whole_digits c (hcs ▸ List.mem_cons_self ..)
    rw [hcs]
    exact ⟨_, _, rfl, .inr hc⟩

/-- A numeral is read from its text. -/
theorem Plain.scan_toChars {n : Numeral} (h : n.Plain) {rest : List Char} (hrest : Ends rest) :
    scan (n.toChars ++ rest) = some (n, rest) := by
  have hscan := h.scanUnsigned hrest
  unfold toChars
  simp only [List.append_assoc]
  cases hsign : n.negative with
  | true =>
    rw [hsign] at hscan
    exact hscan
  | false =>
    rw [hsign] at hscan
    rw [if_neg (by decide), List.nil_append, scan_of_unsigned, hscan]
    cases hwhole : n.whole with
    | nil => exact absurd hwhole h.whole_ne_nil
    | cons c cs =>
      rintro ⟨⟩
      have := h.whole_digits '-' (by rw [hwhole]; exact List.mem_cons_self ..)
      exact absurd this (by decide)

end SurrealQuery.Json.Numeral

namespace SurrealQuery.Double

open Json (Numeral)

/-! ## The numeral of a double -/

/-- The parts of a numeral with the point after the first of its digits, as they are laid out. -/
def layoutNumeral (negative : Bool) (digits : List Char) (exponent : Int) : Numeral :=
  if -5 ≤ exponent ∧ exponent < 0 then
    ⟨negative, ['0'], List.replicate (-exponent - 1).toNat '0' ++ digits, none⟩
  else if 0 ≤ exponent ∧ exponent ≤ 15 then
    let before := exponent.toNat + 1
    if digits.length ≤ before then
      ⟨negative, digits ++ List.replicate (before - digits.length) '0', ['0'], none⟩
    else ⟨negative, digits.take before, digits.drop before, none⟩
  else ⟨negative, digits.take 1, digits.drop 1, some exponent⟩

variable {digits : List Char}

theorem toChars_layoutNumeral (negative : Bool) (hne : digits ≠ []) (exponent : Int) :
    (layoutNumeral negative digits exponent).toChars =
      (if negative then ['-'] else []) ++ layout digits exponent := by
  unfold layoutNumeral layout Numeral.toChars Numeral.fractionChars Numeral.exponentChars
  split
  · simp [hne]
  · split
    · dsimp only
      split
      · rename_i hshort
        have hpadded :
            digits.length + (exponent.toNat + 1 - digits.length) = exponent.toNat + 1 := by
          omega
        simp [hpadded, List.take_of_length_le]
      · rename_i hlong
        have hnone : exponent.toNat + 1 - digits.length = 0 := by omega
        simp [hnone, hlong]
    · simp

/-- A fraction or an exponent is written in any case. -/
theorem number?_layoutNumeral (negative : Bool) (hne : digits ≠ []) (exponent : Int) :
    (layoutNumeral negative digits exponent).number? =
      (layoutNumeral negative digits exponent).double?.map .float := by
  unfold Numeral.number?
  dsimp only
  refine if_neg fun hint => ?_
  obtain ⟨hfraction, hexponent, -⟩ := hint
  revert hfraction hexponent
  unfold layoutNumeral
  split
  · simp [hne]
  · split
    · dsimp only
      split <;> simp_all
    · simp

theorem isDigit_of_mem_zeros (n : Nat) : ∀ c ∈ List.replicate n '0', c.isDigit := by
  intro c hc
  rw [List.eq_of_mem_replicate hc]
  rfl

theorem plain_layoutNumeral (negative : Bool) (hne : digits ≠ []) (hzero : digits.head? ≠ some '0')
    (hdigits : ∀ c ∈ digits, c.isDigit) (exponent : Int) :
    (layoutNumeral negative digits exponent).Plain := by
  have hzeros := isDigit_of_mem_zeros
  obtain ⟨d, ds, rfl⟩ := List.exists_cons_of_ne_nil hne
  have hfirst {cs : List Char} (h : (d :: cs).head? = some '0') : d :: cs = ['0'] :=
    absurd h hzero
  have hshort n : ∀ c ∈ (d :: ds).take n, c.isDigit := fun c hc =>
    hdigits c (List.mem_of_mem_take hc)
  have hrest n : ∀ c ∈ (d :: ds).drop n, c.isDigit := fun c hc =>
    hdigits c (List.mem_of_mem_drop hc)
  unfold layoutNumeral
  split
  · exact ⟨List.cons_ne_nil _ _, fun _ => rfl, hzeros 1,
      List.forall_mem_append.2 ⟨hzeros _, hdigits⟩⟩
  · split
    · dsimp only
      split
      · exact ⟨List.cons_ne_nil _ _, hfirst, List.forall_mem_append.2 ⟨hdigits, hzeros _⟩, hzeros 1⟩
      · exact ⟨List.cons_ne_nil _ _, hfirst, hshort _, hrest _⟩
    · exact ⟨List.cons_ne_nil _ _, hfirst, hshort 1, hrest 1⟩

/-- However it is laid out, a numeral is worth its digits with the point after the first. -/
theorem double?_layoutNumeral (negative : Bool) (hne : digits ≠ []) (exponent : Int) :
    (layoutNumeral negative digits exponent).double? =
      ofDecimal? negative ⟨Nat.ofDigitChars 10 digits 0, exponent + 1 - digits.length⟩ := by
  have hlength : 0 < digits.length := List.length_pos_iff.2 hne
  unfold Numeral.double? layoutNumeral
  split
  · -- Zeros in front count for nothing.
    rw [List.singleton_append, ← List.cons_append, ← List.replicate_succ, Nat.ofDigitChars_append,
      Nat.ofDigitChars_replicate_zero, Nat.mul_zero]
    congr 2
    simp
    omega
  · split
    · dsimp only
      split
      · -- Zeros at the end count in the exponent.
        rw [List.append_assoc, ← List.replicate_succ', Nat.ofDigitChars_append,
          Nat.ofDigitChars_replicate_zero, Nat.mul_comm, ofDecimal?_mul_pow]
        congr 2
        simp
        omega
      · rw [List.take_append_drop]
        congr 2
        simp
        omega
    · rw [List.take_append_drop]
      congr 2
      simp
      omega

/-! ## The digits without zeros at the end -/

theorem exists_zeros (ds : List Char) :
    ∃ zeros, (ds.reverse.dropWhile (· == '0')).reverse ++ List.replicate zeros '0' = ds := by
  refine ⟨(ds.reverse.takeWhile (· == '0')).length, ?_⟩
  have hzeros : List.replicate (ds.reverse.takeWhile (· == '0')).length '0' =
      ds.reverse.takeWhile (· == '0') := by
    refine (List.eq_replicate_of_mem fun c hc => ?_).symm
    simpa using List.all_eq_true.1 List.all_takeWhile c hc
  rw [← List.reverse_replicate, hzeros, ← List.reverse_append, List.takeWhile_append_dropWhile,
    List.reverse_reverse]

/-- What remains of the digits of a number without the zeros at the end. -/
theorem exists_trimmed {m : Nat} (hm : m ≠ 0) : ∃ digits zeros,
    ((Nat.toDigits 10 m).reverse.dropWhile (· == '0')).reverse = digits ∧
    (Nat.toDigits 10 m).length = digits.length + zeros ∧
    m = Nat.ofDigitChars 10 digits 0 * 10 ^ zeros ∧
    digits ≠ [] ∧ digits.head? ≠ some '0' ∧ ∀ c ∈ digits, c.isDigit := by
  obtain ⟨zeros, hsplit⟩ := exists_zeros (Nat.toDigits 10 m)
  generalize ((Nat.toDigits 10 m).reverse.dropWhile (· == '0')).reverse = digits at hsplit ⊢
  have hvalue : m = Nat.ofDigitChars 10 digits 0 * 10 ^ zeros := by
    calc m = Nat.ofDigitChars 10 (Nat.toDigits 10 m) 0 := Nat.ofDigitChars_ten_toDigits.symm
      _ = Nat.ofDigitChars 10 digits 0 * 10 ^ zeros := by
        rw [← hsplit, Nat.ofDigitChars_append, Nat.ofDigitChars_replicate_zero, Nat.mul_comm]
  have hne : digits ≠ [] := by
    rintro rfl
    exact hm (hvalue.trans (Nat.zero_mul _))
  refine ⟨digits, zeros, rfl, ?_, hvalue, hne, ?_, ?_⟩
  · rw [← hsplit, List.length_append, List.length_replicate]
  · -- Only zero itself is written with a zero in front.
    intro hzero
    obtain ⟨ds, rfl⟩ := List.head?_eq_some_iff.1 hzero
    obtain ⟨rfl, -⟩ := List.append_eq_nil_iff.1 (Numeral.toDigits_eq_zero hsplit.symm)
    exact hm (hvalue.trans (Nat.zero_mul _))
  · intro c hc
    exact Numeral.isDigit_of_mem_toDigits (hsplit ▸ List.mem_append_left _ hc)

/-! ## Reading a double -/

theorem mantissa_shortest_ne_zero {x : Double} (hpos : x.rank ≠ 0) :
    (shortest x.rank).mantissa ≠ 0 := by
  intro hzero
  have hread := ofDecimal?_shortest x hpos
  unfold ofDecimal? at hread
  rw [if_pos (.inl hzero)] at hread
  exact hpos (congrArg Double.rank (Option.some.inj hread)).symm

theorem exists_numeral (x : Double) :
    ∃ n : Numeral, n.Plain ∧ n.toChars = x.toChars ∧ n.number? = some (.float x) := by
  by_cases hpos : x.rank = 0
  · have hx : zero x.negative = x := by
      cases x
      cases hpos
      rfl
    have hzero : ∀ c ∈ ['0'], c.isDigit := isDigit_of_mem_zeros 1
    refine ⟨⟨x.negative, ['0'], ['0'], none⟩,
      ⟨List.cons_ne_nil _ _, fun _ => rfl, hzero, hzero⟩, ?_, ?_⟩
    · unfold toChars
      rw [if_pos hpos]
      rfl
    · show some (Json.Number.float (zero x.negative)) = _
      rw [hx]
  · have hread := ofDecimal?_shortest x hpos
    obtain ⟨digits, zeros, htrimmed, hlength, hvalue, hne, hzero, hdigits⟩ :=
      exists_trimmed (mantissa_shortest_ne_zero hpos)
    unfold toChars
    rw [if_neg hpos]
    dsimp only
    rw [htrimmed]
    refine ⟨_, plain_layoutNumeral x.negative hne hzero hdigits _,
      toChars_layoutNumeral x.negative hne _, ?_⟩
    have hexponent : ((Nat.toDigits 10 (shortest x.rank).mantissa).length : Int) +
        (shortest x.rank).exponent - 1 + 1 - digits.length =
          (shortest x.rank).exponent + zeros := by
      omega
    rw [number?_layoutNumeral _ hne, double?_layoutNumeral _ hne, hexponent, ← ofDecimal?_mul_pow,
      ← hvalue, hread]
    rfl

/-- What is written for a double is a numeral, and the numeral denotes the double. -/
theorem scan_double (x : Double) {rest : List Char} (hrest : Numeral.Ends rest) :
    ∃ n, Numeral.scan (x.toChars ++ rest) = some (n, rest) ∧ n.number? = some (.float x) := by
  obtain ⟨n, hplain, hchars, hnumber⟩ := exists_numeral x
  exact ⟨n, hchars ▸ hplain.scan_toChars hrest, hnumber⟩

theorem exists_toChars (x : Double) : ∃ c cs, x.toChars = c :: cs ∧ (c = '-' ∨ c.isDigit) := by
  obtain ⟨n, hplain, hchars, -⟩ := exists_numeral x
  exact hchars ▸ hplain.exists_toChars

end SurrealQuery.Double
