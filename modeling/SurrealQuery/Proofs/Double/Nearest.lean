import Mathlib.Tactic.Ring
import SurrealQuery.Double.Shortest

/-!
# Nearest doubles

The nearest double to a fraction depends on its value alone, so that a decimal may be written with
more zeros. The magnitude of a double is nearest to itself, so that the decimal that is chosen for a
double reads back as the double (`ofDecimal?_shortest`).
-/

namespace SurrealQuery.Double

/-! ## Fractions of one value -/

theorem roundDiv_mul (num den : Nat) {k : Nat} (hk : 0 < k) :
    roundDiv (num * k) (den * k) = roundDiv num den := by
  unfold roundDiv
  simp only [Nat.mul_div_mul_right _ _ hk, Nat.mul_mod_mul_right, ← Nat.mul_assoc,
    Nat.mul_lt_mul_right hk]

theorem nearestRank_mul (num den : Nat) {k : Nat} (hk : 0 < k) :
    nearestRank (num * k) (den * k) = nearestRank num den := by
  unfold nearestRank
  simp only [Nat.mul_div_mul_right _ _ hk, Nat.shiftLeft_eq, Nat.mul_right_comm den k,
    roundDiv_mul _ _ hk]

/-- Two fractions of one value have one nearest rank. -/
theorem nearestRank_congr {a b c d : Nat} (hb : 0 < b) (hd : 0 < d) (h : a * d = c * b) :
    nearestRank a b = nearestRank c d := by
  rw [← nearestRank_mul a b hd, h, Nat.mul_comm b d, nearestRank_mul c d hb]

/-! ## The magnitude of a rank -/

theorem block_eq : block = 2 ^ 52 := by decide

/-- A rank in the first block is its own magnitude. Beyond it, the magnitude is a number of 53 bits
with zeros behind. -/
theorem units_eq (rank : Nat) : (rank < 2 ^ 52 ∧ units rank = rank) ∨
    ∃ m e, 2 ^ 52 ≤ m ∧ m < 2 ^ 53 ∧ units rank = m * 2 ^ e ∧ rank = m + e * 2 ^ 52 := by
  unfold units
  rw [block_eq]
  split
  · rename_i h
    exact .inl ⟨h, rfl⟩
  · refine .inr ⟨2 ^ 52 + rank % 2 ^ 52, rank / 2 ^ 52 - 1, by omega, by omega, ?_, by omega⟩
    rw [Nat.shiftLeft_eq]

theorem roundDiv_self (n : Nat) {k : Nat} (hk : 0 < k) : roundDiv (n * k) k = n := by
  unfold roundDiv
  simp [Nat.mul_div_cancel n hk, hk]

/-- The magnitude of a rank is nearest to itself. -/
theorem nearestRank_units (rank : Nat) {k : Nat} (hk : 0 < k) :
    nearestRank (units rank * k) k = rank := by
  unfold nearestRank
  rw [Nat.mul_div_cancel _ hk, block_eq]
  rcases units_eq rank with ⟨hlt, h⟩ | ⟨m, e, hlow, hhigh, h, hrank⟩
  · have hlog : rank.log2 - 52 = 0 := by
      by_cases hzero : rank = 0
      · subst hzero
        decide
      · have := (Nat.log2_lt hzero).2 hlt
        omega
    rw [h, hlog]
    simp [roundDiv_self _ hk]
  · have hpos : 0 < 2 ^ e := Nat.two_pow_pos e
    have hlog : (m * 2 ^ e).log2 = 52 + e := by
      rw [Nat.log2_eq_iff (Nat.mul_ne_zero (by omega) hpos.ne'), Nat.add_right_comm, Nat.pow_add,
        Nat.pow_add]
      exact ⟨Nat.mul_le_mul_right _ hlow, Nat.mul_lt_mul_of_pos_right hhigh hpos⟩
    rw [h, hlog, Nat.add_sub_cancel_left]
    simp only [Nat.shiftLeft_eq, Nat.mul_assoc m, Nat.mul_comm (2 ^ e) k,
      roundDiv_self _ (Nat.mul_pos hk hpos)]
    exact hrank.symm

/-! ## Decimals of one value -/

/-- More zeros at the end of a number are more digits. -/
theorem toDigits_mul_pow {n : Nat} (hn : 0 < n) (k : Nat) :
    Nat.toDigits 10 (n * 10 ^ k) = Nat.toDigits 10 n ++ List.replicate k '0' := by
  induction k with
  | zero => simp
  | succ k ih =>
    have hpos : 0 < n * 10 ^ k := Nat.mul_pos hn (Nat.pow_pos (by decide))
    have hten : n * 10 ^ (k + 1) = 10 * (n * 10 ^ k) + 0 := by ring
    rw [hten, ← Nat.toDigits_append_toDigits (by decide) hpos (by decide), ih, List.append_assoc,
      List.replicate_succ', Nat.toDigits_zero]

theorem digitCount_mul_pow {n : Nat} (hn : 0 < n) (k : Nat) :
    digitCount (n * 10 ^ k) = digitCount n + k := by
  unfold digitCount
  rw [toDigits_mul_pow hn, List.length_append, List.length_replicate]

/-- The zeros at the end of a mantissa may be counted in the exponent. -/
theorem ofDecimal?_mul_pow (negative : Bool) (m k : Nat) (e : Int) :
    ofDecimal? negative ⟨m * 10 ^ k, e⟩ = ofDecimal? negative ⟨m, e + k⟩ := by
  rcases Nat.eq_zero_or_pos m with rfl | hm
  · simp [ofDecimal?]
  · have hplaces : ((digitCount (m * 10 ^ k) : Nat) : Int) + e = digitCount m + (e + k) := by
      rw [digitCount_mul_pow hm]
      omega
    have hzero : m * 10 ^ k = 0 ↔ m = 0 := by
      have := Nat.mul_pos hm (Nat.pow_pos (n := k) (show 0 < 10 by decide))
      omega
    have hrank (one : Nat) : nearestRank (m * 10 ^ k * 10 ^ e.toNat * one) (10 ^ (-e).toNat) =
        nearestRank (m * 10 ^ (e + k).toNat * one) (10 ^ (-(e + k)).toNat) := by
      refine nearestRank_congr (Nat.pow_pos (by decide)) (Nat.pow_pos (by decide)) ?_
      have hexponents : k + e.toNat + (-(e + k)).toNat = (e + k).toNat + (-e).toNat := by omega
      calc m * 10 ^ k * 10 ^ e.toNat * one * 10 ^ (-(e + k)).toNat
          = m * one * 10 ^ (k + e.toNat + (-(e + k)).toNat) := by ring
        _ = m * 10 ^ (e + k).toNat * one * 10 ^ (-e).toNat := by rw [hexponents]; ring
    unfold ofDecimal? ofUnits?
    simp only [hplaces, hzero, Nat.pow_eq, hrank]

/-! ## Reading back -/

/-- A decimal that reads back as a magnitude does so with either sign. -/
theorem ofDecimal?_of_readsAs {x : Double} {d : Decimal} (h : readsAs x.rank d) :
    ofDecimal? x.negative d = some x := by
  obtain ⟨negative, rank, hrank⟩ := x
  unfold readsAs at h
  have hsign : ofDecimal? negative d =
      (ofDecimal? false d).map fun x => ⟨negative, x.rank, x.rank_lt⟩ := by
    unfold ofDecimal? ofUnits?
    dsimp only
    split
    · rfl
    · split
      · rfl
      · split <;> rfl
  cases hd : ofDecimal? false d with
  | none => rw [hd] at h; cases h
  | some y =>
    rw [hd] at h
    have hy : y.rank = rank := by simpa using h
    subst hy
    rw [hsign, hd]
    rfl

theorem readsAs_of_withDigits? {rank n : Nat} {d : Decimal} (h : withDigits? rank n = some d) :
    readsAs rank d := by
  unfold withDigits? at h
  dsimp only at h
  split at h
  · rename_i hbelow _
    cases h
    exact hbelow
  · rename_i _ habove
    cases h
    exact habove
  · rename_i hbelow habove
    cases h
    split
    · exact hbelow
    · exact habove
  · cases h

theorem units_lt {rank k : Nat} (h : rank < (k + 2) * 2 ^ 52) : units rank < 2 ^ 53 * 2 ^ k := by
  rcases units_eq rank with ⟨hlt, hunits⟩ | ⟨m, e, hlow, hhigh, hunits, hrank⟩
  · rw [hunits]
    calc rank < 2 ^ 53 := by omega
      _ ≤ 2 ^ 53 * 2 ^ k := Nat.le_mul_of_pos_right _ (Nat.two_pow_pos k)
  · have he : e ≤ k := by omega
    rw [hunits]
    calc m * 2 ^ e < 2 ^ 53 * 2 ^ e := Nat.mul_lt_mul_of_pos_right hhigh (Nat.two_pow_pos e)
      _ ≤ 2 ^ 53 * 2 ^ k := Nat.mul_le_mul_left _ (Nat.pow_le_pow_right (by decide) he)

theorem units_pos {rank : Nat} (h : rank ≠ 0) : 0 < units rank := by
  rcases units_eq rank with ⟨-, hunits⟩ | ⟨m, e, hlow, -, hunits, -⟩
  · omega
  · rw [hunits]
    exact Nat.mul_pos (by omega) (Nat.two_pow_pos e)

theorem lt_digitCount {n k : Nat} (hk : 0 < k) (h : 10 ^ k ≤ n) : k < digitCount n := by
  have := (Nat.length_toDigits_le_iff (n := n) (show 1 < 10 by decide) hk).1
  unfold digitCount
  omega

theorem digitCount_le {n k : Nat} (hk : 0 < k) (h : n < 10 ^ k) : digitCount n ≤ k :=
  (Nat.length_toDigits_le_iff (by decide) hk).2 h

/-- The places of a magnitude with all its digits are among those that a decimal is read with. -/
theorem digitCount_exact {rank : Nat} (hpos : rank ≠ 0) (hlt : rank < 2047 * block) :
    743 < digitCount (exact rank).mantissa ∧ digitCount (exact rank).mantissa ≤ 1384 := by
  have hmany : 0 < units rank := units_pos hpos
  have hfew : units rank < 2 ^ 53 * 2 ^ 2045 := units_lt (by rw [block_eq] at hlt; exact hlt)
  have hlow : 10 ^ 743 ≤ Nat.pow 5 1074 := by decide +kernel
  have hhigh : 2 ^ 53 * 2 ^ 2045 * Nat.pow 5 1074 ≤ 10 ^ 1384 := by decide +kernel
  unfold exact
  dsimp only
  constructor
  · refine lt_digitCount (by decide) (hlow.trans ?_)
    exact Nat.le_mul_of_pos_left _ hmany
  · refine digitCount_le (by decide) (Nat.lt_of_lt_of_le ?_ hhigh)
    exact Nat.mul_lt_mul_of_pos_right hfew (Nat.lt_of_lt_of_le (Nat.pow_pos (by decide)) hlow)

theorem readsAs_of_nearestRank {rank : Nat} {d : Decimal} (hlt : rank < 2047 * block)
    (hpos : 0 < d.mantissa) (hlow : -330 ≤ digitCount d.mantissa + d.exponent)
    (hhigh : digitCount d.mantissa + d.exponent ≤ 310)
    (hrank : nearestRank (d.mantissa * Nat.pow 10 d.exponent.toNat * unitsOfOne)
      (Nat.pow 10 (-d.exponent).toNat) = rank) : readsAs rank d := by
  have hinside : ¬(d.mantissa = 0 ∨ (digitCount d.mantissa : Int) + d.exponent < -330) := by omega
  have hfinite : ¬310 < (digitCount d.mantissa : Int) + d.exponent := by omega
  unfold readsAs ofDecimal? ofUnits?
  generalize unitsOfOne = one at *
  simp only [hinside, hfinite, hrank, hlt, if_false, dite_true, Option.any_some, beq_self_eq_true]

-- For any number of places, so that no power has to be formed.
theorem nearestRank_decimal (rank p : Nat) {d : Decimal}
    (hmantissa : d.mantissa = units rank * Nat.pow 5 p) (hexponent : d.exponent = -p) :
    nearestRank (d.mantissa * Nat.pow 10 d.exponent.toNat * 1 <<< p)
      (Nat.pow 10 (-d.exponent).toNat) = rank := by
  have hten : 0 < 10 ^ p := Nat.pow_pos (by decide)
  have hwhole : d.exponent.toNat = 0 := by omega
  have hplaces : (-d.exponent).toNat = p := by omega
  rw [hwhole, hplaces, hmantissa, Nat.pow_eq, Nat.pow_eq, Nat.pow_eq, Nat.pow_zero, Nat.mul_one,
    Nat.one_shiftLeft, Nat.mul_assoc, ← Nat.mul_pow]
  exact nearestRank_units rank hten

/-- With all its digits, a magnitude has as many places after the point as there are powers of two
from the least positive double up to one. -/
theorem exists_places (rank : Nat) : ∃ p : Nat, (exact rank).mantissa = units rank * Nat.pow 5 p ∧
    (exact rank).exponent = -p ∧ unitsOfOne = 1 <<< p :=
  ⟨_, rfl, rfl, rfl⟩

theorem readsAs_exact {rank : Nat} (hpos : rank ≠ 0) (hlt : rank < 2047 * block) :
    readsAs rank (exact rank) := by
  obtain ⟨hlow, hhigh⟩ := digitCount_exact hpos hlt
  obtain ⟨p, hmantissa, hplaces, hone⟩ := exists_places rank
  have hexponent : (exact rank).exponent = -1074 := rfl
  refine readsAs_of_nearestRank hlt ?_ (by omega) (by omega) ?_
  · exact Nat.mul_pos (units_pos hpos) (Nat.pos_of_ne_zero (by decide +kernel))
  · rw [hone]
    exact nearestRank_decimal rank p hmantissa hplaces

/-- The decimal that is chosen for a double reads back as the double. -/
theorem ofDecimal?_shortest (x : Double) (hpos : x.rank ≠ 0) :
    ofDecimal? x.negative (shortest x.rank) = some x := by
  refine ofDecimal?_of_readsAs ?_
  unfold shortest
  cases hfound : (List.range 17).findSome? fun n => withDigits? x.rank (n + 1) with
  | none => exact readsAs_exact hpos x.rank_lt
  | some d =>
    obtain ⟨n, -, hn⟩ := List.exists_of_findSome?_eq_some hfound
    exact readsAs_of_withDigits? hn

end SurrealQuery.Double
