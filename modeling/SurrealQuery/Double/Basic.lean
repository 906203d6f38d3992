/-!
Finite double-precision numbers, and the nearest one to a decimal.

A number is kept as its sign and its rank: its place among the finite numbers that are not
negative, counted from zero. Ranks turn rounding into counting, and two numbers are equal exactly
if sign and rank agree, so that zero and negative zero differ.
-/

namespace SurrealQuery

/-- The number of ranks from one power of two to the next, `2 ^ 52`. -/
def Double.block : Nat := 1 <<< 52

/-- A finite double-precision number. -/
structure Double where
  negative : Bool
  /-- The number of smaller finite numbers that are not negative, of the magnitude. -/
  rank : Nat
  rank_lt : rank < 2047 * Double.block
deriving DecidableEq, Repr

/-- The decimal `mantissa * 10 ^ exponent`. -/
structure Decimal where
  mantissa : Nat
  exponent : Int
deriving DecidableEq, Repr

namespace Double

/-- The number one in units of the least positive double, which is `2 ^ -1074`. -/
def unitsOfOne : Nat := 1 <<< 1074

/-- The magnitude of the number of a given rank, in units of the least positive double: each block
of ranks doubles the distance between neighbours. -/
def units (rank : Nat) : Nat :=
  if rank < block then rank else (block + rank % block) <<< (rank / block - 1)

/-- The integer nearest to `num / den`; a half goes to the even neighbour. -/
def roundDiv (num den : Nat) : Nat :=
  let q := num / den
  let r := num % den
  if 2 * r < den then q
  else if den < 2 * r then q + 1
  else if q % 2 = 0 then q else q + 1

/-- The rank whose magnitude is nearest to `num / den` units. -/
def nearestRank (num den : Nat) : Nat :=
  let shift := (num / den).log2 - 52
  roundDiv num (den <<< shift) + shift * block

/-- The nearest double to `num / den` units, unless that lies beyond the largest one. -/
def ofUnits? (negative : Bool) (num den : Nat) : Option Double :=
  if h : nearestRank num den < 2047 * block then some ⟨negative, nearestRank num den, h⟩ else none

/-- Zero, with a sign. -/
def zero (negative : Bool) : Double :=
  ⟨negative, 0, by decide⟩

/-- The largest magnitude. -/
def largest (negative : Bool) : Double :=
  ⟨negative, 2047 * block - 1, by decide⟩

/-- The number of digits of `n` in decimal. -/
def digitCount (n : Nat) : Nat :=
  (Nat.toDigits 10 n).length

/-- The nearest double to a decimal, unless that lies beyond the largest one. Decimals far outside
the range are told by their number of places, before any power of ten is formed. -/
def ofDecimal? (negative : Bool) (d : Decimal) : Option Double :=
  let places : Int := digitCount d.mantissa + d.exponent
  if d.mantissa = 0 ∨ places < -330 then some (zero negative)
  else if 310 < places then none
  else ofUnits? negative (d.mantissa * Nat.pow 10 d.exponent.toNat * unitsOfOne)
    (Nat.pow 10 (-d.exponent).toNat)

/-- The nearest double to an integer; beyond the largest double, the largest. -/
def ofInt (n : Int) : Double :=
  (ofDecimal? (n < 0) ⟨n.natAbs, 0⟩).getD (largest (n < 0))

end Double

end SurrealQuery
