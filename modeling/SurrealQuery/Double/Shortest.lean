import SurrealQuery.Double.Basic

/-!
The shortest decimal that reads back as a given double, and its text.
-/

namespace SurrealQuery.Double

/-- The number of places before the decimal point: the magnitude lies below `10 ^ places`, and not
below `10 ^ (places - 1)`. It is negative where zeros follow the point. -/
def places (rank : Nat) : Int :=
  if unitsOfOne ≤ units rank then digitCount (units rank / unitsOfOne)
  else 1 - digitCount (unitsOfOne / units rank)

/-- Whether a decimal reads back as the magnitude of a given rank. -/
def readsAs (rank : Nat) (d : Decimal) : Bool :=
  (ofDecimal? false d).any (·.rank == rank)

/-- The decimal with `n` digits that is nearest to the magnitude, if it is one of the two
neighbours on that grid and reads back; a tie goes to the even mantissa. -/
def withDigits? (rank n : Nat) : Option Decimal :=
  let grid := places rank - n
  let num := units rank * Nat.pow 10 (-grid).toNat
  let den := unitsOfOne * Nat.pow 10 grid.toNat
  let below : Decimal := ⟨num / den, grid⟩
  let above : Decimal := ⟨num / den + 1, grid⟩
  match readsAs rank below, readsAs rank above with
  | true, false => some below
  | false, true => some above
  | true, true => some (if roundDiv num den = num / den then below else above)
  | false, false => none

/-- The magnitude itself as a decimal, with all its digits. -/
def exact (rank : Nat) : Decimal :=
  ⟨units rank * Nat.pow 5 1074, -1074⟩

/-- The decimal with the fewest digits that reads back as the magnitude, the nearest of those.
Seventeen digits are enough for every double. -/
def shortest (rank : Nat) : Decimal :=
  ((List.range 17).findSome? fun n => withDigits? rank (n + 1)).getD (exact rank)

/-- A decimal with the point after the first of its `digits`, times `10 ^ exponent`: in positional
notation with at least one digit on either side of the point for exponents from -5 to 15, and in
exponential notation with a signed exponent beyond. -/
def layout (digits : List Char) (exponent : Int) : List Char :=
  if -5 ≤ exponent ∧ exponent < 0 then
    ['0', '.'] ++ List.replicate (-exponent - 1).toNat '0' ++ digits
  else if 0 ≤ exponent ∧ exponent ≤ 15 then
    let before := exponent.toNat + 1
    let padded := digits ++ List.replicate (before - digits.length) '0'
    let after := padded.drop before
    padded.take before ++ ['.'] ++ (if after.isEmpty then ['0'] else after)
  else
    let fraction := digits.drop 1
    digits.take 1 ++ (if fraction.isEmpty then [] else '.' :: fraction) ++
      ['e', if exponent < 0 then '-' else '+'] ++ Nat.toDigits 10 exponent.natAbs

/-- The text of a double: the shortest decimal that reads back, with its sign. -/
def toChars (x : Double) : List Char :=
  let sign := if x.negative then ['-'] else []
  if x.rank = 0 then sign ++ ['0', '.', '0']
  else
    let d := shortest x.rank
    let digits := Nat.toDigits 10 d.mantissa
    let trimmed := (digits.reverse.dropWhile (· == '0')).reverse
    sign ++ layout trimmed (digits.length + d.exponent - 1)

end SurrealQuery.Double
