import SurrealQuery.Json.Basic
import SurrealQuery.Double.Shortest

/-!
Numerals: a sign, a whole part without leading zeros, a fraction and an exponent.

A numeral with a fraction or an exponent is read as the nearest double, however many digits it has.
A reader that keeps the digits that fit 64 bits, and multiplies or divides them by a power of ten,
may miss the nearest double from about sixteen digits on, as it does for `51.248178375505404`. What
is proved here about doubles that come back from their text is about reading to nearest. It holds of
such a reader only for the numerals that it reads to nearest as well.
-/

namespace SurrealQuery.Json

/-- The parts of a numeral; `fraction` is empty where there is none. -/
structure Numeral where
  negative : Bool
  whole : List Char
  fraction : List Char
  exponent : Option Int
deriving DecidableEq, Repr

namespace Numeral

/-- The digits at the front of a text and what follows them. -/
def digits (cs : List Char) : List Char × List Char :=
  (cs.takeWhile Char.isDigit, cs.dropWhile Char.isDigit)

/-- As `digits`, with at least one digit. -/
def digits? (cs : List Char) : Option (List Char × List Char) :=
  let (ds, rest) := digits cs
  if ds.isEmpty then none else some (ds, rest)

/-- The whole part: a zero alone, or digits that do not start with one. -/
def scanWhole : List Char → Option (List Char × List Char)
  | '0' :: rest => some (['0'], rest)
  | cs => digits? cs

def scanFraction : List Char → Option (List Char × List Char)
  | '.' :: rest => digits? rest
  | cs => some ([], cs)

/-- The exponent after its mark, with an optional sign. -/
def scanSigned : List Char → Option (Int × List Char)
  | '+' :: rest => (digits? rest).map fun (ds, rest) => (Nat.ofDigitChars 10 ds 0, rest)
  | '-' :: rest => (digits? rest).map fun (ds, rest) => (-(Nat.ofDigitChars 10 ds 0), rest)
  | cs => (digits? cs).map fun (ds, rest) => (Nat.ofDigitChars 10 ds 0, rest)

def scanExponent : List Char → Option (Option Int × List Char)
  | 'e' :: rest => (scanSigned rest).map fun (e, rest) => (some e, rest)
  | 'E' :: rest => (scanSigned rest).map fun (e, rest) => (some e, rest)
  | cs => some (none, cs)

def scanUnsigned (negative : Bool) (cs : List Char) : Option (Numeral × List Char) := do
  let (whole, cs) ← scanWhole cs
  let (fraction, cs) ← scanFraction cs
  let (exponent, cs) ← scanExponent cs
  some (⟨negative, whole, fraction, exponent⟩, cs)

/-- Scans a numeral: its parts, and the text after it. -/
def scan : List Char → Option (Numeral × List Char)
  | '-' :: rest => scanUnsigned true rest
  | cs => scanUnsigned false cs

/-- The nearest double to the numeral, if it is in range; no digit is left out. -/
def double? (n : Numeral) : Option Double :=
  Double.ofDecimal? n.negative
    ⟨Nat.ofDigitChars 10 (n.whole ++ n.fraction) 0, n.exponent.getD 0 - n.fraction.length⟩

/-- What the numeral denotes. Without fraction and exponent it is an integer if that fits 64 bits;
negative zero is a double in any case. -/
def number? (n : Numeral) : Option Number :=
  let magnitude := Nat.ofDigitChars 10 n.whole 0
  if n.fraction.isEmpty ∧ n.exponent.isNone ∧
      (if n.negative then 0 < magnitude ∧ magnitude ≤ 1 <<< 63 else magnitude < 1 <<< 64) then
    some (.int (if n.negative then -magnitude else magnitude))
  else n.double?.map .float

end Numeral

/-- The text of an integer in decimal. -/
def intChars (n : Int) : List Char :=
  (if n < 0 then ['-'] else []) ++ Nat.toDigits 10 n.natAbs

/-- The numeral of a number. -/
def Number.toChars : Number → List Char
  | .int n => intChars n
  | .float x => x.toChars

end SurrealQuery.Json
