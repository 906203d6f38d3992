import SurrealQuery.Text.Blank

/-!
Operators, and the words that may be written for them.
-/

namespace SurrealQuery.Operator

/-- The operators of the language. -/
def all : List String := [
  "=", "!=", "==", "?=", "*=", "~", "!~", "?~", "*~", "<", "<=", ">", ">=", "+", "-", "*", "/",
  "**", "&&", "||", "∋", "∌", "⊇", "⊃", "⊅", "∈", "∉", "⊆", "⊂", "⊄", "OUTSIDE", "INTERSECTS"]

/-- Words and the operators that they stand for. -/
def aliases : List (String × String) := [
  ("IS", "="), ("IS NOT", "!="), ("AND", "&&"), ("OR", "||"),
  ("CONTAINS", "∋"), ("CONTAINSNOT", "∌"), ("CONTAINSALL", "⊇"), ("CONTAINSANY", "⊃"),
  ("CONTAINSNONE", "⊅"), ("INSIDE", "∈"), ("NOTINSIDE", "∉"), ("ALLINSIDE", "⊆"),
  ("ANYINSIDE", "⊂"), ("NONEINSIDE", "⊄")]

/-- The words of a token with one space between them. -/
def normalize (token : String) : List Char :=
  [' '].intercalate (Text.words token.toList)

/-- The operator that a token means. A word is known in any case and spacing, and a token that is
no such word stands for itself. -/
def resolve (token : String) : String :=
  match aliases.find? fun (word, _) => Text.sameLetters word.toList (normalize token) with
  | some (_, operator) => operator
  | none => token

end SurrealQuery.Operator
