/-!
Numbers and lists as text.
-/

namespace SurrealQuery.Text

/-- A natural number in decimal. -/
def decimal (n : Nat) : String :=
  String.ofList (Nat.toDigits 10 n)

/-- Texts that go on a list, each after a comma. -/
def commaTail : List String → String
  | [] => ""
  | s :: rest => ", " ++ s ++ commaTail rest

/-- Texts with a comma between them. -/
def commaList : List String → String
  | [] => ""
  | s :: rest => s ++ commaTail rest

end SurrealQuery.Text
