import SurrealQuery.Text.Blank

/-!
How names of columns and tables are written.

A name stands between backticks, with a backtick inside it written twice. A name with a point in it
is a path and is written as it is, and so is the name `*`. A name may end in ` AS ` and an alias,
which is quoted on its own.
-/

namespace SurrealQuery.Identifier

/-- Doubles the backticks of a name. -/
def escape (cs : List Char) : List Char :=
  cs.flatMap fun c => if c = '`' then ['`', '`'] else [c]

/-- A name between backticks, except for `*`. -/
def quote (name : String) : String :=
  if name = "*" then name else String.ofList ('`' :: (escape name.toList ++ ['`']))

/-- The alias after a marker at the front of a text: blanks, the word `AS` in any case, blanks. The
long s counts as the letter in another case. -/
def aliasAfter? : List Char → Option (List Char)
  | c :: cs =>
    if Text.isBlank c then
      match cs.dropWhile Text.isBlank with
      | a :: s :: blank :: rest =>
        if (a = 'a' ∨ a = 'A') ∧ (s = 's' ∨ s = 'S' ∨ s = 'ſ') ∧ Text.isBlank blank then
          some (rest.dropWhile Text.isBlank)
        else none
      | _ => none
    else none
  | [] => none

/-- Splits a name at its first alias marker. -/
def splitAlias : List Char → List Char × Option (List Char)
  | [] => ([], none)
  | c :: cs =>
    match aliasAfter? (c :: cs) with
    | some found => ([], some found)
    | none =>
      let (base, found) := splitAlias cs
      (c :: base, found)

/-- A name without alias: a path as it is, and any other name quoted. -/
def path (name : String) : String :=
  if name.toList.contains '.' then name else quote name

/-- A name with the alias that it may have; `aliasPrefix` stands before the alias. -/
def withAlias (aliasPrefix : String) (name : String) : String :=
  match splitAlias name.toList with
  | (base, some found) =>
    path (String.ofList base) ++ " AS " ++ quote (aliasPrefix ++ String.ofList found)
  | (base, none) => path (String.ofList base)

/-- The name of a column. -/
def column (name : String) : String :=
  withAlias "" name

end SurrealQuery.Identifier
