import SurrealQuery.Json.Numeral
import SurrealQuery.Json.Quoted

/-!
From JSON text to trees.
-/

namespace SurrealQuery.Json

/-- Containers nested deeper than this cannot be read. -/
def nestingLimit : Nat := 127

/-- Drops the blanks that may stand between tokens. -/
def skipBlanks (cs : List Char) : List Char :=
  cs.dropWhile fun c => c = ' ' ∨ c = '\t' ∨ c = '\n' ∨ c = '\r'

/-- A string literal after its opening quote; `none` inside means that it spells no text. -/
def parseString (cs : List Char) : Option (Option String × List Char) := do
  let (items, rest) ← Quoted.scan cs
  some ((Quoted.spell items).map String.ofList, rest)

/-- An array, if `room` leaves a level for it. -/
def arrayOf (room : Nat) (items : List Json) : Json :=
  if room = 0 then .unreadable else .arr items

/-- The members of an object, if all keys can be read. -/
def readKeys : List (Option String × Json) → Option (List (String × Json))
  | [] => some []
  | (none, _) :: _ => none
  | (some k, j) :: rest => (readKeys rest).map ((k, j) :: ·)

/-- An object, if `room` leaves a level for it and all keys can be read. -/
def objectOf (room : Nat) (members : List (Option String × Json)) : Json :=
  if room = 0 then .unreadable else (readKeys members).elim .unreadable .obj

mutual

/-- Parses a value below which `room` levels of containers may open. `fuel` bounds the number of
steps; twice the length of the text is enough. -/
def parseValue : (fuel room : Nat) → List Char → Option (Json × List Char)
  | 0, _, _ => none
  | fuel + 1, room, cs =>
    match skipBlanks cs with
    | 'n' :: 'u' :: 'l' :: 'l' :: rest => some (.null, rest)
    | 't' :: 'r' :: 'u' :: 'e' :: rest => some (.bool true, rest)
    | 'f' :: 'a' :: 'l' :: 's' :: 'e' :: rest => some (.bool false, rest)
    | '"' :: rest => do
      let (s, rest) ← parseString rest
      some (s.elim .unreadable .str, rest)
    | '[' :: rest =>
      match skipBlanks rest with
      | ']' :: rest => some (arrayOf room [], rest)
      | rest => do
        let (items, rest) ← parseItems fuel (room - 1) rest
        some (arrayOf room items, rest)
    | '{' :: rest =>
      match skipBlanks rest with
      | '}' :: rest => some (objectOf room [], rest)
      | rest => do
        let (members, rest) ← parseMembers fuel (room - 1) rest
        some (objectOf room members, rest)
    | cs => do
      let (numeral, rest) ← Numeral.scan cs
      some (numeral.number?.elim .unreadable .num, rest)

/-- Parses one or more items up to the end of their array. -/
def parseItems : (fuel room : Nat) → List Char → Option (List Json × List Char)
  | 0, _, _ => none
  | fuel + 1, room, cs => do
    let (item, rest) ← parseValue fuel room cs
    match skipBlanks rest with
    | ',' :: rest =>
      let (items, rest) ← parseItems fuel room rest
      some (item :: items, rest)
    | ']' :: rest => some ([item], rest)
    | _ => none

/-- Parses one or more members up to the end of their object. -/
def parseMembers : (fuel room : Nat) → List Char → Option (List (Option String × Json) × List Char)
  | 0, _, _ => none
  | fuel + 1, room, cs =>
    match skipBlanks cs with
    | '"' :: rest => do
      let (key, rest) ← parseString rest
      match skipBlanks rest with
      | ':' :: rest =>
        let (value, rest) ← parseValue fuel room rest
        match skipBlanks rest with
        | ',' :: rest =>
          let (members, rest) ← parseMembers fuel room rest
          some ((key, value) :: members, rest)
        | '}' :: rest => some ([(key, value)], rest)
        | _ => none
      | _ => none
    | _ => none

end

/-- The tree that a text writes, if the text is well formed. -/
def parse (text : String) : Option Json := do
  let cs := text.toList
  let (j, rest) ← parseValue (2 * cs.length + 2) nestingLimit cs
  if (skipBlanks rest).isEmpty then some j else none

end SurrealQuery.Json
