import SurrealQuery.Json.Numeral
import SurrealQuery.Json.Quoted

/-!
From trees to JSON text: on one line without blanks, or with one item a line.
-/

namespace SurrealQuery.Json

mutual

/-- The text of a tree on one line. -/
def toChars : Json → List Char
  | .null | .unreadable => "null".toList
  | .bool true => "true".toList
  | .bool false => "false".toList
  | .num n => n.toChars
  | .str s => Quoted.encode s.toList
  | .arr [] => ['[', ']']
  | .arr (j :: rest) => '[' :: (j.toChars ++ restItems rest)
  | .obj [] => ['\x7b', '\x7d']
  | .obj ((k, j) :: rest) =>
    '\x7b' :: (Quoted.encode k.toList ++ ':' :: (j.toChars ++ restMembers rest))

/-- The items after the first, up to the end of their array. -/
def restItems : List Json → List Char
  | [] => [']']
  | j :: rest => ',' :: (j.toChars ++ restItems rest)

/-- The members after the first, up to the end of their object. -/
def restMembers : List (String × Json) → List Char
  | [] => ['\x7d']
  | (k, j) :: rest => ',' :: (Quoted.encode k.toList ++ ':' :: (j.toChars ++ restMembers rest))

end

/-- The text of a tree on one line. -/
def render (j : Json) : String :=
  String.ofList j.toChars

/-- The literal of a text. -/
def quote (s : String) : String :=
  String.ofList (Quoted.encode s.toList)

/-- A new line, indented by two blanks a level. -/
def newLine (level : Nat) : List Char :=
  '\n' :: List.replicate (2 * level) ' '

mutual

/-- The text of a tree whose first line stands at an indentation level. -/
def prettyChars (level : Nat) : Json → List Char
  | .arr (j :: rest) =>
    '[' :: (newLine (level + 1) ++ (j.prettyChars (level + 1) ++ prettyItems level rest))
  | .obj ((k, j) :: rest) =>
    '\x7b' :: (newLine (level + 1) ++ (Quoted.encode k.toList ++
      ':' :: ' ' :: (j.prettyChars (level + 1) ++ prettyMembers level rest)))
  | j => j.toChars

def prettyItems (level : Nat) : List Json → List Char
  | [] => newLine level ++ [']']
  | j :: rest =>
    ',' :: (newLine (level + 1) ++ (j.prettyChars (level + 1) ++ prettyItems level rest))

def prettyMembers (level : Nat) : List (String × Json) → List Char
  | [] => newLine level ++ ['\x7d']
  | (k, j) :: rest =>
    ',' :: (newLine (level + 1) ++ (Quoted.encode k.toList ++
      ':' :: ' ' :: (j.prettyChars (level + 1) ++ prettyMembers level rest)))

end

/-- The text of a tree with one item or member a line; empty containers stay on theirs. -/
def renderPretty (j : Json) : String :=
  String.ofList (j.prettyChars 0)

end SurrealQuery.Json
