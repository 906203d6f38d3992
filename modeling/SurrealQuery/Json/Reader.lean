import SurrealQuery.Json.Parser

/-!
Reading trees as values of other types. A reader gives `none` for a tree that it refuses.

Records are read from objects, or from arrays that list the fields in order. A closed set of words
is read from strings. Tagged unions are read from objects with a tag among their members, or from
arrays that start with the tag.
-/

namespace SurrealQuery.Json

/-- Whether a reader sees a text as it comes, or a tree that was taken in whole before. In a whole
tree a tag may also be a variant's number, counted from zero, and the empty object stands in for
`null` beside a word. -/
inductive Origin where
  | text
  | tree
deriving DecidableEq, Repr

variable {α : Type}

def bool? : Json → Option Bool
  | .bool b => some b
  | _ => none

def str? : Json → Option String
  | .str s => some s
  | _ => none

/-- An integer that is written as one. -/
def int? : Json → Option Int
  | .num (.int n) => some n
  | _ => none

def uint64? (j : Json) : Option UInt64 := do
  let n ← j.int?
  if 0 ≤ n ∧ n < 0x10000000000000000 then some (UInt64.ofNat n.toNat) else none

def int64? (j : Json) : Option Int64 := do
  let n ← j.int?
  if -0x8000000000000000 ≤ n ∧ n < 0x8000000000000000 then some (Int64.ofInt n) else none

def list? (read : Json → Option α) : Json → Option (List α)
  | .arr items => items.mapM read
  | _ => none

/-- `null`, or what `read` reads. -/
def nullable? (read : Json → Option α) : Json → Option (Option α)
  | .null => some none
  | j => (read j).map some

/-- The fields of a record under their names, in the given order; a field may be missing. An array
gives the first fields. An object gives each field at most once, and has members of other names
only if the record is open. -/
def fields? (names : List String) (isOpen : Bool) : Json → Option (List (Option Json))
  | .arr items =>
    if items.length ≤ names.length then
      some (items.map some ++ List.replicate (names.length - items.length) none)
    else none
  | .obj members =>
    if names.all (fun name => members.countP (·.1 == name) ≤ 1) &&
        (isOpen || members.all (names.contains ·.1)) then
      some (names.map (members.lookup ·))
    else none
  | _ => none

/-- A field that has to be there. -/
def required (read : Json → Option α) : Option Json → Option α
  | none => none
  | some j => read j

/-- A field that may be left out. -/
def withDefault (default : α) (read : Json → Option α) : Option Json → Option α
  | none => some default
  | some j => read j

/-- A word of a closed set: as a string, or as the key of an object whose only value is `null`. -/
def word? (origin : Origin) (words : List (String × α)) : Json → Option α
  | .str s => words.lookup s
  | .obj [(s, .null)] => words.lookup s
  | .obj [(s, .obj [])] => if origin = .tree then words.lookup s else none
  | _ => none

/-- The variant that a tag names. -/
def variant? (origin : Origin) (variants : List String) : Json → Option String
  | .str s => if variants.contains s then some s else none
  | .num (.int n) => if origin = .tree ∧ 0 ≤ n then variants[n.toNat]? else none
  | _ => none

/-- The members under a key, and the others. -/
def takeKey (key : String) (members : List (String × Json)) : List Json × List (String × Json) :=
  ((members.filter (·.1 == key)).map (·.2), members.filter (·.1 != key))

/-- The variant of a tagged union, and the tree with its fields. The whole tree has to be
legible. -/
def tagged? (origin : Origin) (tag : String) (variants : List String) (j : Json) :
    Option (String × Json) :=
  if j.legible then
    match j with
    | .arr (t :: rest) => (variant? origin variants t).map (·, .arr rest)
    | .obj members =>
      match takeKey tag members with
      | ([t], rest) => (variant? origin variants t).map (·, .obj rest)
      | _ => none
    | _ => none
  else none

/-- Reads a text. -/
def decode (read : Json → Option α) (text : String) : Option α := do
  let j ← parse text
  read j

/-- An optional value, `null` where there is none. -/
def ofOption (toJson : α → Json) : Option α → Json
  | none => .null
  | some a => toJson a

def ofNat (n : Nat) : Json :=
  .num (.int n)

def ofList (toJson : α → Json) (as : List α) : Json :=
  .arr (as.map toJson)

end SurrealQuery.Json
