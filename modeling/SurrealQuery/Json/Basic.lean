import SurrealQuery.Double.Basic
import SurrealQuery.Sorted

/-!
JSON trees as they are written: members in document order, repeated keys included.

A text may be well formed and yet hold parts that denote nothing: a number beyond the largest
double, a string with half a surrogate pair, nesting beyond the limit. Such a part is a leaf of its
own, `unreadable`: whoever looks at it refuses it, and whoever skips it does not mind.
-/

namespace SurrealQuery

/-- A number: an integer if it is written as one and fits 64 bits, signed or unsigned. -/
inductive Json.Number where
  | int (n : Int)
  | float (x : Double)
deriving DecidableEq, Repr

/-- A JSON tree. -/
inductive Json where
  | null
  | bool (b : Bool)
  | num (n : Json.Number)
  | str (s : String)
  | arr (items : List Json)
  | obj (members : List (String × Json))
  | unreadable
deriving Repr, Inhabited

namespace Json

mutual

/-- Whether every part of the tree denotes something. -/
def legible : Json → Bool
  | .arr items => legibleItems items
  | .obj members => legibleMembers members
  | .unreadable => false
  | _ => true

def legibleItems : List Json → Bool
  | [] => true
  | j :: rest => j.legible && legibleItems rest

def legibleMembers : List (String × Json) → Bool
  | [] => true
  | (_, j) :: rest => j.legible && legibleMembers rest

end

mutual

/-- The number of containers around the innermost part, the tree itself included. -/
def depth : Json → Nat
  | .arr items => depthItems items + 1
  | .obj members => depthMembers members + 1
  | _ => 0

def depthItems : List Json → Nat
  | [] => 0
  | j :: rest => max j.depth (depthItems rest)

def depthMembers : List (String × Json) → Nat
  | [] => 0
  | (_, j) :: rest => max j.depth (depthMembers rest)

end

mutual

/-- Merges repeated keys at every level, the last one winning, and sorts the members by key. -/
def merged : Json → Json
  | .arr items => .arr (mergedItems items)
  | .obj members => .obj (Sorted.ofList (mergedMembers members))
  | j => j

def mergedItems : List Json → List Json
  | [] => []
  | j :: rest => j.merged :: mergedItems rest

def mergedMembers : List (String × Json) → List (String × Json)
  | [] => []
  | (k, j) :: rest => (k, j.merged) :: mergedMembers rest

end

end Json

end SurrealQuery
