import SurrealQuery.Value

/-!
What may stand where a statement wants a value or a column: a bound value or a name, a text taken
as it is, or a function call with values of its own.
-/

namespace SurrealQuery

/-- A text with placeholders, and the values for them in order. -/
structure Call where
  expression : String
  arguments : List Value := []
deriving Repr, Inhabited

/-- What stands in the place of a value. -/
inductive Operand where
  | literal (value : Value)
  | raw (text : String)
  | call (call : Call)
deriving Repr, Inhabited

/-- What stands in the place of a column. -/
inductive Column where
  | name (name : String)
  | raw (text : String)
  | call (call : Call)
deriving Repr, Inhabited

namespace Call

/-- Adds a value for the next placeholder. -/
def bind (c : Call) (value : Value) : Call :=
  { c with arguments := c.arguments ++ [value] }

def toJson (c : Call) : Json :=
  .obj [("expression", .str c.expression), ("bindings", Json.ofList Value.toJson c.arguments)]

def read? (j : Json) : Option Call :=
  match j.fields? ["expression", "bindings"] false with
  | some [expression, arguments] => do
    let expression ← Json.required Json.str? expression
    let arguments ← Json.withDefault [] (Json.list? Value.read?) arguments
    some { expression, arguments }
  | _ => none

end Call

namespace Operand

def toJson : Operand → Json
  | .literal v => .obj [("value", v.toJson)]
  | .raw text => .obj [("raw", .str text)]
  | .call c => .obj [("function", c.toJson)]

/-- Reads an operand: what is no object is a literal, and an object has one key, which says what
stands under it. -/
def read? (j : Json) : Option Operand :=
  if j.legible then
    match j.merged with
    | .obj [("value", v)] => (Value.read? v).map .literal
    | .obj [("raw", text)] => text.str?.map .raw
    | .obj [("function", c)] => (Call.read? c).map .call
    | .obj _ => none
    | j => some (.literal (Value.ofJson j))
  else none

end Operand

namespace Column

def toJson : Column → Json
  | .name s => .str s
  | .raw text => .obj [("raw", .str text)]
  | .call c => .obj [("function", c.toJson)]

/-- Reads a column: a string is a name, and an object has one key, which says what stands under
it. -/
def read? (j : Json) : Option Column :=
  if j.legible then
    match j.merged with
    | .str s => some (.name s)
    | .obj [("name", s)] => s.str?.map .name
    | .obj [("raw", text)] => text.str?.map .raw
    | .obj [("function", c)] => (Call.read? c).map .call
    | _ => none
  else none

/-- Whether the column is the name given. -/
def isNamed (name : String) : Column → Bool
  | .name n => n == name
  | _ => false

end Column

end SurrealQuery
