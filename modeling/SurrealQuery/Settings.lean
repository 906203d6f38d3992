import SurrealQuery.Json.Reader

/-!
Settings of the compiler.
-/

namespace SurrealQuery

/-- What the compiler can be told once for all statements. -/
structure Settings where
  /-- Stands before every table name. -/
  tablePrefix : String := ""
deriving DecidableEq, Repr, Inhabited

namespace Settings

def toJson (s : Settings) : Json :=
  .obj [("table_prefix", .str s.tablePrefix)]

def read? (j : Json) : Option Settings :=
  match j.fields? ["table_prefix"] true with
  | some [tablePrefix] => do
    let tablePrefix ← Json.withDefault "" Json.str? tablePrefix
    some { tablePrefix }
  | _ => none

end Settings

end SurrealQuery
