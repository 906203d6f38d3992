import SurrealQuery.Fields
import SurrealQuery.Query.Basic
import SurrealQuery.RecordId
import SurrealQuery.Settings
import SurrealQuery.Template
import SurrealQuery.Text.Upper

/-!
The clauses that statements are made of.
-/

namespace SurrealQuery

/-- A reference to a table or a record: a record is written as a string literal and a table as an
identifier, both after the table prefix. -/
def Settings.table (s : Settings) (reference : String) : Except CompileError String :=
  if isRecordReference reference then do
    let _ ← RecordId.parse reference
    return Json.quote (s.tablePrefix ++ reference)
  else .ok (Identifier.withAlias s.tablePrefix (s.tablePrefix ++ reference))

/-- The template of a column: a quoted name, or a call with its own values. -/
def Column.template : Column → Template
  | .name s => .raw (Identifier.column s)
  | .raw text => .raw text
  | .call c => .bound .function c.expression c.arguments

namespace Clause

def columns (columns : List Column) : Template :=
  .join ", " (columns.map Column.template)

def operands (operands : List Operand) : Template :=
  .join ", " (operands.map Operand.template)

/-- Puts a clause behind a keyword. -/
def after (keyword : String) (t : Template) : Template :=
  .raw (keyword ++ " ") ++ t

/-- A clause over a list, left out if there is nothing in the list. -/
def overList {α : Type} (clause : List α → Template) : List α → List Template
  | [] => []
  | as => [clause as]

def groups : List Column → List Template :=
  overList fun cs => after "GROUP BY" (columns cs)

def orderTerm : OrderTerm → Template
  | .raw text => .raw text
  | .random => .raw "RAND()"
  | .byColumn column kind direction =>
    column.template ++
      .raw ((match kind with
        | some kind => " " ++ Text.upper kind
        | none => "") ++ " " ++ direction.keyword)

def orders : List OrderTerm → List Template :=
  overList fun terms => after "ORDER BY" (.join ", " (terms.map orderTerm))

def count (keyword : String) (n : Option UInt64) : List Template :=
  n.toList.map fun n => .raw (keyword ++ " " ++ Text.decimal n.toNat)

def names (keyword : String) : List String → List Template :=
  overList fun fields => .raw (keyword ++ " " ++ Text.commaList fields)

/-- What a write gives back. -/
def returning (o : Options) : List Template :=
  o.returning.toList.map fun mode => .raw ("RETURN " ++ mode.keyword)

/-- How a statement is run. -/
def execution (o : Options) : List Template :=
  (o.timeout.toList.map fun d => .raw ("TIMEOUT " ++ d.render)) ++
    (if o.parallel then [.raw "PARALLEL"] else [])

/-- The options of a write. -/
def options (o : Options) : List Template :=
  returning o ++ execution o

/-- The fields of one new record, as an object with literal keys. -/
def content : Fields → List Template
  | ⟨[], _⟩ => []
  | ⟨entries, _⟩ =>
    let member : String × Operand → Template := fun (key, operand) =>
      .raw (Json.quote key ++ " : ") ++ operand.template
    [.wrap "CONTENT \x7b " (.join ", " (entries.map member)) " \x7d"]

/-- The fields to set in records. -/
def assignments (f : Fields) : Template :=
  let assignment : String × Operand → Template := fun (key, operand) =>
    .raw (Identifier.column key ++ " = ") ++ operand.template
  .join ", " (f.entries.map assignment)

end Clause

end SurrealQuery
