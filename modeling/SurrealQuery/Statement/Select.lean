import SurrealQuery.Operator
import SurrealQuery.Query.Support
import SurrealQuery.Statement.Basic
import SurrealQuery.Statement.Clause

/-!
Conditions and the queries that they filter, which may hold further queries.
-/

namespace SurrealQuery

namespace Clause

def comparison (left : Template) (operator : String) (right : Template) : Template :=
  left ++ .raw (" " ++ Operator.resolve operator ++ " ") ++ right

/-- Membership of a column in a list; an empty list has no members. -/
def membership (column : Column) (negated : Bool) (isEmpty : Bool) (list : Template) : Template :=
  if isEmpty then .raw (if negated then "1 = 1" else "0 = 1")
  else
    column.template ++ .raw (if negated then " CONTAINSNONE [" else " CONTAINS [") ++ list ++
      .raw "]"

def range (column : Column) (negated : Bool) (low high : Template) : Template :=
  column.template ++ .raw (if negated then " NOTINSIDE " else " INSIDE ") ++ low ++
    .raw " AND " ++ high

/-- Conditions that go on a list, each after its connective. -/
def connectedTail : List (Connective × Template) → Template
  | [] => .raw ""
  | (connective, t) :: rest =>
    .raw (" " ++ connective.keyword ++ " ") ++ t ++ connectedTail rest

/-- Conditions one after the other. The first one needs no connective. -/
def connected : List (Connective × Template) → Option Template
  | [] => none
  | (_, t) :: rest => some (t ++ connectedTail rest)

/-- What a query selects: an aggregate, or columns and paths along edges. -/
def selection (q : Query) : Template :=
  match q.aggregate with
  | some aggregate =>
    .wrap ("SELECT " ++ aggregate.function ++ "(") (columns aggregate.columns)
      (") AS " ++ Identifier.quote "aggregate")
  | none =>
    after "SELECT" (columns (q.columns.getD [.name "*"])) ++
      .raw (Text.commaTail q.edges)

/-- What follows the conditions of a query. An aggregate is one row, which is not fetched, timed or
split. -/
def afterConditions (q : Query) : List Template :=
  groups q.groups ++ orders q.orders ++ count "LIMIT" q.limit ++ count "START" q.offset ++
    if q.aggregate.isSome then []
    else names "FETCH" q.fetch ++ execution q.options ++ names "SPLIT" q.split

/-- The clause of a query's conditions. -/
def filter (conditions : Option Template) : List Template :=
  conditions.toList.map (after "WHERE")

/-- A query whose conditions have been compiled. -/
def query (settings : Settings) (q : Query)
    (conditions : Except CompileError (List (Connective × Template))) :
    Except CompileError Template := do
  if q.distinct then
    throw (.unsupported .distinct)
  let table ← settings.table q.target
  let conditions ← conditions
  return .join " " (selection q :: .raw ("FROM " ++ table) ::
    (filter (connected conditions) ++ afterConditions q))

end Clause

mutual

/-- The conditions of a query, those that hold nothing left out. -/
def Query.conditionTemplates (settings : Settings) :
    Query → Except CompileError (List (Connective × Template))
  | { conditions, .. } => conditionTemplates settings conditions

def conditionTemplates (settings : Settings) :
    List Condition → Except CompileError (List (Connective × Template))
  | [] => .ok []
  | ⟨connective, predicate⟩ :: rest => do
    let first ← predicate.template? settings
    let others ← conditionTemplates settings rest
    return (first.toList.map (connective, ·)) ++ others

/-- The template of a predicate; a group without conditions has none. -/
def Predicate.template? (settings : Settings) : Predicate → Except CompileError (Option Template)
  | .compare column operator operand =>
    .ok (some (Clause.comparison column.template operator operand.template))
  | .member column operands negated =>
    .ok (some (Clause.membership column negated operands.isEmpty (Clause.operands operands)))
  | .integerMember column integers negated =>
    .ok (some (Clause.membership column negated integers.isEmpty
      (.raw (Text.commaList (integers.map fun n => String.ofList (Json.intChars n.toInt))))))
  | .null column negated =>
    .ok (some (column.template ++ .raw (if negated then " IS NOT null" else " IS null")))
  | .between column low high negated =>
    .ok (some (Clause.range column negated low.template high.template))
  | .betweenColumns column low high negated =>
    .ok (some (Clause.range column negated low.template high.template))
  | .compareColumns first operator second =>
    .ok (some (Clause.comparison first.template operator second.template))
  | .group conditions => do
    let conditions ← conditionTemplates settings conditions
    return (Clause.connected conditions).map (.wrap "(" · ")")
  | .nonempty query negated => do
    let inner ← Clause.query settings query (query.conditionTemplates settings)
    return some (.wrap ((if negated then "false" else "true") ++ " = <bool> count((") inner "))")
  | .date unit column operator operand =>
    .ok (some (Clause.comparison
      (.wrap "time::group(" column.template (", '" ++ unit.name ++ "')")) operator
      operand.template))
  | .bitwise .. => .error (.unsupported .bitwise)
  | .raw text values => .ok (some (.bound .query text values))

end

/-- The clause of a list of conditions. -/
def Clause.conditions (settings : Settings) (conditions : List Condition) :
    Except CompileError (List Template) := do
  let conditions ← conditionTemplates settings conditions
  return Clause.filter (Clause.connected conditions)

/-- The template of a query. -/
def Query.template (settings : Settings) (q : Query) : Except CompileError Template :=
  Clause.query settings q (q.conditionTemplates settings)

namespace Statement

/-- Selects the results of a query. -/
def select (settings : Settings) (q : Query) : Except CompileError Statement := do
  q.check
  return ⟨.select, ← q.template settings⟩

/-- Selects one row that says whether a query has a result. -/
def existence (settings : Settings) (q : Query) : Except CompileError Statement := do
  q.check
  let inner ← { q with limit := some 1 }.template settings
  return ⟨.select, .wrap
    ("SELECT " ++ Identifier.quote "exists" ++ " FROM \x7bexists: <bool> count((") inner "))\x7d"⟩

end Statement

end SurrealQuery
