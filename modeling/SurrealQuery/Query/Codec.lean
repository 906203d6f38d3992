import SurrealQuery.Query.Basic

/-!
Queries as JSON.
-/

namespace SurrealQuery

open Json (required withDefault nullable? list? str? bool? uint64? int64? word?)

/-! ## Writing -/

def Aggregate.toJson (a : Aggregate) : Json :=
  .obj [("function", .str a.function), ("columns", Json.ofList Column.toJson a.columns)]

def Options.toJson (o : Options) : Json :=
  .obj [
    ("returning", Json.ofOption (fun mode => .str mode.name) o.returning),
    ("timeout", Json.ofOption Duration.toJson o.timeout),
    ("parallel", .bool o.parallel)]

def OrderTerm.toJson : OrderTerm → Json
  | .raw text => .obj [("type", .str "raw"), ("sql", .str text)]
  | .byColumn column kind direction =>
    .obj [("type", .str "column"), ("column", column.toJson), ("kind", Json.ofOption .str kind),
      ("direction", .str direction.name)]
  | .random => .obj [("type", .str "random")]

mutual

def Query.toJson : Query → Json
  | { target, columns, conditions, groups, orders, limit, offset, aggregate, edges, fetch, split,
      options, joins, unions, havings, lock, distinct } =>
    .obj [
      ("from", .str target),
      ("columns", Json.ofOption (Json.ofList Column.toJson) columns),
      ("wheres", .arr (conditionsToJson conditions)),
      ("groups", Json.ofList Column.toJson groups),
      ("orders", Json.ofList OrderTerm.toJson orders),
      ("limit", Json.ofOption (fun n => Json.ofNat n.toNat) limit),
      ("offset", Json.ofOption (fun n => Json.ofNat n.toNat) offset),
      ("aggregate", Json.ofOption Aggregate.toJson aggregate),
      ("graph_edges", Json.ofList .str edges),
      ("fetch", Json.ofList .str fetch),
      ("split", Json.ofList .str split),
      ("flags", options.toJson),
      ("joins", Json.ofList .str joins),
      ("unions", .arr (queriesToJson unions)),
      ("havings", Json.ofList .str havings),
      ("lock", Json.ofOption (fun mode => .str mode.name) lock),
      ("distinct", .bool distinct)]

def queriesToJson : List Query → List Json
  | [] => []
  | q :: rest => q.toJson :: queriesToJson rest

def Condition.toJson : Condition → Json
  | ⟨connective, predicate⟩ => .obj (("boolean", .str connective.name) :: predicate.toMembers)

def conditionsToJson : List Condition → List Json
  | [] => []
  | c :: rest => c.toJson :: conditionsToJson rest

/-- The members of a predicate's object, the tag first. -/
def Predicate.toMembers : Predicate → List (String × Json)
  | .compare column operator operand =>
    [("type", .str "basic"), ("column", column.toJson), ("operator", .str operator),
      ("value", operand.toJson)]
  | .member column operands negated =>
    [("type", .str (if negated then "not_in" else "in")), ("column", column.toJson),
      ("values", Json.ofList Operand.toJson operands)]
  | .integerMember column integers negated =>
    [("type", .str (if negated then "not_in_raw" else "in_raw")), ("column", column.toJson),
      ("values", Json.ofList (fun n => .num (.int n.toInt)) integers)]
  | .null column negated =>
    [("type", .str (if negated then "not_null" else "null")), ("column", column.toJson)]
  | .between column low high negated =>
    [("type", .str "between"), ("column", column.toJson), ("low", low.toJson),
      ("high", high.toJson), ("negated", .bool negated)]
  | .betweenColumns column low high negated =>
    [("type", .str "between_columns"), ("column", column.toJson), ("low", low.toJson),
      ("high", high.toJson), ("negated", .bool negated)]
  | .compareColumns first operator second =>
    [("type", .str "column"), ("first", first.toJson), ("operator", .str operator),
      ("second", second.toJson)]
  | .group conditions =>
    [("type", .str "nested"), ("wheres", .arr (conditionsToJson conditions))]
  | .nonempty query negated =>
    [("type", .str "exists"), ("query", query.toJson), ("negated", .bool negated)]
  | .date unit column operator operand =>
    [("type", .str "date"), ("unit", .str unit.name), ("column", column.toJson),
      ("operator", .str operator), ("value", operand.toJson)]
  | .bitwise column operator operand =>
    [("type", .str "bitwise"), ("column", column.toJson), ("operator", .str operator),
      ("value", operand.toJson)]
  | .raw text values =>
    [("type", .str "raw"), ("sql", .str text), ("bindings", Json.ofList Value.toJson values)]

end

def Predicate.toJson (p : Predicate) : Json :=
  .obj p.toMembers

/-! ## Reading -/

def Aggregate.read? (j : Json) : Option Aggregate :=
  match j.fields? ["function", "columns"] true with
  | some [function, columns] => do
    let function ← required str? function
    let columns ← required (list? Column.read?) columns
    some { function, columns }
  | _ => none

def Options.read? (origin : Json.Origin) (j : Json) : Option Options :=
  match j.fields? ["returning", "timeout", "parallel"] true with
  | some [returning, timeout, parallel] => do
    let returning ← withDefault none (nullable? (word? origin ReturnMode.words)) returning
    let timeout ← withDefault none (nullable? Duration.read?) timeout
    let parallel ← withDefault false bool? parallel
    some { returning, timeout, parallel }
  | _ => none

def OrderTerm.variants : List String :=
  ["raw", "column", "random"]

def OrderTerm.read? (origin : Json.Origin) (j : Json) : Option OrderTerm := do
  let (variant, body) ← j.tagged? origin "type" OrderTerm.variants
  match variant with
  | "raw" =>
    match body.fields? ["sql"] true with
    | some [text] => (required str? text).map .raw
    | _ => none
  | "column" =>
    match body.fields? ["column", "kind", "direction"] true with
    | some [column, kind, direction] => do
      let column ← required Column.read? column
      let kind ← withDefault none (nullable? str?) kind
      let direction ← withDefault .asc (word? .tree Direction.words) direction
      some (.byColumn column kind direction)
    | _ => none
  | "random" => (body.fields? [] true).map fun _ => .random
  | _ => none

def Query.fieldNames : List String :=
  ["from", "columns", "wheres", "groups", "orders", "limit", "offset", "aggregate", "graph_edges",
    "fetch", "split", "flags", "joins", "unions", "havings", "lock", "distinct"]

def Predicate.variants : List String :=
  ["basic", "in", "not_in", "in_raw", "not_in_raw", "null", "not_null", "between",
    "between_columns", "column", "nested", "exists", "date", "bitwise", "raw"]

def Predicate.readMember? (negated : Bool) (body : Json) : Option Predicate :=
  match body.fields? ["column", "values"] true with
  | some [column, operands] => do
    let column ← required Column.read? column
    let operands ← required (list? Operand.read?) operands
    some (.member column operands negated)
  | _ => none

def Predicate.readIntegerMember? (negated : Bool) (body : Json) : Option Predicate :=
  match body.fields? ["column", "values"] true with
  | some [column, integers] => do
    let column ← required Column.read? column
    let integers ← required (list? int64?) integers
    some (.integerMember column integers negated)
  | _ => none

def Predicate.readNull? (negated : Bool) (body : Json) : Option Predicate :=
  match body.fields? ["column"] true with
  | some [column] => (required Column.read? column).map (.null · negated)
  | _ => none

/-- Reads the fields of a predicate that holds no conditions of its own. -/
def Predicate.readFlat? (variant : String) (body : Json) : Option Predicate :=
  match variant with
  | "basic" =>
    match body.fields? ["column", "operator", "value"] true with
    | some [column, operator, operand] => do
      let column ← required Column.read? column
      let operator ← required str? operator
      let operand ← required Operand.read? operand
      some (.compare column operator operand)
    | _ => none
  | "in" => readMember? false body
  | "not_in" => readMember? true body
  | "in_raw" => readIntegerMember? false body
  | "not_in_raw" => readIntegerMember? true body
  | "null" => readNull? false body
  | "not_null" => readNull? true body
  | "between" =>
    match body.fields? ["column", "low", "high", "negated"] true with
    | some [column, low, high, negated] => do
      let column ← required Column.read? column
      let low ← required Operand.read? low
      let high ← required Operand.read? high
      let negated ← withDefault false bool? negated
      some (.between column low high negated)
    | _ => none
  | "between_columns" =>
    match body.fields? ["column", "low", "high", "negated"] true with
    | some [column, low, high, negated] => do
      let column ← required Column.read? column
      let low ← required Column.read? low
      let high ← required Column.read? high
      let negated ← withDefault false bool? negated
      some (.betweenColumns column low high negated)
    | _ => none
  | "column" =>
    match body.fields? ["first", "operator", "second"] true with
    | some [first, operator, second] => do
      let first ← required Column.read? first
      let operator ← required str? operator
      let second ← required Column.read? second
      some (.compareColumns first operator second)
    | _ => none
  | "date" =>
    match body.fields? ["unit", "column", "operator", "value"] true with
    | some [unit, column, operator, operand] => do
      let unit ← required (word? .tree DateUnit.words) unit
      let column ← required Column.read? column
      let operator ← required str? operator
      let operand ← required Operand.read? operand
      some (.date unit column operator operand)
    | _ => none
  | "bitwise" =>
    match body.fields? ["column", "operator", "value"] true with
    | some [column, operator, operand] => do
      let column ← required Column.read? column
      let operator ← required str? operator
      let operand ← required Operand.read? operand
      some (.bitwise column operator operand)
    | _ => none
  | "raw" =>
    match body.fields? ["sql", "bindings"] true with
    | some [text, values] => do
      let text ← required str? text
      let values ← withDefault [] (list? Value.read?) values
      some (.raw text values)
    | _ => none
  | _ => none

mutual

/-- Reads a query; `fuel` bounds the nesting of queries, conditions and predicates. -/
def Query.readWithin? : (fuel : Nat) → Json.Origin → Json → Option Query
  | 0, _, _ => none
  | fuel + 1, origin, j =>
    match j.fields? Query.fieldNames true with
    | some [target, columns, conditions, groups, orders, limit, offset, aggregate, edges, fetch,
        split, options, joins, unions, havings, lock, distinct] => do
      let target ← withDefault "" str? target
      let columns ← withDefault none (nullable? (list? Column.read?)) columns
      let conditions ← withDefault [] (list? (Condition.readWithin? fuel origin)) conditions
      let groups ← withDefault [] (list? Column.read?) groups
      let orders ← withDefault [] (list? (OrderTerm.read? origin)) orders
      let limit ← withDefault none (nullable? uint64?) limit
      let offset ← withDefault none (nullable? uint64?) offset
      let aggregate ← withDefault none (nullable? Aggregate.read?) aggregate
      let edges ← withDefault [] (list? str?) edges
      let fetch ← withDefault [] (list? str?) fetch
      let split ← withDefault [] (list? str?) split
      let options ← withDefault {} (Options.read? origin) options
      let joins ← withDefault [] (list? str?) joins
      let unions ← withDefault [] (list? (Query.readWithin? fuel origin)) unions
      let havings ← withDefault [] (list? str?) havings
      let lock ← withDefault none (nullable? (word? origin LockMode.words)) lock
      let distinct ← withDefault false bool? distinct
      some { target, columns, conditions, groups, orders, limit, offset, aggregate, edges, fetch,
             split, options, joins, unions, havings, lock, distinct }
    | _ => none

/-- Reads a condition: an object with the fields of a predicate and a connective among them. -/
def Condition.readWithin? : (fuel : Nat) → Json.Origin → Json → Option Condition
  | 0, _, _ => none
  | fuel + 1, origin, j =>
    match j with
    | .obj members =>
      if j.legible then
        match Json.takeKey "boolean" members with
        | ([], rest) => (Predicate.readWithin? fuel .tree (.obj rest)).map (⟨.and, ·⟩)
        | ([connective], rest) => do
          let connective ← word? origin Connective.words connective
          let predicate ← Predicate.readWithin? fuel .tree (.obj rest)
          some { connective, predicate }
        | _ => none
      else none
    | _ => none

def Predicate.readWithin? : (fuel : Nat) → Json.Origin → Json → Option Predicate
  | 0, _, _ => none
  | fuel + 1, origin, j => do
    let (variant, body) ← j.tagged? origin "type" Predicate.variants
    match variant with
    | "nested" =>
      match body.fields? ["wheres"] true with
      | some [conditions] =>
        (required (list? (Condition.readWithin? fuel .tree)) conditions).map .group
      | _ => none
    | "exists" =>
      match body.fields? ["query", "negated"] true with
      | some [query, negated] => do
        let query ← required (Query.readWithin? fuel .tree) query
        let negated ← withDefault false bool? negated
        some (.nonempty query negated)
      | _ => none
    | _ => Predicate.readFlat? variant body

end

def Query.read? (origin : Json.Origin) (j : Json) : Option Query :=
  Query.readWithin? (j.depth + 1) origin j

def Condition.read? (origin : Json.Origin) (j : Json) : Option Condition :=
  Condition.readWithin? (j.depth + 1) origin j

def Predicate.read? (origin : Json.Origin) (j : Json) : Option Predicate :=
  Predicate.readWithin? (j.depth + 1) origin j

end SurrealQuery
