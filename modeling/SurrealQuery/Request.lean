import SurrealQuery.Query.Codec
import SurrealQuery.Statement.Write

/-!
Requests: what to do with a query, and how that becomes a statement.
-/

namespace SurrealQuery

/-- A query and what to do with it. -/
inductive Request where
  | select (query : Query)
  | existence (query : Query)
  | insert (query : Query) (batch : Batch)
  | insertOrIgnore (query : Query) (batch : Batch)
  | create (query : Query) (fields : Fields)
  | update (query : Query) (fields : Fields)
  | upsert (query : Query) (batch : Batch) (uniqueBy : List String) (onConflict : OnConflict)
  | delete (query : Query)
  | relate (query : Query) (edge target : String) (fields : Fields)

namespace Request

open Json (required withDefault list? str?)

def variants : List String :=
  ["select", "exists", "insert", "insert_or_ignore", "create", "update", "upsert", "delete",
    "relate"]

/-- A request that is a query alone. -/
def readQuery? (request : Query → Request) (body : Json) : Option Request :=
  match body.fields? ["query"] true with
  | some [query] => (required (Query.read? .tree) query).map request
  | _ => none

/-- A request with records to write. -/
def readBatch? (request : Query → Batch → Request) (body : Json) : Option Request :=
  match body.fields? ["query", "values"] true with
  | some [query, batch] => do
    let query ← required (Query.read? .tree) query
    let batch ← withDefault {} Batch.read? batch
    some (request query batch)
  | _ => none

/-- A request with the fields of one record. -/
def readFields? (request : Query → Fields → Request) (body : Json) : Option Request :=
  match body.fields? ["query", "values"] true with
  | some [query, fields] => do
    let query ← required (Query.read? .tree) query
    let fields ← withDefault .empty Fields.read? fields
    some (request query fields)
  | _ => none

def read? (j : Json) : Option Request := do
  let (variant, body) ← j.tagged? .text "statement" variants
  match variant with
  | "select" => readQuery? .select body
  | "exists" => readQuery? .existence body
  | "insert" => readBatch? .insert body
  | "insert_or_ignore" => readBatch? .insertOrIgnore body
  | "create" => readFields? .create body
  | "update" => readFields? .update body
  | "upsert" =>
    match body.fields? ["query", "values", "unique_by", "update"] true with
    | some [query, batch, uniqueBy, onConflict] => do
      let query ← required (Query.read? .tree) query
      let batch ← required Batch.read? batch
      let uniqueBy ← required (list? str?) uniqueBy
      let onConflict ← required OnConflict.read? onConflict
      some (.upsert query batch uniqueBy onConflict)
    | _ => none
  | "delete" => readQuery? .delete body
  | "relate" =>
    match body.fields? ["query", "edge", "to", "values"] true with
    | some [query, edge, target, fields] => do
      let query ← required (Query.read? .tree) query
      let edge ← required str? edge
      let target ← required str? target
      let fields ← withDefault .empty Fields.read? fields
      some (.relate query edge target fields)
    | _ => none
  | _ => none

/-- The statement of a request. -/
def compile (settings : Settings) : Request → Except CompileError Statement
  | .select query => Statement.select settings query
  | .existence query => Statement.existence settings query
  | .insert query batch => Statement.insert settings query batch
  | .insertOrIgnore query batch => Statement.insertOrIgnore settings query batch
  | .create query fields => Statement.create settings query fields
  | .update query fields => Statement.update settings query fields
  | .upsert query batch uniqueBy onConflict =>
    Statement.upsert settings query batch uniqueBy onConflict
  | .delete query => Statement.delete settings query
  | .relate query edge target fields => Statement.relate query edge target fields

end Request

end SurrealQuery
