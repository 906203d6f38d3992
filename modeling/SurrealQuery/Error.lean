import SurrealQuery.Identifier
import SurrealQuery.Text.Basic

/-!
Why a description has no statement.
-/

namespace SurrealQuery

/-- What the database does not offer. -/
inductive Feature where
  | join
  | union
  | having
  | distinct
  | bitwise
  | truncate
  | lock
  | savepoint
  | transaction
deriving DecidableEq, Repr

namespace Feature

def all : List Feature :=
  [.join, .union, .having, .distinct, .bitwise, .truncate, .lock, .savepoint, .transaction]

def name : Feature → String
  | .join => "JOIN operations"
  | .union => "UNION operations"
  | .having => "HAVING operations"
  | .distinct => "DISTINCT operations"
  | .bitwise => "bitwise operators"
  | .truncate => "TRUNCATE operations"
  | .lock => "row locks"
  | .savepoint => "savepoints"
  | .transaction => "transactions"

/-- What to use in its place. -/
def hint : Feature → Option String
  | .join | .union => some "Use FETCH or <-/-> instead."
  | .distinct => some "Use GROUP BY instead."
  | _ => none

end Feature

/-- Why a description is refused. -/
inductive CompileError where
  | unsupported (feature : Feature)
  /-- A reference with a record mark that is no record id, or a record id that is wanted. -/
  | invalidRecord (reference : String)
  /-- An upsert by other keys than the record id. -/
  | upsertKeys (given : List String)
  /-- An upsert that does not say what to update. -/
  | upsertUpdate
  /-- An upsert of no record. -/
  | upsertRecords
  /-- A record of a batch, counted from one, with other fields than the first. -/
  | recordFields (number : Nat) (given expected : List String)
deriving DecidableEq, Repr

def CompileError.message : CompileError → String
  | .unsupported feature =>
    "SurrealDB does not support " ++ feature.name ++ "." ++
      (match feature.hint with
      | some hint => " " ++ hint
      | none => "")
  | .invalidRecord reference =>
    "The [" ++ reference ++ "] is not a valid SurrealDB record ID. Should be [table:id]"
  | .upsertKeys given =>
    "SurrealDB only supports upsert on the [id] primary key, " ++
      Text.commaList (given.map Identifier.column) ++ " given."
  | .upsertUpdate => "SurrealDB UPSERT requires the keys to update."
  | .upsertRecords => "SurrealDB UPSERT requires at least one record."
  | .recordFields number given expected =>
    "INSERT records must share the same fields: record " ++ Text.decimal number ++ " has [" ++
      Text.commaList given ++ "], expected [" ++ Text.commaList expected ++ "]."

end SurrealQuery
