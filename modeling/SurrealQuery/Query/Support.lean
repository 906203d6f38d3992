import SurrealQuery.Error
import SurrealQuery.Query.Basic

/-!
Queries that ask for what the database does not offer.
-/

namespace SurrealQuery

/-- The steps of a transaction. -/
inductive TransactionStep where
  | begin
  | commit
  | cancel
deriving DecidableEq, Repr

namespace TransactionStep

def name : TransactionStep → String
  | .begin => "begin"
  | .commit => "commit"
  | .cancel => "cancel"

def words : List (String × TransactionStep) :=
  [("begin", .begin), ("commit", .commit), ("cancel", .cancel)]

end TransactionStep

mutual

/-- The first unsupported feature of a query: a part of the query as a whole, or else one of its
conditions in order, at any depth. -/
def Query.unsupported? : Query → Option Feature
  | { joins, unions, havings, distinct, lock, conditions, .. } =>
    if !joins.isEmpty then some .join
    else if !unions.isEmpty then some .union
    else if !havings.isEmpty then some .having
    else if distinct then some .distinct
    else if lock.isSome then some .lock
    else unsupportedCondition? conditions

def unsupportedCondition? : List Condition → Option Feature
  | [] => none
  | ⟨_, predicate⟩ :: rest =>
    match predicate.unsupported? with
    | some feature => some feature
    | none => unsupportedCondition? rest

def Predicate.unsupported? : Predicate → Option Feature
  | .bitwise .. => some .bitwise
  | .group conditions => unsupportedCondition? conditions
  | .nonempty query _ => query.unsupported?
  | _ => none

end

/-- Refuses a query with an unsupported feature. -/
def Query.check (q : Query) : Except CompileError Unit :=
  match q.unsupported? with
  | some feature => .error (.unsupported feature)
  | none => .ok ()

end SurrealQuery
