import SurrealQuery.Query.Basic
import SurrealQuery.RecordId

/-!
Building queries step by step.
-/

namespace SurrealQuery

/-- Joins a condition to those before it by `OR`. -/
def Condition.or (c : Condition) : Condition :=
  { c with connective := .or }

namespace Query

/-- A query over a table. -/
def table (name : String) : Query :=
  { target := name }

/-- A query over one record. -/
def record (reference : String) : Except CompileError Query := do
  let id ← RecordId.parse reference
  return table id.toString

/-- Adds a condition. -/
def filter (q : Query) (c : Condition) : Query :=
  { q with conditions := q.conditions ++ [c] }

/-- A query that finds a record by its id among the records of its table. -/
def find (reference : String) : Except CompileError Query := do
  let id ← RecordId.parse reference
  let sameId : Predicate := .compare (.name "id") "=" (.literal (.text id.toString))
  return { (table id.table).filter { predicate := sameId } with limit := some 1 }

/-- Adds a column to those selected so far, which are none if all were. -/
def addColumn (q : Query) (column : Column) : Query :=
  { q with columns := some (q.columns.getD [] ++ [column]) }

/-- Adds columns to group by. -/
def groupBy (q : Query) (columns : List Column) : Query :=
  { q with groups := q.groups ++ columns }

/-- Adds a term to order by. -/
def orderBy (q : Query) (term : OrderTerm) : Query :=
  { q with orders := q.orders ++ [term] }

/-- Adds a path along graph edges. -/
def addEdge (q : Query) (path : String) : Query :=
  { q with edges := q.edges ++ [path] }

/-- Adds a record link to follow. -/
def addFetch (q : Query) (field : String) : Query :=
  { q with fetch := q.fetch ++ [field] }

/-- Adds a field to split results on. -/
def addSplit (q : Query) (field : String) : Query :=
  { q with split := q.split ++ [field] }

def addJoin (q : Query) (name : String) : Query :=
  { q with joins := q.joins ++ [name] }

def addUnion (q : Query) (other : Query) : Query :=
  { q with unions := q.unions ++ [other] }

def addHaving (q : Query) (text : String) : Query :=
  { q with havings := q.havings ++ [text] }

end Query

end SurrealQuery
