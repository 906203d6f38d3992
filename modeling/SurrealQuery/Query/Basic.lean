import SurrealQuery.Duration
import SurrealQuery.Expression

/-!
Descriptions of queries.
-/

namespace SurrealQuery

/-- How a condition is joined to those before it. -/
inductive Connective where
  | and
  | or
deriving DecidableEq, Repr, Inhabited

/-- The part of a date to compare. -/
inductive DateUnit where
  | year
  | month
  | week
  | day
  | hour
  | minute
  | second
deriving DecidableEq, Repr, Inhabited

inductive Direction where
  | asc
  | desc
deriving DecidableEq, Repr, Inhabited

/-- What a write gives back. -/
inductive ReturnMode where
  | nothing
  | before
  | after
  | diff
deriving DecidableEq, Repr, Inhabited

inductive LockMode where
  | shared
  | update
deriving DecidableEq, Repr, Inhabited

/-- One term of an order; `kind` says how a column is compared. -/
inductive OrderTerm where
  | raw (text : String)
  | byColumn (column : Column) (kind : Option String) (direction : Direction)
  | random
deriving Repr, Inhabited

/-- A function over columns in place of a list of columns. -/
structure Aggregate where
  function : String
  columns : List Column
deriving Repr, Inhabited

/-- How a statement is run, and what it gives back. -/
structure Options where
  returning : Option ReturnMode := none
  timeout : Option Duration := none
  parallel : Bool := false
deriving Repr, Inhabited

mutual

/-- A query. Joins, unions, havings, locks and distinct rows can be asked for and are refused. -/
structure Query where
  /-- A table, or a record of one. -/
  target : String := ""
  /-- The columns to select; all of them if not given. -/
  columns : Option (List Column) := none
  conditions : List Condition := []
  groups : List Column := []
  orders : List OrderTerm := []
  limit : Option UInt64 := none
  offset : Option UInt64 := none
  aggregate : Option Aggregate := none
  /-- Paths along graph edges, which are selected after the columns. -/
  edges : List String := []
  fetch : List String := []
  split : List String := []
  options : Options := {}
  joins : List String := []
  unions : List Query := []
  havings : List String := []
  lock : Option LockMode := none
  distinct : Bool := false

/-- A predicate with its connective. -/
structure Condition where
  connective : Connective := .and
  predicate : Predicate

/-- What a condition asks of a record. -/
inductive Predicate where
  | compare (column : Column) (operator : String) (operand : Operand)
  | member (column : Column) (operands : List Operand) (negated : Bool)
  /-- Membership in a list of integers, which are written out. -/
  | integerMember (column : Column) (integers : List Int64) (negated : Bool)
  | null (column : Column) (negated : Bool)
  | between (column : Column) (low high : Operand) (negated : Bool)
  | betweenColumns (column low high : Column) (negated : Bool)
  | compareColumns (first : Column) (operator : String) (second : Column)
  | group (conditions : List Condition)
  /-- Whether a query has a result. -/
  | nonempty (query : Query) (negated : Bool)
  | date (unit : DateUnit) (column : Column) (operator : String) (operand : Operand)
  | bitwise (column : Column) (operator : String) (operand : Operand)
  | raw (text : String) (values : List Value)

end

instance : Inhabited Query := ⟨{}⟩

namespace Connective

def name : Connective → String
  | .and => "and"
  | .or => "or"

def words : List (String × Connective) :=
  [("and", .and), ("or", .or)]

def keyword : Connective → String
  | .and => "AND"
  | .or => "OR"

end Connective

namespace DateUnit

def name : DateUnit → String
  | .year => "year"
  | .month => "month"
  | .week => "week"
  | .day => "day"
  | .hour => "hour"
  | .minute => "minute"
  | .second => "second"

def words : List (String × DateUnit) :=
  [("year", .year), ("month", .month), ("week", .week), ("day", .day), ("hour", .hour),
    ("minute", .minute), ("second", .second)]

end DateUnit

namespace Direction

def name : Direction → String
  | .asc => "asc"
  | .desc => "desc"

def words : List (String × Direction) :=
  [("asc", .asc), ("desc", .desc)]

def keyword : Direction → String
  | .asc => "ASC"
  | .desc => "DESC"

end Direction

namespace ReturnMode

def name : ReturnMode → String
  | .nothing => "none"
  | .before => "before"
  | .after => "after"
  | .diff => "diff"

def words : List (String × ReturnMode) :=
  [("none", .nothing), ("before", .before), ("after", .after), ("diff", .diff)]

def keyword : ReturnMode → String
  | .nothing => "NONE"
  | .before => "BEFORE"
  | .after => "AFTER"
  | .diff => "DIFF"

end ReturnMode

namespace LockMode

def name : LockMode → String
  | .shared => "shared"
  | .update => "update"

def words : List (String × LockMode) :=
  [("shared", .shared), ("update", .update)]

end LockMode

end SurrealQuery
