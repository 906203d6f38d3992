import SurrealQuery.Error
import SurrealQuery.Json.Reader

/-!
Record ids: a table and a key within it, written `table:key`.
-/

namespace SurrealQuery

/-- The mark between the table and the key of a record. -/
def recordMark : Char := ':'

/-- What may stand on either side of the mark. -/
def IsRecordPart (s : String) : Prop :=
  s ≠ "" ∧ recordMark ∉ s.toList

instance (s : String) : Decidable (IsRecordPart s) :=
  inferInstanceAs (Decidable (_ ∧ _))

/-- The address of one record. -/
structure RecordId where
  table : String
  key : String
  table_part : IsRecordPart table
  key_part : IsRecordPart key
deriving DecidableEq

/-- Whether a reference to a table means a record of it. -/
def isRecordReference (s : String) : Bool :=
  s.toList.contains recordMark

namespace RecordId

/-- The record that a text addresses. -/
def parse? (s : String) : Option RecordId :=
  match s.toList.span (· != recordMark) with
  | (table, _ :: key) =>
    if h : IsRecordPart (String.ofList table) ∧ IsRecordPart (String.ofList key) then
      some ⟨String.ofList table, String.ofList key, h.1, h.2⟩
    else none
  | (_, []) => none

/-- The record that a text has to address. -/
def parse (s : String) : Except CompileError RecordId :=
  match parse? s with
  | some id => .ok id
  | none => .error (.invalidRecord s)

/-- The record under a key of a table, if both together are the text of one. -/
def ofParts (table key : String) : Except CompileError RecordId :=
  parse (table ++ ":" ++ key)

def toString (id : RecordId) : String :=
  id.table ++ ":" ++ id.key

instance : ToString RecordId := ⟨toString⟩

def toJson (id : RecordId) : Json :=
  .str id.toString

def read? (j : Json) : Option RecordId := do
  let s ← j.str?
  parse? s

end RecordId

end SurrealQuery
