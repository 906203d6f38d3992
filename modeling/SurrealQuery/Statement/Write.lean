import SurrealQuery.Statement.Select

/-!
Statements that write.
-/

namespace SurrealQuery

/-- The operands of a record under the fields of the first, if it has those fields and no others. -/
def Fields.project? (f : Fields) (fields : List String) : Option (List Operand) := do
  let operands ← fields.mapM f.get?
  if operands.length = f.entries.length then some operands else none

namespace Clause

/-- The groups of operands of a batch; `number` counts the records from one. -/
def rows (fields : List String) (number : Nat) :
    List Fields → Except CompileError (List Template)
  | [] => .ok []
  | record :: rest =>
    match record.project? fields with
    | some given => do
      let others ← rows fields (number + 1) rest
      return .wrap "(" (operands given) ")" :: others
    | none => .error (.recordFields number record.keys fields)

/-- The insertion of a batch, which takes its fields from the first record. -/
def insertion (keyword : String) (table : String) (batch : Batch) :
    Except CompileError Template := do
  let fields := (batch.records.head?.map Fields.keys).getD []
  let rows ← rows fields 1 batch.records
  return .raw (keyword ++ " INTO " ++ table ++ " (" ++
    Text.commaList (fields.map Identifier.column) ++ ") VALUES ") ++ .join ", " rows

end Clause

namespace Statement

/-- Inserts a batch; without any field the statement creates a record. -/
def insertWith (keyword : String) (settings : Settings) (q : Query) (batch : Batch) :
    Except CompileError Statement := do
  let table ← settings.table q.target
  if batch.isEmpty then
    return ⟨.create, .raw ("CREATE " ++ table)⟩
  return ⟨.insert, ← Clause.insertion keyword table batch⟩

/-- Inserts a batch of records. -/
def insert (settings : Settings) (q : Query) (batch : Batch) : Except CompileError Statement := do
  q.check
  insertWith "INSERT" settings q batch

/-- Inserts those records of a batch that are not there yet. -/
def insertOrIgnore (settings : Settings) (q : Query) (batch : Batch) :
    Except CompileError Statement := do
  q.check
  insertWith "INSERT IGNORE" settings q batch

/-- Inserts the results of another query. -/
def insertUsing (settings : Settings) (q : Query) (columns : List Column) (source : Query) :
    Except CompileError Statement := do
  q.check
  source.check
  let table ← settings.table q.target
  let inner ← source.template settings
  return ⟨.insert, .wrap ("INSERT INTO " ++ table ++ " (") (Clause.columns columns) ") VALUES " ++
    .wrap "((" inner "))"⟩

/-- Creates one record. -/
def create (settings : Settings) (q : Query) (fields : Fields) : Except CompileError Statement := do
  q.check
  let table ← settings.table q.target
  return ⟨.create, .join " " (.raw ("CREATE " ++ table) ::
    (Clause.content fields ++ Clause.options q.options))⟩

/-- Updates the records of a query. -/
def update (settings : Settings) (q : Query) (fields : Fields) : Except CompileError Statement := do
  q.check
  let table ← settings.table q.target
  let filter ← Clause.conditions settings q.conditions
  let changes := if fields.isEmpty then [] else [Clause.after "SET" (Clause.assignments fields)]
  return ⟨.update, .join " " (.raw ("UPDATE " ++ table) ::
    (changes ++ filter ++ Clause.options q.options))⟩

/-- Inserts a batch and updates the records that are there already. They are told by the record id
and nothing else, and the update has to say which fields to set. -/
def upsert (settings : Settings) (q : Query) (batch : Batch) (uniqueBy : List String)
    (onConflict : OnConflict) : Except CompileError Statement := do
  if uniqueBy ≠ ["id"] then
    throw (.upsertKeys uniqueBy)
  match onConflict with
  | .columns _ => throw .upsertUpdate
  | .set fields =>
    if fields.isEmpty then
      throw .upsertUpdate
    if batch.isEmpty then
      throw .upsertRecords
    q.check
    let table ← settings.table q.target
    let insertion ← Clause.insertion "INSERT" table batch
    return ⟨.insert, insertion ++ .raw " ON DUPLICATE KEY UPDATE " ++ Clause.assignments fields⟩

/-- Names the record id of a table without the table, in the first comparison that has it. -/
def unqualifyId (qualified : String) : List Condition → List Condition
  | [] => []
  | c :: rest =>
    match c with
    | ⟨connective, .compare column operator operand⟩ =>
      if column.isNamed qualified then
        ⟨connective, .compare (.name "id") operator operand⟩ :: rest
      else c :: unqualifyId qualified rest
    | _ => c :: unqualifyId qualified rest

/-- Deletes the records of a query. -/
def delete (settings : Settings) (q : Query) : Except CompileError Statement := do
  q.check
  let table ← settings.table q.target
  let filter ← Clause.conditions settings (unqualifyId (q.target ++ ".id") q.conditions)
  let keyword := if isRecordReference q.target then "DELETE " else "DELETE FROM "
  return ⟨.delete, .join " " (.raw (keyword ++ table) :: (filter ++ Clause.options q.options))⟩

/-- Adds an edge from the record of a query to another record. -/
def relate (q : Query) (edge target : String) (fields : Fields) :
    Except CompileError Statement := do
  q.check
  let source ← RecordId.parse q.target
  let target ← RecordId.parse target
  return ⟨.relate, .join " "
    (.raw ("RELATE " ++ source.toString ++ "->" ++ edge ++ "->" ++ target.toString) ::
      (Clause.content fields ++ Clause.options q.options))⟩

/-! ## What has no statement -/

/-- Emptying a table at once is refused. -/
def truncate (_ : Query) : Except CompileError Statement :=
  .error (.unsupported .truncate)

def supportsSavepoints : Bool := false

/-- Savepoints are refused, whatever their name. -/
def savepoint (_ : String) : Except CompileError Statement :=
  .error (.unsupported .savepoint)

/-- The steps of a transaction are refused. -/
def transaction (_ : TransactionStep) : Except CompileError Statement :=
  .error (.unsupported .transaction)

end Statement

end SurrealQuery
