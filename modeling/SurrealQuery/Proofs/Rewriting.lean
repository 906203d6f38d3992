import SurrealQuery.Request
import SurrealQuery.Proofs.Condition

/-!
# Rewriting the values of a request

A `Rewriting` says what becomes of each literal and of each text that comes with values of its own.
It goes through a whole request: columns, conditions at any depth, the queries inside of them,
orders, and the fields that are written. Names, raw texts and everything else stay.

No rewriting adds or removes an unsupported feature (`Query.check_rewrite`), and none touches the
keys of a record (`Fields.keys_rewrite`).
-/

namespace SurrealQuery

/-- What becomes of literals and of texts with values, by the place in which they stand. -/
structure Rewriting where
  literal : Value → Operand
  operand : Call → Operand
  column : Call → Column
  predicate : Call → Call
  /-- No column becomes a name. -/
  column_isNamed : ∀ c name, (column c).isNamed name = false

variable (w : Rewriting)

/-! ## The rewritten request -/

def Operand.rewrite : Operand → Operand
  | .literal v => w.literal v
  | .raw text => .raw text
  | .call c => w.operand c

def Column.rewrite : Column → Column
  | .name s => .name s
  | .raw text => .raw text
  | .call c => w.column c

def OrderTerm.rewrite : OrderTerm → OrderTerm
  | .raw text => .raw text
  | .byColumn column kind direction => .byColumn (column.rewrite w) kind direction
  | .random => .random

def Aggregate.rewrite (a : Aggregate) : Aggregate :=
  { a with columns := a.columns.map (Column.rewrite w) }

mutual

def Query.rewrite : Query → Query
  | { target, columns, conditions, groups, orders, limit, offset, aggregate, edges, fetch, split,
      options, joins, unions, havings, lock, distinct } => {
    target, limit, offset, edges, fetch, split, options, joins, havings, lock, distinct
    columns := columns.map (List.map (Column.rewrite w))
    conditions := rewriteConditions conditions
    groups := groups.map (Column.rewrite w)
    orders := orders.map (OrderTerm.rewrite w)
    aggregate := aggregate.map (Aggregate.rewrite w)
    unions := rewriteQueries unions }

def rewriteQueries : List Query → List Query
  | [] => []
  | q :: rest => q.rewrite :: rewriteQueries rest

def rewriteConditions : List Condition → List Condition
  | [] => []
  | ⟨connective, predicate⟩ :: rest => ⟨connective, predicate.rewrite⟩ :: rewriteConditions rest

def Predicate.rewrite : Predicate → Predicate
  | .compare column operator operand =>
    .compare (column.rewrite w) operator (operand.rewrite w)
  | .member column operands negated =>
    .member (column.rewrite w) (operands.map (Operand.rewrite w)) negated
  | .integerMember column integers negated =>
    .integerMember (column.rewrite w) integers negated
  | .null column negated => .null (column.rewrite w) negated
  | .between column low high negated =>
    .between (column.rewrite w) (low.rewrite w) (high.rewrite w) negated
  | .betweenColumns column low high negated =>
    .betweenColumns (column.rewrite w) (low.rewrite w) (high.rewrite w) negated
  | .compareColumns first operator second =>
    .compareColumns (first.rewrite w) operator (second.rewrite w)
  | .group conditions => .group (rewriteConditions conditions)
  | .nonempty query negated => .nonempty query.rewrite negated
  | .date unit column operator operand =>
    .date unit (column.rewrite w) operator (operand.rewrite w)
  | .bitwise column operator operand =>
    .bitwise (column.rewrite w) operator (operand.rewrite w)
  | .raw text values =>
    .raw (w.predicate ⟨text, values⟩).expression (w.predicate ⟨text, values⟩).arguments

end

theorem map_fst_rewrite (entries : List (String × Operand)) :
    (entries.map (Prod.map id (Operand.rewrite w))).map Prod.fst = entries.map Prod.fst := by
  rw [List.map_map]
  rfl

def Fields.rewrite (f : Fields) : Fields :=
  ⟨f.entries.map (Prod.map id (Operand.rewrite w)), by rw [map_fst_rewrite]; exact f.nodup⟩

def Batch.rewrite (b : Batch) : Batch :=
  ⟨b.records.map (Fields.rewrite w)⟩

def OnConflict.rewrite : OnConflict → OnConflict
  | .columns names => .columns names
  | .set fields => .set (fields.rewrite w)

def Request.rewrite : Request → Request
  | .select q => .select (q.rewrite w)
  | .existence q => .existence (q.rewrite w)
  | .insert q batch => .insert (q.rewrite w) (batch.rewrite w)
  | .insertOrIgnore q batch => .insertOrIgnore (q.rewrite w) (batch.rewrite w)
  | .create q fields => .create (q.rewrite w) (fields.rewrite w)
  | .update q fields => .update (q.rewrite w) (fields.rewrite w)
  | .upsert q batch uniqueBy onConflict =>
    .upsert (q.rewrite w) (batch.rewrite w) uniqueBy (onConflict.rewrite w)
  | .delete q => .delete (q.rewrite w)
  | .relate q edge target fields => .relate (q.rewrite w) edge target (fields.rewrite w)

/-! ## What stays -/

section Query

variable (q : Query)

/-- The rewritten query, field by field. -/
theorem Query.rewrite_eq : q.rewrite w = { q with
    columns := q.columns.map (List.map (Column.rewrite w))
    conditions := rewriteConditions w q.conditions
    groups := q.groups.map (Column.rewrite w)
    orders := q.orders.map (OrderTerm.rewrite w)
    aggregate := q.aggregate.map (Aggregate.rewrite w)
    unions := rewriteQueries w q.unions } := by
  cases q
  rw [Query.rewrite]

@[simp] theorem Query.target_rewrite : (q.rewrite w).target = q.target := by
  rw [Query.rewrite_eq]

@[simp] theorem Query.columns_rewrite :
    (q.rewrite w).columns = q.columns.map (List.map (Column.rewrite w)) := by
  rw [Query.rewrite_eq]

@[simp] theorem Query.conditions_rewrite :
    (q.rewrite w).conditions = rewriteConditions w q.conditions := by
  rw [Query.rewrite_eq]

@[simp] theorem Query.groups_rewrite : (q.rewrite w).groups = q.groups.map (Column.rewrite w) := by
  rw [Query.rewrite_eq]

@[simp] theorem Query.orders_rewrite :
    (q.rewrite w).orders = q.orders.map (OrderTerm.rewrite w) := by
  rw [Query.rewrite_eq]

@[simp] theorem Query.limit_rewrite : (q.rewrite w).limit = q.limit := by
  rw [Query.rewrite_eq]

@[simp] theorem Query.offset_rewrite : (q.rewrite w).offset = q.offset := by
  rw [Query.rewrite_eq]

@[simp] theorem Query.aggregate_rewrite :
    (q.rewrite w).aggregate = q.aggregate.map (Aggregate.rewrite w) := by
  rw [Query.rewrite_eq]

@[simp] theorem Query.edges_rewrite : (q.rewrite w).edges = q.edges := by
  rw [Query.rewrite_eq]

@[simp] theorem Query.fetch_rewrite : (q.rewrite w).fetch = q.fetch := by
  rw [Query.rewrite_eq]

@[simp] theorem Query.split_rewrite : (q.rewrite w).split = q.split := by
  rw [Query.rewrite_eq]

@[simp] theorem Query.options_rewrite : (q.rewrite w).options = q.options := by
  rw [Query.rewrite_eq]

@[simp] theorem Query.distinct_rewrite : (q.rewrite w).distinct = q.distinct := by
  rw [Query.rewrite_eq]

theorem Query.rewrite_limit (limit : Option UInt64) :
    { q with limit := limit }.rewrite w = { q.rewrite w with limit := limit } := by
  rw [Query.rewrite_eq, Query.rewrite_eq]

end Query

@[simp] theorem rewriteConditions_nil : rewriteConditions w [] = [] := by
  rw [rewriteConditions]

theorem rewriteConditions_cons (connective : Connective) (predicate : Predicate)
    (rest : List Condition) :
    rewriteConditions w (⟨connective, predicate⟩ :: rest) =
      ⟨connective, predicate.rewrite w⟩ :: rewriteConditions w rest := by
  rw [rewriteConditions]

@[simp] theorem Column.isNamed_rewrite (c : Column) (name : String) :
    (c.rewrite w).isNamed name = c.isNamed name := by
  cases c with
  | name s => rfl
  | raw text => rfl
  | call c => exact w.column_isNamed c name

/-- The conditions in which a record id is named without its table are the same. -/
theorem rewriteConditions_unqualifyId (qualified : String) (conditions : List Condition) :
    rewriteConditions w (Statement.unqualifyId qualified conditions) =
      Statement.unqualifyId qualified (rewriteConditions w conditions) := by
  induction conditions with
  | nil => rw [Statement.unqualifyId, rewriteConditions_nil, Statement.unqualifyId]
  | cons c rest ih =>
    obtain ⟨connective, predicate⟩ := c
    rw [rewriteConditions_cons]
    cases predicate with
    | compare column operator operand =>
      simp only [Predicate.rewrite, Statement.unqualifyId, Column.isNamed_rewrite]
      split
      · rw [rewriteConditions_cons, Predicate.rewrite]
        rfl
      · rw [rewriteConditions_cons, Predicate.rewrite, ih]
    | _ => simp only [Predicate.rewrite, Statement.unqualifyId, rewriteConditions_cons, ih]

/-! ### Unsupported features -/

theorem rewriteQueries_isEmpty (qs : List Query) :
    (rewriteQueries w qs).isEmpty = qs.isEmpty := by
  cases qs <;> simp [rewriteQueries]

theorem Query.unsupported?_rewrite_of {q : Query}
    (h : unsupportedCondition? (rewriteConditions w q.conditions) =
      unsupportedCondition? q.conditions) :
    (q.rewrite w).unsupported? = q.unsupported? := by
  rw [Query.rewrite_eq]
  cases q
  simp only [Query.unsupported?, rewriteQueries_isEmpty, h]

theorem Predicate.unsupported?_rewrite_of {p : Predicate}
    (h : unsupportedCondition? (rewriteConditions w p.inner) = unsupportedCondition? p.inner) :
    (p.rewrite w).unsupported? = p.unsupported? := by
  cases p with
  | group conditions => rw [Predicate.rewrite, Predicate.unsupported?, Predicate.unsupported?]; exact h
  | nonempty query negated =>
    rw [Predicate.rewrite, Predicate.unsupported?, Predicate.unsupported?]
    exact Query.unsupported?_rewrite_of w h
  | _ => simp only [Predicate.rewrite, Predicate.unsupported?]

theorem unsupportedCondition?_rewrite (conditions : List Condition) :
    unsupportedCondition? (rewriteConditions w conditions) =
      unsupportedCondition? conditions := by
  induction conditions using conditions_induction with
  | nil => rw [rewriteConditions_nil]
  | cons connective predicate rest inner ih =>
    rw [rewriteConditions_cons, unsupportedCondition?, unsupportedCondition?, ih,
      Predicate.unsupported?_rewrite_of w inner]

/-- A rewriting neither adds nor removes an unsupported feature. -/
theorem Query.check_rewrite (q : Query) : (q.rewrite w).check = q.check := by
  rw [Query.check, Query.check,
    Query.unsupported?_rewrite_of w (unsupportedCondition?_rewrite w q.conditions)]

/-! ### Records -/

@[simp] theorem Fields.entries_rewrite (f : Fields) :
    (f.rewrite w).entries = f.entries.map (Prod.map id (Operand.rewrite w)) := rfl

@[simp] theorem Fields.keys_rewrite (f : Fields) : (f.rewrite w).keys = f.keys :=
  map_fst_rewrite w f.entries

@[simp] theorem Fields.isEmpty_rewrite (f : Fields) : (f.rewrite w).isEmpty = f.isEmpty := by
  rw [Fields.isEmpty, Fields.isEmpty, Fields.entries_rewrite, List.isEmpty_map]

theorem Fields.get?_rewrite (f : Fields) (key : String) :
    (f.rewrite w).get? key = (f.get? key).map (Operand.rewrite w) := by
  rw [Fields.get?, Fields.get?, Fields.entries_rewrite]
  induction f.entries with
  | nil => rfl
  | cons entry rest ih =>
    obtain ⟨k, o⟩ := entry
    simp only [List.map_cons, Prod.map_apply, id_eq, List.lookup_cons, ih]
    split <;> rfl

theorem Fields.project?_rewrite (f : Fields) (fields : List String) :
    (f.rewrite w).project? fields = (f.project? fields).map (List.map (Operand.rewrite w)) := by
  have collect : fields.mapM (f.rewrite w).get? =
      (fields.mapM f.get?).map (List.map (Operand.rewrite w)) := by
    induction fields with
    | nil => rfl
    | cons key rest ih =>
      rw [List.mapM_cons, List.mapM_cons, ih, Fields.get?_rewrite]
      cases f.get? key with
      | none => rfl
      | some o => cases rest.mapM f.get? <;> rfl
  rw [Fields.project?, Fields.project?, collect]
  cases fields.mapM f.get? with
  | none => rfl
  | some operands =>
    show (if _ then _ else _) = Option.map _ (if _ then _ else _)
    rw [List.length_map, Fields.entries_rewrite, List.length_map]
    split <;> rfl

@[simp] theorem Batch.isEmpty_rewrite (b : Batch) : (b.rewrite w).isEmpty = b.isEmpty := by
  rw [Batch.isEmpty, Batch.isEmpty, Batch.rewrite, List.all_map]
  congr 1
  funext f
  exact Fields.isEmpty_rewrite w f

end SurrealQuery
