import SurrealQuery.Proofs.Placeholder
import SurrealQuery.Proofs.Rewriting

/-!
# The parts of a request

All that a caller says in words, as texts with the values for their placeholders. Names, keys,
operators, references and raw texts come without values; calls and raw predicates bring theirs.
-/

namespace SurrealQuery

def Operand.parts : Operand → List Call
  | .literal _ => []
  | .raw text => [⟨text, []⟩]
  | .call c => [c]

def Column.parts : Column → List Call
  | .name s => [⟨s, []⟩]
  | .raw text => [⟨text, []⟩]
  | .call c => [c]

def OrderTerm.parts : OrderTerm → List Call
  | .raw text => [⟨text, []⟩]
  | .byColumn column kind _ => column.parts ++ kind.toList.map (⟨·, []⟩)
  | .random => []

def Aggregate.parts (a : Aggregate) : List Call :=
  ⟨a.function, []⟩ :: a.columns.flatMap Column.parts

/-- The parts of a query outside of its conditions. -/
def Query.clauseParts (settings : Settings) (q : Query) : List Call :=
  (settings.tableTexts q.target).map (⟨·, []⟩) ++ (q.columns.getD []).flatMap Column.parts ++
    q.groups.flatMap Column.parts ++ q.orders.flatMap OrderTerm.parts ++
    q.aggregate.toList.flatMap Aggregate.parts ++ (q.edges ++ q.fetch ++ q.split).map (⟨·, []⟩)

/-- The parts of a predicate, without those of the conditions inside of it. -/
def Predicate.parts (settings : Settings) : Predicate → List Call
  | .compare column operator operand | .date _ column operator operand
  | .bitwise column operator operand => column.parts ++ ⟨operator, []⟩ :: operand.parts
  | .member column operands _ => column.parts ++ operands.flatMap Operand.parts
  | .integerMember column _ _ | .null column _ => column.parts
  | .between column low high _ => column.parts ++ low.parts ++ high.parts
  | .betweenColumns column low high _ => column.parts ++ low.parts ++ high.parts
  | .compareColumns first operator second => first.parts ++ ⟨operator, []⟩ :: second.parts
  | .group _ => []
  | .nonempty query _ => query.clauseParts settings
  | .raw text values => [⟨text, values⟩]

/-- The parts of conditions at any depth. -/
def conditionParts (settings : Settings) (conditions : List Condition) : List Call :=
  (conditionPredicates conditions).flatMap (Predicate.parts settings)

def Query.parts (settings : Settings) (q : Query) : List Call :=
  q.clauseParts settings ++ conditionParts settings q.conditions

def Fields.parts (f : Fields) : List Call :=
  f.entries.flatMap fun (key, operand) => ⟨key, []⟩ :: operand.parts

def Batch.parts (b : Batch) : List Call :=
  b.records.flatMap Fields.parts

def OnConflict.parts : OnConflict → List Call
  | .columns _ => []
  | .set fields => fields.parts

/-- All that the caller says in words: names, keys, operators, references and raw texts without
values, and the texts of calls and raw predicates with theirs. A reference to a table stands after
the prefix, and so does the alias of a table. -/
def Request.parts (settings : Settings) : Request → List Call
  | .select q | .existence q | .delete q => q.parts settings
  | .insert q batch | .insertOrIgnore q batch => q.parts settings ++ batch.parts
  | .create q fields | .update q fields => q.parts settings ++ fields.parts
  | .upsert q batch _ onConflict => q.parts settings ++ batch.parts ++ onConflict.parts
  | .relate q edge target fields =>
    q.parts settings ++ ⟨edge, []⟩ :: ⟨target, []⟩ :: fields.parts

theorem conditionParts_cons (settings : Settings) (connective : Connective)
    (predicate : Predicate) (rest : List Condition) :
    conditionParts settings (⟨connective, predicate⟩ :: rest) =
      predicate.parts settings ++
        (conditionParts settings predicate.inner ++ conditionParts settings rest) :=
  flatMap_conditionPredicates_cons (Predicate.parts settings) connective predicate rest

theorem Query.mem_parts_of_tableTexts {settings : Settings} {q : Query} {t : String}
    (h : t ∈ settings.tableTexts q.target) : ⟨t, []⟩ ∈ q.parts settings := by
  unfold Query.parts Query.clauseParts
  simp only [List.append_assoc]
  exact List.mem_append_left _ (List.mem_map_of_mem h)

theorem Query.mem_parts_of_conditionParts {settings : Settings} {q : Query} {c : Call}
    (h : c ∈ conditionParts settings q.conditions) : c ∈ q.parts settings :=
  List.mem_append_right _ h

/-- The bare name is all that is new where a record id is named without its table. -/
theorem mem_conditionParts_unqualifyId {settings : Settings} {qualified : String} {c : Call}
    {conditions : List Condition}
    (h : c ∈ conditionParts settings (Statement.unqualifyId qualified conditions)) :
    c = ⟨"id", []⟩ ∨ c ∈ conditionParts settings conditions := by
  induction conditions with
  | nil => exact .inr h
  | cons condition rest ih =>
    obtain ⟨connective, predicate⟩ := condition
    have later (h : c ∈ conditionParts settings
          (⟨connective, predicate⟩ :: Statement.unqualifyId qualified rest)) :
        c = ⟨"id", []⟩ ∨ c ∈ conditionParts settings (⟨connective, predicate⟩ :: rest) := by
      rw [conditionParts_cons, List.mem_append, List.mem_append] at h ⊢
      rcases h with h | h | h
      · exact .inr (.inl h)
      · exact .inr (.inr (.inl h))
      · exact (ih h).imp_right fun h => .inr (.inr h)
    cases predicate with
    | compare column operator operand =>
      rw [Statement.unqualifyId] at h
      split at h
      · rw [conditionParts_cons, List.mem_append] at h
        rw [conditionParts_cons, List.mem_append]
        rcases h with h | h
        · rw [Predicate.parts, Column.parts, List.singleton_append, List.mem_cons] at h
          exact h.imp_right fun h => .inl (List.mem_append_right _ h)
        · exact .inr (.inr h)
      · exact later h
    | _ => exact later h

end SurrealQuery
