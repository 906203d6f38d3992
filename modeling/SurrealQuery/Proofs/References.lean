import SurrealQuery.Statement.Write
import SurrealQuery.Proofs.Features
import SurrealQuery.Proofs.Outcome
import SurrealQuery.Proofs.RecordId

/-!
# References to tables and records

The references of a query: its own, and those of the queries inside of its conditions, in order.
Building a query without unsupported features fails if one of its references is neither a table nor
a record id, and then with the first such reference (`Query.failure?_template`).
-/

namespace SurrealQuery

/-! ## Well-formed references -/

/-- A table, which has no mark, or a record id, which has one with something on both sides. -/
def IsReference (s : String) : Prop :=
  recordMark ∉ s.toList ∨
    ∃ table key, IsRecordPart table ∧ IsRecordPart key ∧ s = table ++ ":" ++ key

theorem isReference_iff {s : String} :
    IsReference s ↔ (isRecordReference s → (RecordId.parse? s).isSome) := by
  rw [IsReference, ← RecordId.isSome_parse?_iff, isRecordReference, List.contains_iff_mem]
  by_cases h : recordMark ∈ s.toList <;> simp [h]

instance (s : String) : Decidable (IsReference s) :=
  decidable_of_iff _ isReference_iff.symm

/-- The complaint about the first reference that is not well-formed. -/
def malformed? (references : List String) : Option CompileError :=
  (references.find? (¬ IsReference ·)).map .invalidRecord

theorem malformed?_append (as bs : List String) :
    malformed? (as ++ bs) = (malformed? as).or (malformed? bs) := by
  unfold malformed?
  rw [List.find?_append, Option.map_or]

theorem malformed?_cons (a : String) (as : List String) :
    malformed? (a :: as) = (malformed? [a]).or (malformed? as) :=
  malformed?_append [a] as

theorem malformed?_eq_none {references : List String} :
    malformed? references = none ↔ ∀ r ∈ references, IsReference r := by
  simp [malformed?]

theorem failure?_table (settings : Settings) (reference : String) :
    failure? (settings.table reference) = malformed? [reference] := by
  unfold Settings.table
  by_cases hmark : isRecordReference reference
  · rw [if_pos hmark]
    cases hid : RecordId.parse? reference with
    | none =>
      have h : ¬ IsReference reference := by
        rw [isReference_iff, hid]
        simp [hmark]
      simp [RecordId.parse, hid, malformed?, h]
    | some id =>
      have h : IsReference reference := isReference_iff.2 fun _ => by rw [hid]; rfl
      simp [RecordId.parse, hid, malformed?, h]
  · have h : IsReference reference := isReference_iff.2 fun hr => absurd hr hmark
    rw [if_neg hmark]
    simp [malformed?, h]

/-! ## The references of a query -/

/-- The references of a predicate, without those of the conditions inside of it. -/
def Predicate.references : Predicate → List String
  | .nonempty query _ => [query.target]
  | _ => []

/-- The references of conditions at any depth, in order. -/
def conditionReferences (conditions : List Condition) : List String :=
  (conditionPredicates conditions).flatMap Predicate.references

/-- The references of a query, in order. -/
def Query.references (q : Query) : List String :=
  q.target :: conditionReferences q.conditions

theorem conditionReferences_cons (connective : Connective) (predicate : Predicate)
    (rest : List Condition) :
    conditionReferences (⟨connective, predicate⟩ :: rest) =
      predicate.references ++
        (conditionReferences predicate.inner ++ conditionReferences rest) :=
  flatMap_conditionPredicates_cons Predicate.references connective predicate rest

/-- Naming a record id without its table changes comparisons alone. -/
theorem flatMap_predicates_unqualifyId {α : Type} (part : Predicate → List α)
    (h : ∀ column operator operand, part (.compare column operator operand) = [])
    (qualified : String) (conditions : List Condition) :
    (conditionPredicates (Statement.unqualifyId qualified conditions)).flatMap part =
      (conditionPredicates conditions).flatMap part := by
  induction conditions with
  | nil => rw [Statement.unqualifyId]
  | cons condition rest ih =>
    obtain ⟨connective, predicate⟩ := condition
    have later : (conditionPredicates (⟨connective, predicate⟩ ::
          Statement.unqualifyId qualified rest)).flatMap part =
        (conditionPredicates (⟨connective, predicate⟩ :: rest)).flatMap part := by
      rw [flatMap_conditionPredicates_cons, flatMap_conditionPredicates_cons, ih]
    cases predicate with
    | compare column operator operand =>
      rw [Statement.unqualifyId]
      split
      · rw [flatMap_conditionPredicates_cons, flatMap_conditionPredicates_cons, h, h]
        rfl
      · exact later
    | _ => exact later

/-! ## Building fails at the first malformed reference -/

theorem failure?_query {settings : Settings} {q : Query} (hdistinct : q.distinct = false)
    (conditions : Except CompileError (List (Connective × Template))) :
    failure? (Clause.query settings q conditions) =
      (malformed? [q.target]).or (failure? conditions) := by
  unfold Clause.query
  rw [hdistinct]
  simp only [Bool.false_eq_true, if_false]
  rw [failure?_bind (fun table _ => ?_), failure?_table]
  rw [failure?_bind fun _ _ => failure?_pure _, Option.or_none]

theorem failure?_template? (settings : Settings) {p : Predicate} (hp : p.features = [])
    (inner : failure? (conditionTemplates settings p.inner) =
      malformed? (conditionReferences p.inner)) :
    failure? (p.template? settings) =
      malformed? (p.references ++ conditionReferences p.inner) := by
  cases p with
  | group conditions =>
    rw [Predicate.template?, failure?_bind fun _ _ => failure?_pure _, Option.or_none]
    exact inner
  | nonempty query negated =>
    have hquery := Query.clauseFeatures_eq_nil.1 hp
    rw [Predicate.template?, failure?_bind fun _ _ => failure?_pure _, Option.or_none,
      failure?_query hquery.distinct, conditionTemplates_query, malformed?_append]
    exact congrArg _ inner
  | bitwise column operator operand => cases hp
  | _ => simp only [Predicate.template?]; rfl

/-- Conditions at any depth: the first malformed reference in any of them. -/
theorem failure?_conditionTemplates (settings : Settings) (conditions : List Condition)
    (h : conditionFeatures conditions = []) :
    failure? (conditionTemplates settings conditions) =
      malformed? (conditionReferences conditions) := by
  induction conditions using conditions_induction with
  | nil =>
    rw [conditionTemplates]
    rfl
  | cons connective predicate rest inner ih =>
    rw [conditionFeatures_cons, List.append_eq_nil_iff, List.append_eq_nil_iff] at h
    obtain ⟨hpredicate, hinner, hrest⟩ := h
    -- The first condition, with all that is inside of it, fails before the rest is looked at.
    have hfirst := failure?_template? settings hpredicate (inner hinner)
    have hlater (first : Option Template) : failure? (do
          let others ← conditionTemplates settings rest
          return first.toList.map (connective, ·) ++ others) =
        malformed? (conditionReferences rest) := by
      rw [failure?_bind fun _ _ => failure?_pure _, Option.or_none]
      exact ih hrest
    rw [conditionTemplates, failure?_bind fun first _ => hlater first, hfirst,
      conditionReferences_cons, ← List.append_assoc, ← malformed?_append]

/-- Building a query without unsupported features. -/
theorem Query.failure?_template (settings : Settings) {q : Query} (h : q.features = []) :
    failure? (q.template settings) = malformed? q.references := by
  rw [Query.features, List.append_eq_nil_iff, Query.clauseFeatures_eq_nil] at h
  rw [Query.template, failure?_query h.1.distinct, conditionTemplates_query,
    failure?_conditionTemplates settings q.conditions h.2]
  exact (malformed?_cons q.target _).symm

end SurrealQuery
