import SurrealQuery.Query.Support
import SurrealQuery.Proofs.Condition

/-!
# Unsupported features

The unsupported features of a query, all of them and in order: those of the query as a whole, and
then those of its conditions at any depth. The check of a query reports the first one
(`Query.check_eq`).
-/

namespace SurrealQuery

/-! ## What a query asks for -/

/-- A feature, if it is asked for. -/
def Feature.ifAsked (feature : Feature) (asked : Bool) : List Feature :=
  if asked then [feature] else []

theorem Feature.head?_ifAsked_append (feature : Feature) (asked : Bool) (rest : List Feature) :
    (feature.ifAsked asked ++ rest).head? = if asked then some feature else rest.head? := by
  cases asked <;> rfl

theorem Feature.ifAsked_eq_nil {feature : Feature} {asked : Bool} :
    feature.ifAsked asked = [] ↔ asked = false := by
  cases asked <;> simp [Feature.ifAsked]

/-- The unsupported features of a query outside of its conditions. -/
def Query.clauseFeatures (q : Query) : List Feature :=
  Feature.join.ifAsked (!q.joins.isEmpty) ++ (Feature.union.ifAsked (!q.unions.isEmpty) ++
    (Feature.having.ifAsked (!q.havings.isEmpty) ++ (Feature.distinct.ifAsked q.distinct ++
      Feature.lock.ifAsked q.lock.isSome)))

/-- The unsupported features of a predicate, without those of the conditions inside of it. -/
def Predicate.features : Predicate → List Feature
  | .bitwise .. => [.bitwise]
  | .nonempty query _ => query.clauseFeatures
  | _ => []

/-- The unsupported features of conditions at any depth, in order. -/
def conditionFeatures (conditions : List Condition) : List Feature :=
  (conditionPredicates conditions).flatMap Predicate.features

/-- The unsupported features of a query, in order. -/
def Query.features (q : Query) : List Feature :=
  q.clauseFeatures ++ conditionFeatures q.conditions

/-- The features of a condition in front of others: those of a group are those of its conditions,
and those of a query inside of the condition are all that the query has. -/
theorem conditionFeatures_cons (connective : Connective) (predicate : Predicate)
    (rest : List Condition) :
    conditionFeatures (⟨connective, predicate⟩ :: rest) =
      predicate.features ++ (conditionFeatures predicate.inner ++ conditionFeatures rest) :=
  flatMap_conditionPredicates_cons Predicate.features connective predicate rest

/-! ## The check reports the first -/

theorem Query.unsupported?_eq_head?_of {q : Query}
    (h : unsupportedCondition? q.conditions = (conditionFeatures q.conditions).head?) :
    q.unsupported? = q.features.head? := by
  unfold Query.features Query.clauseFeatures
  simp only [List.append_assoc, Feature.head?_ifAsked_append, ← h]
  cases q
  rw [Query.unsupported?]

theorem Predicate.unsupported?_eq_head?_of {p : Predicate}
    (h : unsupportedCondition? p.inner = (conditionFeatures p.inner).head?) :
    p.unsupported? = (p.features ++ conditionFeatures p.inner).head? := by
  cases p with
  | group conditions =>
    rw [Predicate.unsupported?]
    exact h
  | nonempty query negated =>
    rw [Predicate.unsupported?]
    exact Query.unsupported?_eq_head?_of h
  | _ => simp only [Predicate.unsupported?]; rfl

theorem unsupportedCondition?_eq_head? (conditions : List Condition) :
    unsupportedCondition? conditions = (conditionFeatures conditions).head? := by
  induction conditions using conditions_induction with
  | nil =>
    rw [unsupportedCondition?]
    rfl
  | cons connective predicate rest inner ih =>
    rw [unsupportedCondition?, conditionFeatures_cons, ← List.append_assoc, List.head?_append,
      ← Predicate.unsupported?_eq_head?_of inner, ← ih]
    cases predicate.unsupported? <;> rfl

/-- **The check is exact.** A query passes if it has no unsupported feature, and else fails with the
first one. -/
theorem Query.check_eq (q : Query) :
    q.check = match q.features.head? with
      | some feature => .error (.unsupported feature)
      | none => .ok () := by
  have hfirst := Query.unsupported?_eq_head?_of (unsupportedCondition?_eq_head? q.conditions)
  unfold Query.check
  cases h : q.features.head? with
  | none => simp only [hfirst, h]
  | some feature => simp only [hfirst, h]

theorem Query.check_eq_ok {q : Query} : q.check = .ok () ↔ q.features = [] := by
  rw [Query.check_eq]
  cases q.features with
  | nil => simp
  | cons feature rest => simp

/-! ## Queries without unsupported features -/

/-- A query that asks for nothing unsupported outside of its conditions. -/
structure Query.HasSupportedClauses (q : Query) : Prop where
  joins : q.joins = []
  unions : q.unions = []
  havings : q.havings = []
  distinct : q.distinct = false
  lock : q.lock = none

theorem Query.clauseFeatures_eq_nil {q : Query} :
    q.clauseFeatures = [] ↔ q.HasSupportedClauses := by
  simp only [Query.clauseFeatures, List.append_eq_nil_iff, Feature.ifAsked_eq_nil,
    Bool.not_eq_false', List.isEmpty_iff, Option.isSome_eq_false_iff, Option.isNone_iff_eq_none]
  constructor
  · rintro ⟨hjoins, hunions, hhavings, hdistinct, hlock⟩
    exact ⟨hjoins, hunions, hhavings, hdistinct, hlock⟩
  · rintro ⟨hjoins, hunions, hhavings, hdistinct, hlock⟩
    exact ⟨hjoins, hunions, hhavings, hdistinct, hlock⟩

/-- No bit operation, and no query that asks for anything unsupported outside of its conditions. -/
def Predicate.IsSupported (p : Predicate) : Prop :=
  (∀ column operator operand, p ≠ .bitwise column operator operand) ∧
    ∀ query negated, p = .nonempty query negated → query.HasSupportedClauses

theorem Predicate.features_eq_nil {p : Predicate} : p.features = [] ↔ p.IsSupported := by
  cases p with
  | nonempty query negated =>
    rw [Predicate.features, Query.clauseFeatures_eq_nil]
    constructor
    · intro h
      refine ⟨nofun, fun query' negated' hp => ?_⟩
      cases hp
      exact h
    · intro h
      exact h.2 query negated rfl
  | bitwise column operator operand =>
    exact ⟨nofun, fun h => absurd rfl (h.1 column operator operand)⟩
  | _ => exact ⟨fun _ => ⟨nofun, nofun⟩, fun _ => rfl⟩

/-- Neither the query nor any query inside of its conditions asks for anything unsupported, and no
condition at any depth is a bit operation. -/
def Query.IsSupported (q : Query) : Prop :=
  q.HasSupportedClauses ∧ ∀ p ∈ q.predicates, p.IsSupported

theorem Query.features_eq_nil {q : Query} : q.features = [] ↔ q.IsSupported := by
  rw [Query.features, List.append_eq_nil_iff, Query.clauseFeatures_eq_nil, conditionFeatures,
    List.flatMap_eq_nil_iff, Query.IsSupported, Query.predicates_eq]
  simp only [Predicate.features_eq_nil]

end SurrealQuery
