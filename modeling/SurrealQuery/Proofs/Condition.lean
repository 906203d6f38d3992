import SurrealQuery.Statement.Select

/-!
# Conditions at any depth

Conditions nest: a group holds conditions, and so does the query of a `nonempty` predicate.
`conditions_induction` is induction over all of them at once, with one case for a condition in
front of others, and `Query.predicates` lists what it goes through.
-/

namespace SurrealQuery

/-- The conditions directly inside a predicate. -/
def Predicate.inner : Predicate → List Condition
  | .group conditions => conditions
  | .nonempty query _ => query.conditions
  | _ => []

mutual

theorem inner_induction {motive : List Condition → Prop} (nil : motive [])
    (cons : ∀ connective predicate rest, motive predicate.inner → motive rest →
      motive (⟨connective, predicate⟩ :: rest)) : ∀ predicate : Predicate, motive predicate.inner
  | .group conditions => conditions_induction nil cons conditions
  | .nonempty { conditions, .. } _ => conditions_induction nil cons conditions
  | .compare .. | .member .. | .integerMember .. | .null .. | .between .. | .betweenColumns ..
  | .compareColumns .. | .date .. | .bitwise .. | .raw .. => nil

/-- Induction over conditions at any depth: a list may be taken apart into its first condition,
what is inside of that, and the rest. -/
theorem conditions_induction {motive : List Condition → Prop} (nil : motive [])
    (cons : ∀ connective predicate rest, motive predicate.inner → motive rest →
      motive (⟨connective, predicate⟩ :: rest)) : ∀ conditions, motive conditions
  | [] => nil
  | ⟨connective, predicate⟩ :: rest =>
    cons connective predicate rest (inner_induction nil cons predicate)
      (conditions_induction nil cons rest)

end

mutual

/-- The predicates of a list of conditions, those inside of others right after them. -/
def conditionPredicates : List Condition → List Predicate
  | [] => []
  | ⟨_, predicate⟩ :: rest => predicate :: (predicate.innerPredicates ++ conditionPredicates rest)

def Predicate.innerPredicates : Predicate → List Predicate
  | .group conditions => conditionPredicates conditions
  | .nonempty query _ => query.predicates
  | _ => []

/-- The predicates of a query at any depth. -/
def Query.predicates : Query → List Predicate
  | { conditions, .. } => conditionPredicates conditions

end

theorem Query.predicates_eq (q : Query) : q.predicates = conditionPredicates q.conditions := by
  cases q
  rw [Query.predicates]

theorem Predicate.innerPredicates_eq (p : Predicate) :
    p.innerPredicates = conditionPredicates p.inner := by
  cases p <;> simp only [Predicate.innerPredicates, Predicate.inner, conditionPredicates,
    Query.predicates_eq]

theorem conditionPredicates_cons (connective : Connective) (predicate : Predicate)
    (rest : List Condition) :
    conditionPredicates (⟨connective, predicate⟩ :: rest) =
      predicate :: (conditionPredicates predicate.inner ++ conditionPredicates rest) := by
  rw [conditionPredicates, Predicate.innerPredicates_eq]

theorem conditionPredicates_append (as bs : List Condition) :
    conditionPredicates (as ++ bs) = conditionPredicates as ++ conditionPredicates bs := by
  induction as with
  | nil => rw [conditionPredicates]; rfl
  | cons condition as ih =>
    obtain ⟨connective, predicate⟩ := condition
    rw [List.cons_append, conditionPredicates_cons, conditionPredicates_cons, ih]
    simp

/-- What is collected from conditions at any depth comes from the first one, from what is inside of
it, and from the rest. -/
theorem flatMap_conditionPredicates_cons {α : Type} (part : Predicate → List α)
    (connective : Connective) (predicate : Predicate) (rest : List Condition) :
    (conditionPredicates (⟨connective, predicate⟩ :: rest)).flatMap part =
      part predicate ++ ((conditionPredicates predicate.inner).flatMap part ++
        (conditionPredicates rest).flatMap part) := by
  rw [conditionPredicates_cons, List.flatMap_cons, List.flatMap_append]

theorem conditionTemplates_query (settings : Settings) (q : Query) :
    q.conditionTemplates settings = conditionTemplates settings q.conditions := by
  cases q
  rw [Query.conditionTemplates]

/-- The conditions of a query are given apart where it is built. -/
theorem Clause.query_conditions {settings : Settings} (q : Query)
    (conditions : List Condition)
    (x : Except CompileError (List (Connective × Template))) :
    Clause.query settings { q with conditions } x = Clause.query settings q x :=
  rfl

theorem conditionTemplates_cons (settings : Settings) (connective : Connective)
    (predicate : Predicate) (rest : List Condition) :
    conditionTemplates settings (⟨connective, predicate⟩ :: rest) = (do
      let first ← predicate.template? settings
      let others ← conditionTemplates settings rest
      return (first.toList.map (connective, ·)) ++ others) :=
  rfl

theorem conditionTemplates_append (settings : Settings) (as bs : List Condition) :
    conditionTemplates settings (as ++ bs) = (do
      let ts ← conditionTemplates settings as
      let us ← conditionTemplates settings bs
      return ts ++ us) := by
  induction as with
  | nil =>
    rw [List.nil_append]
    cases conditionTemplates settings bs <;> rfl
  | cons condition as ih =>
    obtain ⟨connective, predicate⟩ := condition
    rw [List.cons_append, conditionTemplates_cons, conditionTemplates_cons, ih]
    cases predicate.template? settings with
    | error e => rfl
    | ok first =>
      cases conditionTemplates settings as with
      | error e => rfl
      | ok ts =>
        cases conditionTemplates settings bs with
        | error e => rfl
        | ok us => exact congrArg Except.ok (List.append_assoc ..).symm

end SurrealQuery
