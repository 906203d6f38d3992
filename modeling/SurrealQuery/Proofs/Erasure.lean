import SurrealQuery.Proofs.Subquery

/-!
# What a read does not look at

A read gives nothing back but what it selects, so it does not look at the return mode of its query.
An aggregate takes the place of all that is selected, fetched, timed and split, so that beside an
aggregate these are not looked at either. `Query.erased` clears both, in the query and in the
queries inside of its conditions, and reads are the same without them (`reads_erased`).
-/

namespace SurrealQuery

/-! ## Erasing -/

/-- Clears what a read does not look at, apart from the queries inside of the conditions. -/
def Query.asRead (q : Query) : Query :=
  if q.aggregate.isSome then
    { q with columns := none, edges := [], fetch := [], split := [], options := {} }
  else { q with options := { q.options with returning := none } }

mutual

/-- Clears what a read does not look at, also in the queries inside of the conditions. -/
def Query.erased : Query → Query
  | { target, columns, conditions, groups, orders, limit, offset, aggregate, edges, fetch, split,
      options, joins, unions, havings, lock, distinct } => Query.asRead {
    target, columns, groups, orders, limit, offset, aggregate, edges, fetch, split, options, joins,
    unions, havings, lock, distinct
    conditions := erasedConditions conditions }

def erasedConditions : List Condition → List Condition
  | [] => []
  | ⟨connective, predicate⟩ :: rest => ⟨connective, predicate.erased⟩ :: erasedConditions rest

def Predicate.erased : Predicate → Predicate
  | .group conditions => .group (erasedConditions conditions)
  | .nonempty query negated => .nonempty query.erased negated
  | predicate => predicate

end

/-- Clears it in the queries inside of the conditions only. -/
def Query.erasedInside (q : Query) : Query :=
  { q with conditions := erasedConditions q.conditions }

theorem Query.erased_eq (q : Query) : q.erased = q.erasedInside.asRead := by
  cases q
  rw [Query.erased]
  rfl

theorem erasedConditions_cons (connective : Connective) (predicate : Predicate)
    (rest : List Condition) :
    erasedConditions (⟨connective, predicate⟩ :: rest) =
      ⟨connective, predicate.erased⟩ :: erasedConditions rest := by
  rw [erasedConditions]

section AsRead

variable (q : Query)

theorem Query.conditions_asRead : q.asRead.conditions = q.conditions := by
  unfold Query.asRead
  split <;> rfl

theorem Query.clauseFeatures_asRead : q.asRead.clauseFeatures = q.clauseFeatures := by
  unfold Query.asRead
  split <;> rfl

theorem Query.asRead_limit (limit : Option UInt64) :
    { q with limit := limit }.asRead = { q.asRead with limit := limit } := by
  unfold Query.asRead
  split <;> rfl

theorem Clause.selection_asRead : Clause.selection q.asRead = Clause.selection q := by
  unfold Query.asRead Clause.selection
  cases q.aggregate with
  | none => simp
  | some aggregate => simp

theorem Clause.afterConditions_asRead :
    Clause.afterConditions q.asRead = Clause.afterConditions q := by
  unfold Query.asRead Clause.afterConditions Clause.execution
  cases q.aggregate with
  | none => simp
  | some aggregate => simp

/-- A query is built without looking at what is cleared. -/
theorem Clause.query_asRead (settings : Settings)
    (conditions : Except CompileError (List (Connective × Template))) :
    Clause.query settings q.asRead conditions = Clause.query settings q conditions := by
  have hdistinct : q.asRead.distinct = q.distinct := by
    unfold Query.asRead
    split <;> rfl
  have htarget : q.asRead.target = q.target := by
    unfold Query.asRead
    split <;> rfl
  unfold Clause.query
  rw [hdistinct, htarget, Clause.selection_asRead, Clause.afterConditions_asRead]

end AsRead

@[simp] theorem erasedConditions_nil : erasedConditions [] = [] := by
  rw [erasedConditions]

theorem Query.conditions_erased (q : Query) :
    q.erased.conditions = erasedConditions q.conditions := by
  rw [Query.erased_eq, Query.conditions_asRead, Query.erasedInside]

theorem Query.erased_limit (q : Query) (limit : Option UInt64) :
    { q with limit := limit }.erased = { q.erased with limit := limit } := by
  rw [Query.erased_eq, Query.erased_eq, ← Query.asRead_limit]
  rfl

theorem Predicate.inner_erased (p : Predicate) : p.erased.inner = erasedConditions p.inner := by
  cases p with
  | nonempty query negated =>
    rw [Predicate.erased, Predicate.inner, Predicate.inner, Query.conditions_erased]
  | _ => simp [Predicate.erased, Predicate.inner]

theorem conditionPredicates_erased (conditions : List Condition) :
    conditionPredicates (erasedConditions conditions) =
      (conditionPredicates conditions).map Predicate.erased := by
  induction conditions using conditions_induction with
  | nil => rw [erasedConditions_nil, conditionPredicates, List.map_nil]
  | cons connective predicate rest inner ih =>
    rw [erasedConditions_cons, conditionPredicates_cons, conditionPredicates_cons,
      Predicate.inner_erased, inner, ih, List.map_cons, List.map_append]

/-! ## Reads are the same -/

theorem Predicate.features_erased (p : Predicate) : p.erased.features = p.features := by
  cases p with
  | nonempty query negated =>
    rw [Predicate.erased, Predicate.features, Predicate.features, Query.erased_eq,
      Query.clauseFeatures_asRead]
    rfl
  | _ => simp only [Predicate.erased, Predicate.features]

theorem conditionFeatures_erased (conditions : List Condition) :
    conditionFeatures (erasedConditions conditions) = conditionFeatures conditions := by
  rw [conditionFeatures, conditionFeatures, conditionPredicates_erased, List.flatMap_map]
  simp only [Predicate.features_erased]

theorem Query.check_erasedInside (q : Query) : q.erasedInside.check = q.check := by
  rw [Query.check_eq, Query.check_eq, Query.features, Query.features, Query.erasedInside,
    conditionFeatures_erased]
  rfl

theorem Query.check_asRead (q : Query) : q.asRead.check = q.check := by
  rw [Query.check_eq, Query.check_eq, Query.features, Query.features, Query.conditions_asRead,
    Query.clauseFeatures_asRead]

theorem Query.check_erased (q : Query) : q.erased.check = q.check := by
  rw [Query.erased_eq, Query.check_asRead, Query.check_erasedInside]

section Templates

variable {settings : Settings}

theorem template_erased_of {q : Query}
    (h : conditionTemplates settings (erasedConditions q.conditions) =
      conditionTemplates settings q.conditions) :
    q.erased.template settings = q.template settings := by
  rw [Query.template, Query.template, conditionTemplates_query, conditionTemplates_query,
    Query.conditions_erased, h, Query.erased_eq, Clause.query_asRead, Query.erasedInside,
    Clause.query_conditions]

theorem Predicate.template?_erased_of {p : Predicate}
    (h : conditionTemplates settings (erasedConditions p.inner) =
      conditionTemplates settings p.inner) :
    p.erased.template? settings = p.template? settings := by
  cases p with
  | group conditions =>
    rw [Predicate.inner] at h
    rw [Predicate.erased, Predicate.template?, Predicate.template?, h]
  | nonempty query negated =>
    rw [Predicate.erased, Predicate.template?, Predicate.template?]
    exact congrArg (· >>= _) (template_erased_of h)
  | _ => simp only [Predicate.erased]

theorem conditionTemplates_erased (conditions : List Condition) :
    conditionTemplates settings (erasedConditions conditions) =
      conditionTemplates settings conditions := by
  induction conditions using conditions_induction with
  | nil => rw [erasedConditions_nil]
  | cons connective predicate rest inner ih =>
    rw [erasedConditions_cons, conditionTemplates_cons, conditionTemplates_cons,
      Predicate.template?_erased_of inner, ih]

theorem Query.template_erased (q : Query) : q.erased.template settings = q.template settings :=
  template_erased_of (conditionTemplates_erased q.conditions)

theorem Clause.conditions_erased (conditions : List Condition) :
    Clause.conditions settings (erasedConditions conditions) =
      Clause.conditions settings conditions := by
  rw [Clause.conditions, Clause.conditions, conditionTemplates_erased]

end Templates

/-- No comparison is cleared, so that the record id is found in the same one. -/
theorem erasedConditions_unqualifyId (qualified : String) (conditions : List Condition) :
    erasedConditions (Statement.unqualifyId qualified conditions) =
      Statement.unqualifyId qualified (erasedConditions conditions) := by
  induction conditions with
  | nil => rw [Statement.unqualifyId, erasedConditions_nil, Statement.unqualifyId]
  | cons c rest ih =>
    obtain ⟨connective, predicate⟩ := c
    rw [erasedConditions_cons]
    cases predicate with
    | compare column operator operand =>
      simp only [Predicate.erased, Statement.unqualifyId]
      split
      · simp only [erasedConditions_cons, Predicate.erased]
      · simp only [erasedConditions_cons, Predicate.erased, ih]
    | _ => simp only [Predicate.erased, Statement.unqualifyId, erasedConditions_cons, ih]

namespace Statement

variable (settings : Settings) (q : Query)

theorem select_erased : select settings q.erased = select settings q := by
  rw [select, select, Query.check_erased, Query.template_erased]

theorem existence_erased : existence settings q.erased = existence settings q := by
  rw [existence, existence, Query.check_erased, ← Query.erased_limit, Query.template_erased]

theorem insertUsing_erased (columns : List Column) (source : Query) :
    insertUsing settings q columns source.erased = insertUsing settings q columns source := by
  rw [insertUsing, insertUsing, Query.check_erased, Query.template_erased]

theorem update_erasedInside (fields : Fields) :
    update settings q.erasedInside fields = update settings q fields := by
  rw [update, update, Query.check_erasedInside, Query.erasedInside, Clause.conditions_erased]

theorem delete_erasedInside : delete settings q.erasedInside = delete settings q := by
  rw [delete, delete, Query.check_erasedInside, Query.erasedInside,
    ← erasedConditions_unqualifyId, Clause.conditions_erased]

end Statement

/-! ## Nothing is left to ignore -/

/-- A query without anything that a read of it does not look at. -/
structure Query.IsBare (q : Query) : Prop where
  returning : q.options.returning = none
  columns : q.aggregate.isSome → q.columns = none
  edges : q.aggregate.isSome → q.edges = []
  fetch : q.aggregate.isSome → q.fetch = []
  split : q.aggregate.isSome → q.split = []
  options : q.aggregate.isSome → q.options = {}

theorem Query.isBare_asRead (q : Query) : q.asRead.IsBare := by
  unfold Query.asRead
  split
  · exact ⟨rfl, fun _ => rfl, fun _ => rfl, fun _ => rfl, fun _ => rfl, fun _ => rfl⟩
  · rename_i hplain
    exact ⟨rfl, (absurd · hplain), (absurd · hplain), (absurd · hplain), (absurd · hplain),
      (absurd · hplain)⟩

theorem Query.isBare_erased (q : Query) : q.erased.IsBare := by
  rw [Query.erased_eq]
  exact Query.isBare_asRead _

/-- The queries inside of conditions are bare, at any depth. -/
theorem isBare_of_mem_erasedConditions {conditions : List Condition} {query : Query}
    {negated : Bool}
    (h : .nonempty query negated ∈ conditionPredicates (erasedConditions conditions)) :
    query.IsBare := by
  rw [conditionPredicates_erased, List.mem_map] at h
  obtain ⟨p, -, hp⟩ := h
  cases p with
  | nonempty query' negated' =>
    rw [Predicate.erased] at hp
    cases hp
    exact Query.isBare_erased query'
  | _ => simp [Predicate.erased] at hp

/-- What follows the conditions of a read is taken from the erased query. -/
theorem Clause.afterConditions_eq_erased (q : Query) :
    Clause.afterConditions q =
      groups q.groups ++ orders q.orders ++ count "LIMIT" q.limit ++ count "START" q.offset ++
        (names "FETCH" q.erased.fetch ++ execution q.erased.options ++
          names "SPLIT" q.erased.split) := by
  rw [Query.erased_eq]
  unfold Query.asRead Query.erasedInside Clause.afterConditions
  cases q.aggregate with
  | none => rfl
  | some aggregate => rfl

/-- **Reads do not look at what is cleared.** Selecting the results of a query, and selecting
whether there are any, or inserting them, is the same with the erased query, whether it succeeds or
fails. A write gives back what its own options say, and is the same with the queries inside of its
conditions erased. The erased query and the queries inside of it are bare, and a read has the
clauses of the erased query and no others. -/
theorem reads_erased (settings : Settings) (q : Query) :
    Statement.select settings q.erased = Statement.select settings q ∧
      Statement.existence settings q.erased = Statement.existence settings q ∧
      (∀ target columns, Statement.insertUsing settings target columns q.erased =
        Statement.insertUsing settings target columns q) ∧
      (∀ fields, Statement.update settings q.erasedInside fields =
        Statement.update settings q fields) ∧
      Statement.delete settings q.erasedInside = Statement.delete settings q ∧
      q.erased.IsBare ∧
      q.erased.conditions = q.erasedInside.conditions ∧
      (∀ query negated, .nonempty query negated ∈ q.erasedInside.predicates → query.IsBare) ∧
      ∀ t, q.template settings = .ok t → ∃ table links,
        t = .join " " (Clause.selection q.erased :: .raw ("FROM " ++ table) ::
          (Clause.filter (Clause.connected links) ++ (Clause.groups q.groups ++
            Clause.orders q.orders ++ Clause.count "LIMIT" q.limit ++
            Clause.count "START" q.offset ++ (Clause.names "FETCH" q.erased.fetch ++
            Clause.execution q.erased.options ++ Clause.names "SPLIT" q.erased.split)))) := by
  refine ⟨Statement.select_erased settings q, Statement.existence_erased settings q,
    fun target columns => Statement.insertUsing_erased settings target columns q,
    Statement.update_erasedInside settings q, Statement.delete_erasedInside settings q,
    Query.isBare_erased q, Query.conditions_erased q, fun query negated hmem => ?_, fun t ht => ?_⟩
  · rw [Query.predicates_eq] at hmem
    exact isBare_of_mem_erasedConditions hmem
  · obtain ⟨table, links, -, -, rfl⟩ := Query.template_eq_ok ht
    have hselection : Clause.selection q.erased = Clause.selection q := by
      rw [Query.erased_eq, Clause.selection_asRead]
      rfl
    exact ⟨table, links, by rw [hselection, ← Clause.afterConditions_eq_erased]⟩

/-- The mean age of users with orders, with much besides that is not looked at. -/
def meanAge : Query where
  target := "users"
  columns := some [.call ⟨"fn::rank($?)", [.int 1]⟩]
  aggregate := some ⟨"math::mean", [.name "age"]⟩
  edges := ["->likes->users"]
  fetch := ["friends"]
  split := ["tags"]
  options := { returning := some .diff, parallel := true }
  conditions := [⟨.and, .group [⟨.and, .nonempty {
    target := "orders"
    options := { returning := some .before, parallel := true } } false⟩]⟩]

theorem reads_erased_meanAge :
    Statement.select {} meanAge = Statement.select {} meanAge.erased ∧
      meanAge.erased = {
        target := "users"
        aggregate := some ⟨"math::mean", [.name "age"]⟩
        conditions := [⟨.and, .group [⟨.and, .nonempty {
          target := "orders"
          options := { parallel := true } } false⟩]⟩] } ∧
      Statement.select {} meanAge = .ok ⟨.select, .raw (
        "SELECT math::mean(`age`) AS `aggregate` FROM `users` " ++
        "WHERE (true = <bool> count((SELECT * FROM `orders` PARALLEL)))")⟩ := by
  refine ⟨(reads_erased {} meanAge).1.symm, ?_, ?_⟩
  · rfl
  · rfl

end SurrealQuery
