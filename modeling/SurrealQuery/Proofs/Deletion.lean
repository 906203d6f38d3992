import SurrealQuery.Proofs.Insertion
import SurrealQuery.Proofs.TablePrefix

/-!
# Deleting

A deletion names the record id without its table, in the first comparison that has the qualified
name. Apart from that its conditions are those of the query: it has the table, the conditions and the
options of an update of the same query, and the same bindings (`delete_as_update`).
-/

namespace SurrealQuery

/-! ## Naming the record id -/

/-- Conditions before and after the record id is named without its table. The first condition that
compares the column of the qualified name has the bare name instead. Groups and queries inside of
conditions are not looked into, and all else stays. -/
inductive Unqualified (qualified : String) : List Condition → List Condition → Prop
  | same {conditions : List Condition}
    (h : ∀ c ∈ conditions, ∀ operator operand,
      c.predicate ≠ .compare (.name qualified) operator operand) :
    Unqualified qualified conditions conditions
  | renamed (before : List Condition)
    (h : ∀ c ∈ before, ∀ operator operand,
      c.predicate ≠ .compare (.name qualified) operator operand)
    (connective : Connective) (operator : String) (operand : Operand) (after : List Condition) :
    Unqualified qualified
      (before ++ ⟨connective, .compare (.name qualified) operator operand⟩ :: after)
      (before ++ ⟨connective, .compare (.name "id") operator operand⟩ :: after)

theorem Predicate.compares_eq_false_iff {name : String} {p : Predicate} :
    p.compares name = false ↔ ∀ operator operand, p ≠ .compare (.name name) operator operand := by
  cases p with
  | compare column operator operand => cases column <;> simp [Predicate.compares, Column.isNamed]
  | _ => simp [Predicate.compares]

namespace Statement

variable {qualified : String} {before conditions : List Condition}

theorem unqualifyId_append (h : ∀ c ∈ before, c.predicate.compares qualified = false)
    (rest : List Condition) :
    unqualifyId qualified (before ++ rest) = before ++ unqualifyId qualified rest := by
  induction before with
  | nil => rfl
  | cons c before ih =>
    rw [List.forall_mem_cons] at h
    rw [List.cons_append, unqualifyId_cons h.1, ih h.2, List.cons_append]

theorem unqualifyId_compare (connective : Connective) (operator : String) (operand : Operand)
    (rest : List Condition) :
    unqualifyId qualified (⟨connective, .compare (.name qualified) operator operand⟩ :: rest) =
      ⟨connective, .compare (.name "id") operator operand⟩ :: rest := by
  have hnamed : (Column.name qualified).isNamed qualified := beq_self_eq_true qualified
  rw [unqualifyId, if_pos hnamed]

theorem unqualified_unqualifyId (qualified : String) (conditions : List Condition) :
    Unqualified qualified conditions (unqualifyId qualified conditions) := by
  induction conditions with
  | nil => exact .same nofun
  | cons c rest ih =>
    by_cases hc : c.predicate.compares qualified = false
    · have hne := Predicate.compares_eq_false_iff.1 hc
      rw [unqualifyId_cons hc]
      generalize unqualifyId qualified rest = renamed at ih
      cases ih with
      | same h => exact .same (List.forall_mem_cons.2 ⟨hne, h⟩)
      | renamed before h connective operator operand after =>
        exact .renamed (c :: before) (List.forall_mem_cons.2 ⟨hne, h⟩) connective operator operand
          after
    · obtain ⟨connective, predicate⟩ := c
      rw [Predicate.compares_eq_false_iff] at hc
      simp only [ne_eq, not_forall, not_not] at hc
      obtain ⟨operator, operand, rfl⟩ := hc
      rw [unqualifyId_compare]
      exact .renamed [] nofun connective operator operand rest

/-- There is one way to name the record id without its table. -/
theorem unqualified_iff {others : List Condition} :
    Unqualified qualified conditions others ↔ others = unqualifyId qualified conditions := by
  constructor
  · intro h
    cases h with
    | same h =>
      symm
      apply unqualifyId_of_not_compares
      rw [List.any_eq_false]
      intro c hc
      rw [Bool.not_eq_true]
      exact Predicate.compares_eq_false_iff.2 (h c hc)
    | renamed before h connective operator operand after =>
      have hbefore := fun c hc => Predicate.compares_eq_false_iff.2 (h c hc)
      rw [unqualifyId_append hbefore, unqualifyId_compare]
  · rintro rfl
    exact unqualified_unqualifyId qualified conditions

end Statement

/-! ## Bindings of conditions -/

theorem Clause.bindings_connectedTail (ts : List (Connective × Template)) :
    (Clause.connectedTail ts).bindings = ts.flatMap (·.2.bindings) := by
  induction ts with
  | nil => rfl
  | cons t rest ih =>
    rw [Clause.connectedTail, Template.bindings_append, Template.bindings_append, ih]
    rfl

theorem Clause.bindings_filter (ts : List (Connective × Template)) :
    (Clause.filter (Clause.connected ts)).flatMap Template.bindings =
      ts.flatMap (·.2.bindings) := by
  cases ts with
  | nil => rfl
  | cons t rest =>
    show (t.2.bindings ++ (Clause.connectedTail rest).bindings) ++ [] = _
    rw [Clause.bindings_connectedTail, List.append_nil]
    rfl

variable {settings : Settings} {qualified : String} {conditions others : List Condition}

/-- A name has no bindings, so that another one changes neither bindings nor errors. -/
theorem Unqualified.agree_conditionTemplates (h : Unqualified qualified conditions others) :
    Agree (fun ts us => ts.flatMap (·.2.bindings) = us.flatMap (·.2.bindings))
      (conditionTemplates settings conditions) (conditionTemplates settings others) := by
  cases h with
  | same h =>
    cases conditionTemplates settings conditions with
    | error e => exact .error e
    | ok ts => exact .ok rfl
  | renamed before h connective operator operand after =>
    -- Only the text of the renamed comparison changes, between two lists that are the same.
    rw [conditionTemplates_append, conditionTemplates_append]
    refine .bind_same _ fun ts _ => ?_
    rw [conditionTemplates_cons, conditionTemplates_cons]
    cases conditionTemplates settings after with
    | error e => exact .error e
    | ok us =>
      refine .ok ?_
      simp only [List.flatMap_append]
      rfl

theorem Unqualified.agree_conditions (h : Unqualified qualified conditions others) :
    Agree (fun ts us => ts.flatMap Template.bindings = us.flatMap Template.bindings)
      (Clause.conditions settings conditions) (Clause.conditions settings others) := by
  refine h.agree_conditionTemplates.bind fun ts us hsame => .pure ?_
  rw [Clause.bindings_filter, Clause.bindings_filter, hsame]

/-! ## Deletions and updates -/

namespace Statement

/-- A statement about a table: a keyword, the table, and clauses. -/
def onTable (verb : Verb) (keyword table : String) (clauses : List Template) : Statement :=
  ⟨verb, .raw (keyword ++ table) ++ .joinTail " " clauses⟩

theorem bindings_onTable (verb : Verb) (keyword table : String) (clauses : List Template) :
    (onTable verb keyword table clauses).template.bindings = clauses.flatMap Template.bindings := by
  unfold onTable
  rw [Template.bindings_append, Template.bindings_raw, Template.bindings_joinTail, List.nil_append]

theorem update_empty (settings : Settings) (q : Query) :
    update settings q .empty = (do
      q.check
      let table ← settings.table q.target
      let filter ← Clause.conditions settings q.conditions
      return onTable .update "UPDATE " table (filter ++ Clause.options q.options)) :=
  rfl

theorem delete_eq (settings : Settings) (q : Query) :
    delete settings q = (do
      q.check
      let table ← settings.table q.target
      let filter ← Clause.conditions settings (unqualifyId (q.target ++ ".id") q.conditions)
      return onTable .delete (if recordMark ∈ q.target.toList then "DELETE " else "DELETE FROM ")
        table (filter ++ Clause.options q.options)) := by
  unfold delete isRecordReference
  simp only [List.contains_iff_mem]
  rfl

theorem update_eq_ok {q : Query} (hcheck : q.check = .ok ()) {table : String}
    (htable : settings.table q.target = .ok table) {filter : List Template}
    (hfilter : Clause.conditions settings q.conditions = .ok filter) :
    update settings q .empty =
      .ok (onTable .update "UPDATE " table (filter ++ Clause.options q.options)) := by
  rw [update_empty, hcheck, htable, hfilter]
  rfl

end Statement

section Unqualify

variable (q : Query) (qualified : String)

theorem Query.features_unqualifyId :
    { q with conditions := Statement.unqualifyId qualified q.conditions }.features = q.features :=
  congrArg (q.clauseFeatures ++ ·)
    (flatMap_predicates_unqualifyId Predicate.features (fun _ _ _ => rfl) qualified q.conditions)

theorem Query.references_unqualifyId :
    { q with conditions := Statement.unqualifyId qualified q.conditions }.references =
      q.references :=
  congrArg (q.target :: ·)
    (flatMap_predicates_unqualifyId Predicate.references (fun _ _ _ => rfl) qualified q.conditions)

theorem Query.check_unqualifyId :
    { q with conditions := Statement.unqualifyId qualified q.conditions }.check = q.check := by
  rw [Query.check_eq, Query.check_eq, Query.features_unqualifyId]

theorem Query.complaint?_unqualifyId :
    { q with conditions := Statement.unqualifyId qualified q.conditions }.complaint? =
      q.complaint? := by
  unfold Query.complaint?
  rw [Query.features_unqualifyId, Query.references_unqualifyId]

end Unqualify

/-- **A deletion filters as an update does.** Let the record id be named without its table in the
first condition that compares it, which can be done in one way. The query as it is then updated and
the query as it was deleted are about the same table, with the same conditions and options behind
it. The query as it was updated has the same bindings. All three are accepted together, and refused
with the same error. -/
theorem delete_as_update (settings : Settings) (q : Query) :
    ∃ conditions,
      (∀ others, Unqualified (q.target ++ ".id") q.conditions others ↔ others = conditions) ∧
      failure? (Statement.delete settings q) = failure? (Statement.update settings q .empty) ∧
      failure? (Statement.update settings { q with conditions } .empty) =
        failure? (Statement.update settings q .empty) ∧
      ∀ s, Statement.delete settings q = .ok s →
        ∃ (table tail : String) (updated updated' : Statement) (filter : List Template),
          settings.table q.target = .ok table ∧
          Statement.update settings q .empty = .ok updated ∧
          Statement.update settings { q with conditions } .empty = .ok updated' ∧
          Clause.conditions settings conditions = .ok filter ∧
          tail = (Template.joinTail " " (filter ++ Clause.options q.options)).text ∧
          updated'.template.text = "UPDATE " ++ table ++ tail ∧
          s.template.text =
            (if recordMark ∈ q.target.toList then "DELETE " else "DELETE FROM ") ++ table ++ tail ∧
          s.template.bindings = updated.template.bindings ∧
          updated'.template.bindings = updated.template.bindings := by
  have hunqualified := Statement.unqualified_unqualifyId (q.target ++ ".id") q.conditions
  refine ⟨_, fun others => Statement.unqualified_iff, ?_, ?_, fun s hs => ?_⟩
  · rw [failure?_delete, failure?_update]
  · rw [failure?_update, failure?_update, Query.complaint?_unqualifyId]
  · rw [Statement.delete_eq] at hs
    obtain ⟨⟨⟩, hcheck, hs⟩ := bind_eq_ok.1 hs
    obtain ⟨table, htable, hs⟩ := bind_eq_ok.1 hs
    obtain ⟨filter, hfilter, hs⟩ := bind_eq_ok.1 hs
    cases hs
    obtain ⟨filter₀, hfilter₀, hbindings⟩ := hunqualified.agree_conditions.symm.exists_ok hfilter
    have hupdate := Statement.update_eq_ok hcheck htable hfilter₀
    have hcheck' := (q.check_unqualifyId (q.target ++ ".id")).trans hcheck
    have hupdate' := Statement.update_eq_ok hcheck' htable hfilter
    have hsame (verb verb' : Verb) (keyword keyword' : String) :
        (Statement.onTable verb keyword table (filter ++ Clause.options q.options)).template.bindings =
          (Statement.onTable verb' keyword' table
            (filter₀ ++ Clause.options q.options)).template.bindings := by
      rw [Statement.bindings_onTable, Statement.bindings_onTable, List.flatMap_append,
        List.flatMap_append, hbindings]
    exact ⟨table, _, _, _, filter, htable, hupdate, hupdate', hfilter, rfl, rfl, rfl, hsame ..,
      hsame ..⟩

/-- Sessions by their record id, which is named in a group, in a text and in other predicates before
the column that is given, and once more after it. -/
def sessionsById (column : Column) : Query where
  target := "sessions"
  conditions := [
    ⟨.and, .group [⟨.and, .compare (.name "sessions.id") "=" (.literal (.int 1))⟩]⟩,
    ⟨.or, .compare (.raw "sessions.id") "=" (.literal (.int 2))⟩,
    ⟨.or, .null (.name "sessions.id") false⟩,
    ⟨.and, .compare column "=" (.literal (.int 3))⟩,
    ⟨.or, .compare (.name "sessions.id") "=" (.literal (.int 4))⟩]

theorem delete_as_update_sessions :
    ∃ (s updated : Statement) (tail : String),
      Statement.delete {} (sessionsById (.name "sessions.id")) = .ok s ∧
      Statement.update {} (sessionsById (.name "id")) .empty = .ok updated ∧
      s.template.text = "DELETE FROM `sessions`" ++ tail ∧
      updated.template.text = "UPDATE `sessions`" ++ tail ∧
      s.template.bindings = updated.template.bindings := by
  obtain ⟨conditions, hunique, -, -, hok⟩ :=
    delete_as_update {} (sessionsById (.name "sessions.id"))
  obtain rfl : (sessionsById (.name "id")).conditions = conditions := by
    refine (hunique _).1 (.renamed [_, _, _] ?_ _ _ _ _)
    simp
  obtain ⟨table, tail, _, updated, _, htable, -, hupdated, -, -, htext, hdeleted, hs, hbindings⟩ :=
    hok _ rfl
  cases htable
  exact ⟨_, updated, tail, rfl, hupdated, hdeleted, htext, hs.trans hbindings.symm⟩

end SurrealQuery
