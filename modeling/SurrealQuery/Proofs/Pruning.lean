import SurrealQuery.Proofs.Condition
import SurrealQuery.Proofs.Outcome

/-!
# Groups that hold nothing

A group that holds nothing but such groups is hollow. Hollow groups leave no trace: the clause of a
list of conditions is that of the pruned list, and there is no clause exactly if nothing is left.

A connective is heard if its condition is left, and some condition before it in its own list. The
clause has a different text with the other connective if the connective is heard, and is the same
if it is not (`conditions_pruned`).
-/

namespace SurrealQuery

mutual

/-- Whether a predicate is a group that holds nothing but such groups. -/
def Predicate.isHollow : Predicate → Bool
  | .group conditions => areHollow conditions
  | _ => false

/-- Whether all conditions of a list are hollow groups. -/
def areHollow : List Condition → Bool
  | [] => true
  | ⟨_, predicate⟩ :: rest => predicate.isHollow && areHollow rest

end

mutual

/-- Leaves the hollow groups out, at any depth. -/
def prunedConditions : List Condition → List Condition
  | [] => []
  | ⟨connective, predicate⟩ :: rest =>
    if predicate.isHollow then prunedConditions rest
    else ⟨connective, predicate.pruned⟩ :: prunedConditions rest

def Predicate.pruned : Predicate → Predicate
  | .group conditions => .group (prunedConditions conditions)
  | .nonempty query negated => .nonempty query.pruned negated
  | predicate => predicate

def Query.pruned : Query → Query
  | { target, columns, conditions, groups, orders, limit, offset, aggregate, edges, fetch, split,
      options, joins, unions, havings, lock, distinct } => {
    target, columns, groups, orders, limit, offset, aggregate, edges, fetch, split, options, joins,
    unions, havings, lock, distinct
    conditions := prunedConditions conditions }

end

theorem Query.pruned_eq (q : Query) :
    q.pruned = { q with conditions := prunedConditions q.conditions } := by
  cases q
  rw [Query.pruned]

theorem areHollow_iff {conditions : List Condition} :
    areHollow conditions ↔ ∀ c ∈ conditions, c.predicate.isHollow := by
  induction conditions with
  | nil => simp [areHollow]
  | cons condition rest ih =>
    obtain ⟨connective, predicate⟩ := condition
    rw [areHollow, Bool.and_eq_true, ih, List.forall_mem_cons]

/-! ## Hollow groups have no template -/

section Templates

variable {settings : Settings}

theorem Clause.connected_eq_none {ts : List (Connective × Template)} :
    Clause.connected ts = none ↔ ts = [] := by
  cases ts with
  | nil => simp [Clause.connected]
  | cons link rest => simp [Clause.connected]

/-- The template of a group is that of its conditions between parentheses. -/
theorem Predicate.template?_group (conditions : List Condition) :
    (Predicate.group conditions).template? settings =
      ((conditionTemplates settings conditions).map Clause.connected).map
        (Option.map (.wrap "(" · ")")) := by
  rw [Predicate.template?]
  cases conditionTemplates settings conditions <;> rfl

theorem Predicate.template?_eq_none_of {p : Predicate}
    (h : conditionTemplates settings p.inner = .ok [] ↔ areHollow p.inner) :
    p.template? settings = .ok none ↔ p.isHollow := by
  cases p with
  | group conditions =>
    rw [Predicate.inner] at h
    rw [Predicate.template?_group, Predicate.isHollow, ← h]
    cases conditionTemplates settings conditions with
    | error e => simp [Except.map]
    | ok ts => simp [Except.map, Clause.connected_eq_none]
  | nonempty query negated =>
    rw [Predicate.template?]
    constructor
    · intro hnone
      obtain ⟨inner, -, hsome⟩ := bind_eq_ok.1 hnone
      cases hsome
    · intro hhollow
      simp [Predicate.isHollow] at hhollow
  | _ => simp [Predicate.template?, Predicate.isHollow]

theorem conditionTemplates_cons_eq_nil {connective : Connective} {predicate : Predicate}
    {rest : List Condition} :
    conditionTemplates settings (⟨connective, predicate⟩ :: rest) = .ok [] ↔
      predicate.template? settings = .ok none ∧ conditionTemplates settings rest = .ok [] := by
  rw [conditionTemplates]
  cases predicate.template? settings with
  | error e => simp [bind, Except.bind]
  | ok first =>
    cases conditionTemplates settings rest with
    | error e => simp [bind, Except.bind]
    | ok others => cases first <;> simp [bind, Except.bind, pure, Except.pure]

/-- Conditions that are all hollow have no template, and they are the only ones. -/
theorem conditionTemplates_eq_nil (settings : Settings) (conditions : List Condition) :
    conditionTemplates settings conditions = .ok [] ↔ areHollow conditions := by
  induction conditions using conditions_induction with
  | nil => simp [conditionTemplates, areHollow]
  | cons connective predicate rest inner ih =>
    rw [conditionTemplates_cons_eq_nil, Predicate.template?_eq_none_of inner, ih, areHollow,
      Bool.and_eq_true]

theorem Predicate.template?_eq_none {p : Predicate} :
    p.template? settings = .ok none ↔ p.isHollow :=
  Predicate.template?_eq_none_of (conditionTemplates_eq_nil settings p.inner)

theorem conditionTemplates_cons_of_isHollow {predicate : Predicate} (h : predicate.isHollow)
    (connective : Connective) (rest : List Condition) :
    conditionTemplates settings (⟨connective, predicate⟩ :: rest) =
      conditionTemplates settings rest := by
  rw [conditionTemplates, Predicate.template?_eq_none.2 h]
  cases conditionTemplates settings rest <;> rfl

theorem conditionTemplates_append_of_areHollow {before : List Condition} (h : areHollow before)
    (rest : List Condition) :
    conditionTemplates settings (before ++ rest) = conditionTemplates settings rest := by
  rw [conditionTemplates_append, (conditionTemplates_eq_nil settings before).2 h]
  cases conditionTemplates settings rest <;> rfl

/-! ## Pruning -/

/-- A query depends on its conditions through the template that they have together. -/
theorem Clause.query_congr (q : Query)
    {x y : Except CompileError (List (Connective × Template))}
    (h : x.map Clause.connected = y.map Clause.connected) :
    Clause.query settings q x = Clause.query settings q y := by
  cases Agree.of_map_eq h with
  | error e => rfl
  | ok related =>
    unfold Clause.query
    split
    · rfl
    · cases settings.table q.target with
      | error e => rfl
      | ok table =>
        exact congrArg (fun t => Except.ok (Template.join " " (Clause.selection q ::
          .raw ("FROM " ++ table) :: (Clause.filter t ++ Clause.afterConditions q)))) related

theorem Predicate.template?_pruned_of {p : Predicate}
    (h : conditionTemplates settings (prunedConditions p.inner) =
      conditionTemplates settings p.inner) :
    p.pruned.template? settings = p.template? settings := by
  cases p with
  | group conditions =>
    rw [Predicate.pruned, Predicate.template?_group, Predicate.template?_group]
    exact congrArg _ (congrArg _ h)
  | nonempty query negated =>
    rw [Predicate.pruned, Predicate.template?, Predicate.template?, conditionTemplates_query,
      conditionTemplates_query, Query.pruned_eq]
    exact congrArg (fun x => Clause.query settings query x >>= _) h
  | _ => simp only [Predicate.pruned]

theorem conditionTemplates_pruned (conditions : List Condition) :
    conditionTemplates settings (prunedConditions conditions) =
      conditionTemplates settings conditions := by
  induction conditions using conditions_induction with
  | nil => rw [prunedConditions]
  | cons connective predicate rest inner ih =>
    rw [prunedConditions]
    split
    · rw [conditionTemplates_cons_of_isHollow ‹_›, ih]
    · rw [conditionTemplates, conditionTemplates, Predicate.template?_pruned_of inner, ih]

theorem prunedConditions_eq_nil {conditions : List Condition} :
    prunedConditions conditions = [] ↔ areHollow conditions := by
  induction conditions with
  | nil => simp [prunedConditions, areHollow]
  | cons condition rest ih =>
    obtain ⟨connective, predicate⟩ := condition
    rw [prunedConditions, areHollow, Bool.and_eq_true]
    by_cases h : predicate.isHollow
    · rw [if_pos h, ih]
      simp [h]
    · rw [if_neg h]
      simp [h]

/-- What is left of a group that is not hollow is not hollow. -/
theorem areHollow_prunedConditions (conditions : List Condition) :
    areHollow (prunedConditions conditions) = areHollow conditions := by
  rw [Bool.eq_iff_iff, ← conditionTemplates_eq_nil {}, conditionTemplates_pruned,
    conditionTemplates_eq_nil]

theorem Predicate.isHollow_pruned (p : Predicate) : p.pruned.isHollow = p.isHollow := by
  cases p with
  | group conditions =>
    rw [Predicate.pruned, Predicate.isHollow, Predicate.isHollow, areHollow_prunedConditions]
  | _ => simp only [Predicate.pruned, Predicate.isHollow]

theorem Predicate.inner_pruned (p : Predicate) : p.pruned.inner = prunedConditions p.inner := by
  cases p <;> simp [Predicate.pruned, Predicate.inner, Query.pruned_eq, prunedConditions]

/-- No hollow group is left, at any depth. -/
theorem not_isHollow_of_mem_prunedConditions (conditions : List Condition) :
    ∀ p ∈ conditionPredicates (prunedConditions conditions), ¬p.isHollow := by
  induction conditions using conditions_induction with
  | nil =>
    intro p hp
    rw [prunedConditions, conditionPredicates] at hp
    cases hp
  | cons connective predicate rest inner ih =>
    intro p hp
    rw [prunedConditions] at hp
    split at hp
    · exact ih p hp
    · rename_i hkept
      rw [conditionPredicates_cons, Predicate.inner_pruned, List.mem_cons, List.mem_append] at hp
      rcases hp with rfl | hp | hp
      · rwa [Predicate.isHollow_pruned]
      · exact inner p hp
      · exact ih p hp

end Templates

/-! ## Conditions in their places -/

/-- A condition at any depth of a list of conditions, with its connective left open. -/
inductive Spot where
  | here (before : List Condition) (predicate : Predicate) (after : List Condition)
  | group (before : List Condition) (connective : Connective) (inner : Spot)
    (after : List Condition)
  | nonempty (before : List Condition) (connective : Connective) (query : Query) (inner : Spot)
    (negated : Bool) (after : List Condition)

namespace Spot

/-- The predicate of the condition. -/
def predicate : Spot → Predicate
  | .here _ predicate _ => predicate
  | .group _ _ inner _ => inner.predicate
  | .nonempty _ _ _ inner _ _ => inner.predicate

/-- The conditions before it in its own list. -/
def earlier : Spot → List Condition
  | .here before _ _ => before
  | .group _ _ inner _ => inner.earlier
  | .nonempty _ _ _ inner _ _ => inner.earlier

/-- The whole list, with a connective for the condition. -/
def conditions : Spot → Connective → List Condition
  | .here before predicate after, c => before ++ ⟨c, predicate⟩ :: after
  | .group before connective inner after, c =>
    before ++ ⟨connective, .group (inner.conditions c)⟩ :: after
  | .nonempty before connective query inner negated after, c =>
    before ++ ⟨connective, .nonempty { query with conditions := inner.conditions c } negated⟩ ::
      after

/-- Whether the connective joins the condition to one before it: both are left when the hollow
groups are gone. -/
def IsHeard (spot : Spot) : Prop :=
  ¬spot.predicate.isHollow ∧ ∃ c ∈ spot.earlier, ¬c.predicate.isHollow

instance : DecidablePred IsHeard :=
  fun _ => inferInstanceAs (Decidable (_ ∧ _))

theorem not_isHeard_iff {spot : Spot} :
    ¬spot.IsHeard ↔ spot.predicate.isHollow ∨ areHollow spot.earlier := by
  rw [IsHeard, areHollow_iff]
  by_cases h : spot.predicate.isHollow <;> simp [h]

/-- The spot in a list that has one more condition in front. -/
def push (condition : Condition) : Spot → Spot
  | .here before predicate after => .here (condition :: before) predicate after
  | .group before connective inner after => .group (condition :: before) connective inner after
  | .nonempty before connective query inner negated after =>
    .nonempty (condition :: before) connective query inner negated after

theorem predicate_push (condition : Condition) (spot : Spot) :
    (spot.push condition).predicate = spot.predicate := by
  cases spot <;> rfl

theorem conditions_push (condition : Condition) (spot : Spot) (c : Connective) :
    (spot.push condition).conditions c = condition :: spot.conditions c := by
  cases spot <;> rfl

/-- Every predicate of a list of conditions, at any depth, has its spot. -/
theorem exists_of_mem {conditions : List Condition} :
    ∀ p ∈ conditionPredicates conditions, ∃ (spot : Spot) (c : Connective),
      spot.predicate = p ∧ spot.conditions c = conditions := by
  induction conditions using conditions_induction with
  | nil =>
    intro p hp
    rw [conditionPredicates] at hp
    cases hp
  | cons connective predicate rest inner ih =>
    intro p hp
    rw [conditionPredicates_cons, List.mem_cons, List.mem_append] at hp
    rcases hp with rfl | hp | hp
    · exact ⟨.here [] p rest, connective, rfl, rfl⟩
    · obtain ⟨spot, c, hpredicate, hconditions⟩ := inner p hp
      cases predicate with
      | group conditions =>
        refine ⟨.group [] connective spot rest, c, hpredicate, ?_⟩
        rw [Spot.conditions, hconditions]
        rfl
      | nonempty query negated =>
        refine ⟨.nonempty [] connective query spot negated rest, c, hpredicate, ?_⟩
        rw [Spot.conditions, hconditions]
        cases query
        rfl
      | _ => simp [Predicate.inner, conditionPredicates] at hp
    · obtain ⟨spot, c, hpredicate, hconditions⟩ := ih p hp
      refine ⟨spot.push ⟨connective, predicate⟩, c, ?_, ?_⟩
      · rw [predicate_push, hpredicate]
      · rw [conditions_push, hconditions]

/-! ### Connectives that are not heard -/

section Settings

variable {settings : Settings}

/-- A first connective is left out. -/
theorem connected_conditionTemplates_cons (c c' : Connective) (predicate : Predicate)
    (rest : List Condition) :
    (conditionTemplates settings (⟨c, predicate⟩ :: rest)).map Clause.connected =
      (conditionTemplates settings (⟨c', predicate⟩ :: rest)).map Clause.connected := by
  rw [conditionTemplates, conditionTemplates]
  cases predicate.template? settings with
  | error e => rfl
  | ok first =>
    cases conditionTemplates settings rest with
    | error e => rfl
    | ok others => cases first <;> rfl

/-- Conditions are built alike around predicates that are. -/
theorem conditionTemplates_congr {p p' : Predicate}
    (h : p.template? settings = p'.template? settings) (before : List Condition)
    (connective : Connective) (after : List Condition) :
    conditionTemplates settings (before ++ ⟨connective, p⟩ :: after) =
      conditionTemplates settings (before ++ ⟨connective, p'⟩ :: after) := by
  rw [conditionTemplates_append, conditionTemplates_append, conditionTemplates, conditionTemplates,
    h]

theorem connected_of_not_isHeard {spot : Spot} (h : ¬spot.IsHeard) (c c' : Connective) :
    (conditionTemplates settings (spot.conditions c)).map Clause.connected =
      (conditionTemplates settings (spot.conditions c')).map Clause.connected := by
  rw [not_isHeard_iff] at h
  induction spot with
  | here before predicate after =>
    rw [Spot.predicate, earlier] at h
    rw [conditions, conditions]
    rcases h with hhollow | hhollow
    · rw [conditionTemplates_append, conditionTemplates_append,
        conditionTemplates_cons_of_isHollow hhollow, conditionTemplates_cons_of_isHollow hhollow]
    · rw [conditionTemplates_append_of_areHollow hhollow,
        conditionTemplates_append_of_areHollow hhollow]
      exact connected_conditionTemplates_cons c c' predicate after
  | group before connective inner after ih =>
    refine congrArg _ (conditionTemplates_congr ?_ before connective after)
    rw [Predicate.template?_group, Predicate.template?_group, ih h]
  | nonempty before connective query inner negated after ih =>
    refine congrArg _ (conditionTemplates_congr ?_ before connective after)
    simp only [Predicate.template?, conditionTemplates_query, Clause.query_conditions,
      Clause.query_congr query (ih h)]

/-! ### Connectives that are heard -/

/-- One of two templates has a text with one character more. -/
def Longer (t u : Template) : Prop :=
  t.text.length = u.text.length + 1

theorem Longer.wrap {t u : Template} (h : Longer t u) (before after : String) :
    Longer (.wrap before t after) (.wrap before u after) := by
  unfold Longer at h ⊢
  simp only [Template.text_wrap, String.length_append, h]
  omega

theorem Longer.append_left {t u : Template} (h : Longer t u) (s : Template) :
    Longer (s ++ t) (s ++ u) := by
  unfold Longer at h ⊢
  simp only [Template.text_append, String.length_append, h]
  omega

theorem Longer.append_right {t u : Template} (h : Longer t u) (s : Template) :
    Longer (t ++ s) (u ++ s) := by
  unfold Longer at h ⊢
  simp only [Template.text_append, String.length_append, h]
  omega

/-- Two lists of links that both come to a template, one longer than the other. -/
def LongerLinks (ts us : List (Connective × Template)) : Prop :=
  ∃ t u, Clause.connected ts = some t ∧ Clause.connected us = some u ∧ Longer t u

/-- Links that end alike from some point on. -/
theorem longer_connectedTail (before : List (Connective × Template))
    {ts us : List (Connective × Template)}
    (h : Longer (Clause.connectedTail ts) (Clause.connectedTail us)) :
    Longer (Clause.connectedTail (before ++ ts)) (Clause.connectedTail (before ++ us)) := by
  induction before with
  | nil => exact h
  | cons link before ih => exact ih.append_left _

theorem longerLinks_of_template (before : List (Connective × Template)) (connective : Connective)
    {t u : Template} (h : Longer t u) (after : List (Connective × Template)) :
    LongerLinks (before ++ (connective, t) :: after) (before ++ (connective, u) :: after) := by
  cases before with
  | nil => exact ⟨_, _, rfl, rfl, h.append_right _⟩
  | cons link before =>
    have htail : Longer (Clause.connectedTail ((connective, t) :: after))
        (Clause.connectedTail ((connective, u) :: after)) :=
      (h.append_left _).append_right _
    exact ⟨_, _, rfl, rfl, (longer_connectedTail before htail).append_left _⟩

theorem longerLinks_of_connective {before : List (Connective × Template)} (hbefore : before ≠ [])
    (t : Template) (after : List (Connective × Template)) :
    LongerLinks (before ++ (.and, t) :: after) (before ++ (.or, t) :: after) := by
  obtain ⟨link, before, rfl⟩ := List.exists_cons_of_ne_nil hbefore
  have hkeyword : Longer (.raw (" " ++ Connective.and.keyword ++ " "))
      (.raw (" " ++ Connective.or.keyword ++ " ")) := rfl
  have htail : Longer (Clause.connectedTail ((.and, t) :: after))
      (Clause.connectedTail ((.or, t) :: after)) :=
    (hkeyword.append_right t).append_right _
  exact ⟨_, _, rfl, rfl, (longer_connectedTail before htail).append_left _⟩

/-- A query is longer where its conditions are. -/
theorem agree_query (q : Query) {x y : Except CompileError (List (Connective × Template))}
    (h : Agree LongerLinks x y) :
    Agree Longer (Clause.query settings q x) (Clause.query settings q y) := by
  cases h with
  | error e =>
    unfold Clause.query
    split
    · exact .error _
    · cases settings.table q.target <;> exact .error _
  | ok related =>
    obtain ⟨t, u, ht, hu, hlonger⟩ := related
    unfold Clause.query
    split
    · exact .error _
    · cases settings.table q.target with
      | error e => exact .error e
      | ok table =>
        refine .ok ?_
        rw [ht, hu]
        have hclause : Longer (Clause.after "WHERE" t) (Clause.after "WHERE" u) :=
          hlonger.append_left _
        have htail := (hclause.append_left (.raw " ")).append_right
          (.joinTail " " (Clause.afterConditions q))
        exact (htail.append_left _).append_left _

/-- A condition is longer where its predicate is. -/
theorem agree_conditionTemplates {p p' : Predicate}
    (h : Agree (fun first first' => ∃ t u, first = some t ∧ first' = some u ∧ Longer t u)
      (p.template? settings) (p'.template? settings)) (before : List Condition)
    (connective : Connective) (after : List Condition) :
    Agree LongerLinks (conditionTemplates settings (before ++ ⟨connective, p⟩ :: after))
      (conditionTemplates settings (before ++ ⟨connective, p'⟩ :: after)) := by
  rw [conditionTemplates_append, conditionTemplates_append, conditionTemplates, conditionTemplates]
  refine Agree.bind_same _ fun ts _ => Agree.bind (R := fun links links' => ∃ t u others,
    links = (connective, t) :: others ∧ links' = (connective, u) :: others ∧ Longer t u) ?_ ?_
  · refine h.bind fun first first' hfirst => Agree.bind_same _ fun others _ => ?_
    obtain ⟨t, u, rfl, rfl, hlonger⟩ := hfirst
    exact .ok ⟨t, u, others, rfl, rfl, hlonger⟩
  · rintro links links' ⟨t, u, others, rfl, rfl, hlonger⟩
    exact .ok (longerLinks_of_template ts connective hlonger others)

theorem agree_of_isHeard {spot : Spot} (h : spot.IsHeard) :
    Agree LongerLinks (conditionTemplates settings (spot.conditions .and))
      (conditionTemplates settings (spot.conditions .or)) := by
  induction spot with
  | here before predicate after =>
    obtain ⟨hpredicate, hearlier⟩ := h
    rw [conditions, conditions, conditionTemplates_append, conditionTemplates_append,
      conditionTemplates, conditionTemplates]
    refine Agree.bind_same _ fun ts hts => ?_
    have hne : ts ≠ [] := by
      rintro rfl
      rw [conditionTemplates_eq_nil, areHollow_iff] at hts
      obtain ⟨c, hc, hkept⟩ := hearlier
      exact hkept (hts c hc)
    cases hfirst : predicate.template? settings with
    | error e => exact .error e
    | ok first =>
      cases first with
      | none => exact absurd (Predicate.template?_eq_none.1 hfirst) hpredicate
      | some t =>
        cases conditionTemplates settings after with
        | error e => exact .error e
        | ok others => exact .ok (longerLinks_of_connective hne t others)
  | group before connective inner after ih =>
    refine agree_conditionTemplates ?_ before connective after
    rw [Predicate.template?, Predicate.template?]
    refine (ih h).bind fun ts us hlonger => ?_
    obtain ⟨t, u, ht, hu, hlonger⟩ := hlonger
    rw [ht, hu]
    exact .ok ⟨_, _, rfl, rfl, hlonger.wrap "(" ")"⟩
  | nonempty before connective query inner negated after ih =>
    refine agree_conditionTemplates ?_ before connective after
    simp only [Predicate.template?, conditionTemplates_query, Clause.query_conditions]
    exact (agree_query query (ih h)).bind fun t u hlonger =>
      .ok ⟨_, _, rfl, rfl, hlonger.wrap _ _⟩

end Settings

end Spot

/-! ## The clause of conditions -/

section Clause

variable {settings : Settings}

theorem Clause.conditions_eq_map (conditions : List Condition) :
    Clause.conditions settings conditions =
      ((conditionTemplates settings conditions).map Clause.connected).map Clause.filter := by
  unfold Clause.conditions
  cases conditionTemplates settings conditions <;> rfl

/-- There is no clause exactly if all conditions are hollow. -/
theorem Clause.eq_nil_iff_areHollow {conditions : List Condition} {ts : List Template}
    (h : Clause.conditions settings conditions = .ok ts) : ts = [] ↔ areHollow conditions := by
  obtain ⟨links, hlinks, hts⟩ := bind_eq_ok.1 h
  have hclause : ts = Clause.filter (Clause.connected links) := (Except.ok.inj hts).symm
  have hnone : Clause.filter (Clause.connected links) = [] ↔ links = [] := by
    rw [← Clause.connected_eq_none, Clause.filter, List.map_eq_nil_iff, Option.toList_eq_nil_iff]
  rw [hclause, hnone, ← conditionTemplates_eq_nil settings, hlinks, Except.ok.injEq]

theorem Spot.agree_clauses (settings : Settings) {spot : Spot} (h : spot.IsHeard) :
    Agree (fun ts us => ts.map Template.text ≠ us.map Template.text)
      (Clause.conditions settings (spot.conditions .and))
      (Clause.conditions settings (spot.conditions .or)) := by
  refine (agree_of_isHeard h).bind fun links links' hlonger => .ok fun htexts => ?_
  obtain ⟨t, u, ht, hu, hlonger⟩ := hlonger
  rw [ht, hu] at htexts
  have htext : (Clause.after "WHERE" t).text = (Clause.after "WHERE" u).text :=
    (List.cons.inj htexts).1
  have hlength : (Clause.after "WHERE" t).text.length = (Clause.after "WHERE" u).text.length + 1 :=
    hlonger.append_left _
  rw [htext] at hlength
  omega

end Clause

/-- **Hollow groups leave no trace, and connectives count where they join.** Conditions have the
clause of the pruned conditions, in which no hollow group is left, and there is no clause exactly if
nothing is left at all. Every condition, at any depth, has its spot. If the connective there is not
heard, it may be either one; if it is heard, the other one gives a clause with another text. -/
theorem conditions_pruned (settings : Settings) :
    (∀ ws, Clause.conditions settings (prunedConditions ws) = Clause.conditions settings ws ∧
      (∀ p ∈ conditionPredicates (prunedConditions ws), ¬p.isHollow) ∧
      (∀ ts, Clause.conditions settings ws = .ok ts → (ts = [] ↔ prunedConditions ws = [])) ∧
      ∀ p ∈ conditionPredicates ws, ∃ (spot : Spot) (c : Connective),
        spot.predicate = p ∧ spot.conditions c = ws) ∧
    ∀ spot : Spot,
      (¬spot.IsHeard → ∀ c c', Clause.conditions settings (spot.conditions c) =
        Clause.conditions settings (spot.conditions c')) ∧
      (spot.IsHeard → ∀ c c', c ≠ c' → ∀ ts,
        Clause.conditions settings (spot.conditions c) = .ok ts →
        ∃ ts', Clause.conditions settings (spot.conditions c') = .ok ts' ∧
          ts.map Template.text ≠ ts'.map Template.text) := by
  refine ⟨fun ws => ⟨?_, not_isHollow_of_mem_prunedConditions ws, fun ts hts => ?_,
    Spot.exists_of_mem⟩, fun spot => ⟨fun hquiet c c' => ?_, fun hheard c c' hne ts hts => ?_⟩⟩
  · rw [Clause.conditions, Clause.conditions, conditionTemplates_pruned]
  · rw [Clause.eq_nil_iff_areHollow hts, prunedConditions_eq_nil]
  · rw [Clause.conditions_eq_map, Clause.conditions_eq_map, Spot.connected_of_not_isHeard hquiet]
  · have hagree := Spot.agree_clauses settings hheard
    cases c <;> cases c'
    · exact absurd rfl hne
    · exact hagree.exists_ok hts
    · obtain ⟨ts', hts', htexts⟩ := hagree.symm.exists_ok hts
      exact ⟨ts', hts', htexts.symm⟩
    · exact absurd rfl hne

/-- Users who are not banned and have an order that is not paid or was not sent. Hollow groups stand
before the first condition and among those on orders. -/
def lateOrders : Spot :=
  .nonempty [⟨.or, .group [⟨.and, .group []⟩, ⟨.or, .group []⟩]⟩, ⟨.and, .null (.name "ban") false⟩]
    .and { target := "orders" }
    (.here [⟨.and, .null (.name "paid") false⟩, ⟨.or, .group []⟩] (.null (.name "sent") false) [])
    false []

/-- The same, with the connective of the first condition that is left. -/
def lateOrdersFirst : Spot :=
  .here [⟨.or, .group [⟨.and, .group []⟩, ⟨.or, .group []⟩]⟩] (.null (.name "ban") false)
    ((lateOrders.conditions .or).drop 2)

theorem conditions_pruned_lateOrders :
    lateOrders.IsHeard ∧ ¬lateOrdersFirst.IsHeard ∧
      lateOrdersFirst.conditions .and = lateOrders.conditions .or ∧
      Clause.conditions {} (lateOrdersFirst.conditions .or) =
        Clause.conditions {} (lateOrders.conditions .or) ∧
      (∃ ts ts', Clause.conditions {} (lateOrders.conditions .or) = .ok ts ∧ ts ≠ [] ∧
        Clause.conditions {} (lateOrders.conditions .and) = .ok ts' ∧
        ts.map Template.text ≠ ts'.map Template.text) ∧
      ∃ ts, Clause.conditions {} (lateOrdersFirst.earlier) = .ok ts ∧ ts = [] := by
  have hheard : lateOrders.IsHeard := by decide
  have hquiet : ¬lateOrdersFirst.IsHeard := by decide
  obtain ⟨hpruned, hspots⟩ := conditions_pruned {}
  refine ⟨hheard, hquiet, rfl, (hspots lateOrdersFirst).1 hquiet .or .and, ?_, [], rfl, ?_⟩
  · obtain ⟨ts, hts⟩ : ∃ ts, Clause.conditions {} (lateOrders.conditions .or) = .ok ts := ⟨_, rfl⟩
    obtain ⟨ts', hts', htexts⟩ := (hspots lateOrders).2 hheard .or .and (by decide) ts hts
    refine ⟨ts, ts', hts, fun hnil => ?_, hts', htexts⟩
    have hleft := ((hpruned _).2.2.1 ts hts).1 hnil
    cases hleft
  · exact ((hpruned lateOrdersFirst.earlier).2.2.1 [] rfl).2 rfl

end SurrealQuery
