import Mathlib.Data.List.Forall2
import SurrealQuery.Proofs.Outcome
import SurrealQuery.Proofs.Parts

/-!
# Rewriting and building

What the caller gives ends up in a statement as it is, or quoted, between fixed texts. So a relation
between templates that holds for the parts, and that is kept where one template follows another,
holds for what is built from them: for clauses, for conditions at any depth and for queries.
-/

namespace SurrealQuery

/-! ## Relations that are kept -/

/-- A relation between templates and rewritten ones. Texts are related to themselves if what they
are made of is good and adds no placeholder to it; templates may follow each other where no
placeholder comes about in between. -/
structure Respects (w : Rewriting) (Good : Call → Prop) (R : Template → Template → Prop) :
    Prop where
  plain {s : String} : IsPlain s → Good ⟨s, []⟩
  text {s : String} (sources : List String) : ((∀ t ∈ sources, IsPlain t) → IsPlain s) →
    (∀ t ∈ sources, Good ⟨t, []⟩) → R (.raw s) (.raw s)
  append {s t u v : Template} : Apart s.text t.text → R s u → R t v → R (s ++ t) (u ++ v)
  literal (v : Value) : R (.literal v) (w.literal v).template
  operand {c : Call} : Good c → R (Operand.call c).template (w.operand c).template
  column {c : Call} : Good c → R (Column.call c).template (w.column c).template
  predicate {c : Call} : Good c → R (.bound .query c.expression c.arguments)
    (.bound .query (w.predicate c).expression (w.predicate c).arguments)

/-- Templates that are related, with the same connective. -/
def Linked (R : Template → Template → Prop) (a b : Connective × Template) : Prop :=
  a.1 = b.1 ∧ R a.2 b.2

namespace Respects

variable {w : Rewriting} {Good : Call → Prop} {R : Template → Template → Prop}
  (H : Respects w Good R)

include H

/-! ### Pieces -/

theorem fixed {s : String} (hs : IsPlain s) : R (.raw s) (.raw s) :=
  H.text [] (fun _ => hs) (by simp)

/-- A text that is made of one part. -/
theorem rendered {t s : String} (hs : IsPlain t → IsPlain s) (good : Good ⟨t, []⟩) :
    R (.raw s) (.raw s) :=
  H.text [t] (fun h => hs (h t (by simp))) (by simpa using good)

theorem before {g : String} {t v : Template} (ht : R t v) (hg : IsGlue g) :
    R (.raw g ++ t) (.raw g ++ v) :=
  H.append (apart_of_closes hg.2.2) (H.fixed hg.1) ht

theorem after {g : String} {s u : Template} (hs : R s u) (hg : IsGlue g) :
    R (s ++ .raw g) (u ++ .raw g) :=
  H.append (apart_of_opens hg.2.1) hs (H.fixed hg.1)

/-- A text that keeps its neighbours apart stands between two templates. -/
theorem between {g : String} {s t u v : Template} (hopens : opens g) (hcloses : closes g)
    (hg : R (.raw g) (.raw g)) (hs : R s u) (ht : R t v) :
    R (s ++ .raw g ++ t) (u ++ .raw g ++ v) :=
  H.append (apart_of_closes (closes_append s.text hcloses))
    (H.append (apart_of_opens hopens) hs hg) ht

theorem glued {g : String} {s t u v : Template} (hs : R s u) (ht : R t v)
    (hg : IsGlue g) : R (s ++ .raw g ++ t) (u ++ .raw g ++ v) :=
  H.between hg.2.1 hg.2.2 (H.fixed hg.1) hs ht

theorem wrap {a b : String} {t v : Template} (ha : R (.raw a) (.raw a)) (ht : R t v)
    (hcloses : closes a) (hb : IsGlue b) :
    R (.wrap a t b) (.wrap a v b) := by
  rw [Template.wrap_eq, Template.wrap_eq]
  exact H.after (H.append (apart_of_closes hcloses) ha ht) hb

omit H in
theorem apart_joinTail (s : String) {g : String} (hg : opens g) (ts : List Template) :
    Apart s (Template.joinTail g ts).text := by
  cases ts with
  | nil => intro _; rw [Template.joinTail]; decide
  | cons t rest => exact apart_of_opens (opens_append _ (opens_append _ hg))

theorem joinTail {g : String} {ts us : List Template} (h : List.Forall₂ R ts us)
    (hg : IsGlue g) : R (.joinTail g ts) (.joinTail g us) := by
  induction h with
  | nil => exact H.fixed (by decide)
  | cons head _ ih => exact H.append (apart_joinTail _ hg.2.1 _) (H.before head hg) ih

theorem join {g : String} {ts us : List Template} (h : List.Forall₂ R ts us)
    (hg : IsGlue g) : R (.join g ts) (.join g us) := by
  cases h with
  | nil => exact H.fixed (by decide)
  | cons head rest => exact H.append (apart_joinTail _ hg.2.1 _) head (H.joinTail rest hg)

omit H in
theorem forall₂_map {α : Type} {as : List α} {f g : α → Template}
    (h : ∀ a ∈ as, R (f a) (g a)) : List.Forall₂ R (as.map f) (as.map g) := by
  rw [List.forall₂_map_left_iff, List.forall₂_map_right_iff, List.forall₂_same]
  exact h

/-- A list with a separator, built from parts of its items. -/
theorem join_map {α : Type} {g : String} {as : List α} {f f' : α → Template}
    {parts : α → List Call} (good : ∀ c ∈ as.flatMap parts, Good c)
    (h : ∀ a, (∀ c ∈ parts a, Good c) → R (f a) (f' a)) (hg : IsGlue g) :
    R (.join g (as.map f)) (.join g (as.map f')) :=
  H.join (forall₂_map fun a ha => h a fun c hc => good c (List.mem_flatMap.2 ⟨a, ha, hc⟩)) hg

/-! ### Clauses -/

theorem operandTemplate {o : Operand} (good : ∀ c ∈ o.parts, Good c) :
    R o.template (o.rewrite w).template := by
  cases o with
  | literal v => exact H.literal v
  | raw text => exact H.rendered id (good _ (List.mem_singleton_self _))
  | call c => exact H.operand (good c (List.mem_singleton_self c))

theorem columnTemplate {c : Column} (good : ∀ p ∈ c.parts, Good p) :
    R c.template (c.rewrite w).template := by
  cases c with
  | name s => exact H.rendered isPlain_column (good _ (List.mem_singleton_self _))
  | raw text => exact H.rendered id (good _ (List.mem_singleton_self _))
  | call c => exact H.column (good c (List.mem_singleton_self c))

theorem columns {cs : List Column} (good : ∀ c ∈ cs.flatMap Column.parts, Good c) :
    R (Clause.columns cs) (Clause.columns (cs.map (Column.rewrite w))) := by
  unfold Clause.columns
  rw [List.map_map]
  exact H.join_map good (fun c => H.columnTemplate) (by decide)

theorem operands {os : List Operand} (good : ∀ c ∈ os.flatMap Operand.parts, Good c) :
    R (Clause.operands os) (Clause.operands (os.map (Operand.rewrite w))) := by
  unfold Clause.operands
  rw [List.map_map]
  exact H.join_map good (fun o => H.operandTemplate) (by decide)

theorem orderTerm {o : OrderTerm} (good : ∀ c ∈ o.parts, Good c) :
    R (Clause.orderTerm o) (Clause.orderTerm (o.rewrite w)) := by
  cases o with
  | raw text => exact H.rendered id (good _ (List.mem_singleton_self _))
  | random => exact H.fixed (by decide)
  | byColumn column kind direction =>
    have hdirection : IsGlue (" " ++ direction.keyword) := by cases direction <;> decide
    have hcolumn := H.columnTemplate fun c hc => good c (List.mem_append_left _ hc)
    cases kind with
    | none => exact H.after hcolumn (by rw [String.empty_append]; exact hdirection)
    | some kind =>
      have hkind : Good ⟨kind, []⟩ := good _ (List.mem_append_right _ (by simp))
      refine H.append (apart_of_opens ?_) hcolumn (H.rendered (fun h => ?_) hkind)
      · exact opens_append _ (opens_append _ (opens_append _ (by decide)))
      · rw [String.append_assoc]
        exact ((isPlain_upper h).glue_append (by decide)).append_glue hdirection

omit H in
theorem overList {α : Type} {as bs : List α} {clause : List α → Template}
    (hempty : as.isEmpty = bs.isEmpty) (h : R (clause as) (clause bs)) :
    List.Forall₂ R (Clause.overList clause as) (Clause.overList clause bs) := by
  cases as with
  | nil =>
    rw [List.isEmpty_iff.1 hempty.symm]
    exact .nil
  | cons a as =>
    cases bs with
    | nil => cases hempty
    | cons b bs => exact .cons h .nil

theorem groups {cs : List Column} (good : ∀ c ∈ cs.flatMap Column.parts, Good c) :
    List.Forall₂ R (Clause.groups cs) (Clause.groups (cs.map (Column.rewrite w))) :=
  overList List.isEmpty_map.symm (H.before (H.columns good) (by decide))

theorem orders {os : List OrderTerm} (good : ∀ c ∈ os.flatMap OrderTerm.parts, Good c) :
    List.Forall₂ R (Clause.orders os) (Clause.orders (os.map (OrderTerm.rewrite w))) := by
  refine overList List.isEmpty_map.symm (H.before ?_ (by decide))
  rw [List.map_map]
  exact H.join_map good (fun o => H.orderTerm) (by decide)

theorem count {keyword : String} (n : Option UInt64)
    (hkeyword : IsGlue (keyword ++ " ")) :
    List.Forall₂ R (Clause.count keyword n) (Clause.count keyword n) :=
  forall₂_map fun _ _ => H.fixed ((isPlain_decimal _).glue_append hkeyword)

theorem names {keyword : String} {fields : List String} (good : ∀ s ∈ fields, Good ⟨s, []⟩)
    (hkeyword : IsGlue (keyword ++ " ")) :
    List.Forall₂ R (Clause.names keyword fields) (Clause.names keyword fields) :=
  overList rfl (H.text fields (fun h => (isPlain_commaList h).glue_append hkeyword) good)

theorem returning (o : Options) :
    List.Forall₂ R (Clause.returning o) (Clause.returning o) :=
  forall₂_map fun mode _ => H.fixed (by cases mode <;> decide)

theorem execution (o : Options) :
    List.Forall₂ R (Clause.execution o) (Clause.execution o) := by
  refine List.rel_append (forall₂_map fun d _ => H.fixed ?_) ?_
  · exact (isPlain_render d).glue_append (by decide)
  split
  · exact .cons (H.fixed (by decide)) .nil
  · exact .nil

theorem options (o : Options) : List.Forall₂ R (Clause.options o) (Clause.options o) :=
  List.rel_append (H.returning o) (H.execution o)

/-- Fields with the text that stands before each operand. -/
theorem entries (lead : String → String) {f : Fields} (good : ∀ c ∈ f.parts, Good c)
    (hplain : ∀ key, IsPlain key → IsPlain (lead key)) (hcloses : ∀ key, closes (lead key)) :
    R (.join ", " (f.entries.map fun (key, operand) => .raw (lead key) ++ operand.template))
      (.join ", " ((f.rewrite w).entries.map fun (key, operand) =>
        .raw (lead key) ++ operand.template)) := by
  rw [Fields.entries_rewrite, List.map_map]
  refine H.join_map good (fun (key, operand) hgood => ?_) (by decide)
  have hkey := H.rendered (hplain key) (hgood _ (List.mem_cons_self ..))
  exact H.append (apart_of_closes (hcloses key)) hkey
    (H.operandTemplate fun c hc => hgood c (List.mem_cons_of_mem _ hc))

theorem assignments {f : Fields} (good : ∀ c ∈ f.parts, Good c) :
    R (Clause.assignments f) (Clause.assignments (f.rewrite w)) := by
  have h := H.entries (fun key => Identifier.column key ++ " = ") good
    (fun _ h => (isPlain_column h).append_glue (by decide))
    fun _ => closes_append _ (by decide)
  exact h

theorem content {f : Fields} (good : ∀ c ∈ f.parts, Good c) :
    List.Forall₂ R (Clause.content f) (Clause.content (f.rewrite w)) := by
  have h := H.entries (fun key => Json.quote key ++ " : ") good
    (fun _ h => (isPlain_jsonQuote h).append_glue (by decide))
    fun _ => closes_append _ (by decide)
  obtain ⟨entries, nodup⟩ := f
  cases entries with
  | nil => exact .nil
  | cons entry rest =>
    exact .cons (H.wrap (H.fixed (by decide)) h (by decide) (by decide)) .nil

/-! ### Conditions -/

theorem comparison {operator : String} {s t u v : Template} (good : Good ⟨operator, []⟩)
    (hs : R s u) (ht : R t v) :
    R (Clause.comparison s operator t) (Clause.comparison u operator v) := by
  have hoperator := H.rendered (s := " " ++ Operator.resolve operator ++ " ") (fun h =>
    ((isPlain_resolve h).glue_append (by decide)).append_glue (by decide)) good
  exact H.between (opens_append _ (opens_append _ (by decide))) (closes_append _ (by decide))
    hoperator hs ht

theorem membership {column : Column} (good : ∀ c ∈ column.parts, Good c) (negated isEmpty : Bool)
    {s u : Template} (hs : R s u) :
    R (Clause.membership column negated isEmpty s)
      (Clause.membership (column.rewrite w) negated isEmpty u) := by
  unfold Clause.membership
  split
  · exact H.fixed (by cases negated <;> decide)
  · exact H.after (H.glued (H.columnTemplate good) hs (by cases negated <;> decide)) (by decide)

theorem range {column : Column} (good : ∀ c ∈ column.parts, Good c) (negated : Bool)
    {s t u v : Template} (hs : R s u) (ht : R t v) :
    R (Clause.range column negated s t) (Clause.range (column.rewrite w) negated u v) :=
  H.glued (H.glued (H.columnTemplate good) hs (by cases negated <;> decide)) ht (by decide)

omit H in
theorem apart_connectedTail (s : String) (ts : List (Connective × Template)) :
    Apart s (Clause.connectedTail ts).text := by
  cases ts with
  | nil => intro _; decide
  | cons t rest =>
    have h : opens " " := by decide
    exact apart_of_opens (opens_append _ (opens_append _ (opens_append _ (opens_append _ h))))

theorem connectedTail {ts us : List (Connective × Template)} (h : List.Forall₂ (Linked R) ts us) :
    R (Clause.connectedTail ts) (Clause.connectedTail us) := by
  induction h with
  | nil => exact H.fixed (by decide)
  | @cons a b ts us head _ ih =>
    obtain ⟨connective, t⟩ := a
    obtain ⟨connective', u⟩ := b
    obtain ⟨rfl, hR⟩ := head
    have hconnective : IsGlue (" " ++ connective.keyword ++ " ") := by
      cases connective <;> decide
    exact H.append (apart_connectedTail _ ts) (H.before hR hconnective) ih

theorem connected {ts us : List (Connective × Template)} (h : List.Forall₂ (Linked R) ts us) :
    Option.Rel R (Clause.connected ts) (Clause.connected us) := by
  cases h with
  | nil => exact .none
  | cons head rest =>
    exact .some (H.append (apart_connectedTail _ _) head.2 (H.connectedTail rest))

theorem filter {t u : Option Template} (h : Option.Rel R t u) :
    List.Forall₂ R (Clause.filter t) (Clause.filter u) := by
  cases h with
  | none => exact .nil
  | some h => exact .cons (H.before h (by decide)) .nil

theorem parenthesized {t u : Option Template} (h : Option.Rel R t u) :
    Option.Rel R (t.map (.wrap "(" · ")")) (u.map (.wrap "(" · ")")) := by
  cases h with
  | none => exact .none
  | some h => exact .some (H.wrap (H.fixed (by decide)) h (by decide) (by decide))

theorem tableText {settings : Settings} {reference table : String}
    (good : ∀ t ∈ settings.tableTexts reference, Good ⟨t, []⟩)
    (hok : settings.table reference = .ok table) {keyword : String}
    (hkeyword : IsGlue keyword) :
    R (.raw (keyword ++ table)) (.raw (keyword ++ table)) :=
  H.text (settings.tableTexts reference)
    (fun h => (isPlain_table h hok).glue_append hkeyword) good

theorem selection {q : Query} (hcolumns : ∀ c ∈ (q.columns.getD []).flatMap Column.parts, Good c)
    (haggregate : ∀ c ∈ q.aggregate.toList.flatMap Aggregate.parts, Good c)
    (hedges : ∀ s ∈ q.edges, Good ⟨s, []⟩) :
    R (Clause.selection q) (Clause.selection (q.rewrite w)) := by
  unfold Clause.selection
  rw [Query.aggregate_rewrite, Query.columns_rewrite, Query.edges_rewrite]
  cases haggr : q.aggregate with
  | some aggregate =>
    rw [haggr] at haggregate
    simp only [Option.toList_some, List.flatMap_cons, List.flatMap_nil, List.append_nil,
      Aggregate.parts, List.forall_mem_cons] at haggregate
    refine H.wrap (H.rendered (fun h => ?_) haggregate.1) (H.columns haggregate.2) ?_ (by decide)
    · exact (h.glue_append (by decide)).append_glue (by decide)
    · exact closes_append _ (by decide)
  | none =>
    have hall : R (Clause.columns (q.columns.getD [.name "*"]))
        (Clause.columns ((q.columns.map (List.map (Column.rewrite w))).getD [.name "*"])) := by
      cases hcols : q.columns with
      | none => exact H.fixed (by decide)
      | some columns =>
        rw [hcols] at hcolumns
        exact H.columns hcolumns
    exact H.append (apart_commaTail _ _) (H.before hall (by decide))
      (H.text q.edges isPlain_commaTail hedges)

theorem afterConditions {q : Query} (hgroups : ∀ c ∈ q.groups.flatMap Column.parts, Good c)
    (horders : ∀ c ∈ q.orders.flatMap OrderTerm.parts, Good c)
    (hfetch : ∀ s ∈ q.fetch, Good ⟨s, []⟩) (hsplit : ∀ s ∈ q.split, Good ⟨s, []⟩) :
    List.Forall₂ R (Clause.afterConditions q) (Clause.afterConditions (q.rewrite w)) := by
  unfold Clause.afterConditions
  simp only [Query.groups_rewrite, Query.orders_rewrite, Query.limit_rewrite,
    Query.offset_rewrite, Query.aggregate_rewrite, Option.isSome_map, Query.fetch_rewrite,
    Query.options_rewrite, Query.split_rewrite]
  refine List.rel_append (List.rel_append (List.rel_append (List.rel_append (H.groups hgroups)
    (H.orders horders)) (H.count _ (by decide))) (H.count _ (by decide))) ?_
  split
  · exact .nil
  · exact List.rel_append (List.rel_append (H.names hfetch (by decide)) (H.execution _))
      (H.names hsplit (by decide))

/-- What stands before the conditions of a query. -/
theorem queryHead {settings : Settings} {q : Query} (good : ∀ c ∈ q.clauseParts settings, Good c)
    {table : String} (hok : settings.table q.target = .ok table) :
    List.Forall₂ R [Clause.selection q, .raw ("FROM " ++ table)]
      [Clause.selection (q.rewrite w), .raw ("FROM " ++ table)] := by
  simp only [Query.clauseParts, List.forall_mem_append, List.forall_mem_map] at good
  obtain ⟨⟨⟨⟨⟨htable, hcolumns⟩, -⟩, -⟩, haggregate⟩, ⟨hedges, -⟩, -⟩ := good
  exact .cons (H.selection hcolumns haggregate hedges)
    (.cons (H.tableText htable hok (by decide)) .nil)

/-- A query whose conditions agree. -/
theorem query {settings : Settings} {q : Query} (good : ∀ c ∈ q.clauseParts settings, Good c)
    {x y : Except CompileError (List (Connective × Template))}
    (conditions : Agree (List.Forall₂ (Linked R)) x y) :
    Agree R (Clause.query settings q x) (Clause.query settings (q.rewrite w) y) := by
  have hhead {table : String} (hok : settings.table q.target = .ok table) :=
    H.queryHead good hok
  simp only [Query.clauseParts, List.forall_mem_append, List.forall_mem_map] at good
  obtain ⟨⟨⟨⟨-, hgroups⟩, horders⟩, -⟩, ⟨-, hfetch⟩, hsplit⟩ := good
  unfold Clause.query
  rw [Query.distinct_rewrite, Query.target_rewrite]
  dsimp only
  split
  · exact .error _
  · refine Agree.bind_same _ fun table hok => Agree.bind conditions fun ts us h => Agree.pure ?_
    refine H.join (List.rel_append (hhead hok) (List.rel_append (H.filter (H.connected h)) ?_))
      (by decide)
    exact H.afterConditions hgroups horders hfetch hsplit

theorem predicateTemplate (settings : Settings) {p : Predicate}
    (good : ∀ c ∈ p.parts settings, Good c)
    (inner : Agree (List.Forall₂ (Linked R)) (conditionTemplates settings p.inner)
      (conditionTemplates settings (rewriteConditions w p.inner))) :
    Agree (Option.Rel R) (p.template? settings) ((p.rewrite w).template? settings) := by
  cases p with
  | compare column operator operand =>
    simp only [Predicate.parts, List.forall_mem_append, List.forall_mem_cons] at good
    obtain ⟨hcolumn, hoperator, hoperand⟩ := good
    exact .ok (.some (H.comparison hoperator (H.columnTemplate hcolumn)
      (H.operandTemplate hoperand)))
  | member column operands negated =>
    simp only [Predicate.parts, List.forall_mem_append] at good
    rw [Predicate.rewrite, Predicate.template?, Predicate.template?, List.isEmpty_map]
    exact .ok (.some (H.membership good.1 _ _ (H.operands good.2)))
  | integerMember column integers negated =>
    refine .ok (.some (H.membership good _ _ (H.fixed (isPlain_commaList fun t ht => ?_))))
    obtain ⟨n, -, rfl⟩ := List.mem_map.1 ht
    exact isPlain_intChars _
  | null column negated =>
    exact .ok (.some (H.after (H.columnTemplate good) (by cases negated <;> decide)))
  | between column low high negated =>
    simp only [Predicate.parts, List.forall_mem_append] at good
    obtain ⟨⟨hcolumn, hlow⟩, hhigh⟩ := good
    exact .ok (.some (H.range hcolumn _ (H.operandTemplate hlow) (H.operandTemplate hhigh)))
  | betweenColumns column low high negated =>
    simp only [Predicate.parts, List.forall_mem_append] at good
    obtain ⟨⟨hcolumn, hlow⟩, hhigh⟩ := good
    exact .ok (.some (H.range hcolumn _ (H.columnTemplate hlow) (H.columnTemplate hhigh)))
  | compareColumns first operator second =>
    simp only [Predicate.parts, List.forall_mem_append, List.forall_mem_cons] at good
    obtain ⟨hfirst, hoperator, hsecond⟩ := good
    exact .ok (.some (H.comparison hoperator (H.columnTemplate hfirst)
      (H.columnTemplate hsecond)))
  | group conditions =>
    rw [Predicate.rewrite, Predicate.template?, Predicate.template?]
    exact Agree.bind inner fun ts us h => Agree.pure (H.parenthesized (H.connected h))
  | nonempty query negated =>
    rw [Predicate.rewrite, Predicate.template?, Predicate.template?]
    rw [conditionTemplates_query, conditionTemplates_query, Query.conditions_rewrite]
    -- The inner query outside of its conditions is made of the parts of the predicate.
    refine Agree.bind (H.query good inner) fun t u h => Agree.pure (.some ?_)
    exact H.wrap (H.fixed (by cases negated <;> decide)) h (by cases negated <;> decide)
      (by decide)
  | date unit column operator operand =>
    simp only [Predicate.parts, List.forall_mem_append, List.forall_mem_cons] at good
    obtain ⟨hcolumn, hoperator, hoperand⟩ := good
    refine .ok (.some (H.comparison hoperator ?_ (H.operandTemplate hoperand)))
    exact H.wrap (H.fixed (by decide)) (H.columnTemplate hcolumn) (by decide)
      (by cases unit <;> decide)
  | bitwise column operator operand => exact .error _
  | raw text values =>
    exact .ok (.some (H.predicate (good _ (List.mem_singleton_self _))))

/-- Conditions at any depth: one condition after the other, each with what is inside of it. -/
theorem conditions (settings : Settings) (conditions : List Condition)
    (good : ∀ c ∈ conditionParts settings conditions, Good c) :
    Agree (List.Forall₂ (Linked R)) (conditionTemplates settings conditions)
      (conditionTemplates settings (rewriteConditions w conditions)) := by
  induction conditions using conditions_induction with
  | nil =>
    rw [rewriteConditions_nil, conditionTemplates]
    exact .ok .nil
  | cons connective predicate rest inner ih =>
    rw [conditionParts_cons] at good
    simp only [List.forall_mem_append] at good
    obtain ⟨hpredicate, hinner, hrest⟩ := good
    rw [rewriteConditions_cons, conditionTemplates, conditionTemplates]
    refine Agree.bind (H.predicateTemplate settings hpredicate (inner hinner)) fun t u h => ?_
    refine Agree.bind (ih hrest) fun ts us hs => Agree.pure (List.rel_append ?_ hs)
    cases h with
    | none => exact .nil
    | some h => exact .cons ⟨rfl, h⟩ .nil

theorem conditionClause (settings : Settings) (conditions : List Condition)
    (good : ∀ c ∈ conditionParts settings conditions, Good c) :
    Agree (List.Forall₂ R) (Clause.conditions settings conditions)
      (Clause.conditions settings (rewriteConditions w conditions)) :=
  Agree.bind (H.conditions settings conditions good) fun _ _ h =>
    Agree.pure (H.filter (H.connected h))

theorem queryTemplate (settings : Settings) (q : Query) (good : ∀ c ∈ q.parts settings, Good c) :
    Agree R (q.template settings) ((q.rewrite w).template settings) := by
  rw [Query.parts, List.forall_mem_append] at good
  rw [Query.template, Query.template, conditionTemplates_query, conditionTemplates_query,
    Query.conditions_rewrite]
  exact H.query good.1 (H.conditions settings q.conditions good.2)

end Respects

end SurrealQuery
