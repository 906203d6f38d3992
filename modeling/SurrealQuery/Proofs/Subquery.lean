import SurrealQuery.Proofs.Acceptance
import SurrealQuery.Proofs.Inlining

/-!
# Queries inside of conditions

A query inside of a condition, at any depth, is built as if it were selected on its own: its text
stands in one piece in the text of the whole statement, and so do its bindings (`compile_subquery`).
-/

namespace SurrealQuery

open Template (countPlaceholders)

/-! ## A template inside of another -/

/-- A template stands in another one. If `Good`, there are as many placeholders as bindings before
it. -/
def Template.Within (Good : Prop) (inner outer : Template) : Prop :=
  ∃ before after : Template, outer = before ++ inner ++ after ∧ (Good → before.Complete)

theorem apart_empty (t : String) : Apart "" t := by
  intro h
  simp at h

theorem Template.complete_empty : (Template.raw "").Complete := by decide

namespace Template.Within

variable {Good : Prop} {inner s t u : Template}

theorem refl (t : Template) : Template.Within Good t t :=
  ⟨.raw "", .raw "", by simp, fun _ => complete_empty⟩

/-- More before it and after it; what comes before ends so that no placeholder comes about. -/
theorem extend (h : inner.Within Good t) (hs : Good → s.Complete) (hapart : ∀ x, Apart s.text x)
    (u : Template) : inner.Within Good (s ++ t ++ u) := by
  obtain ⟨before, after, rfl, hbefore⟩ := h
  refine ⟨s ++ before, after ++ u, ?_, fun good => (hs good).append (hbefore good) (hapart _)⟩
  simp only [Template.append_assoc]

theorem append_right (h : inner.Within Good t) (u : Template) : inner.Within Good (t ++ u) := by
  have := h.extend (fun _ => complete_empty) apart_empty u
  rwa [Template.raw_empty_append] at this

theorem append_left (h : inner.Within Good t) (hs : Good → s.Complete)
    (hapart : ∀ x, Apart s.text x) : inner.Within Good (s ++ t) := by
  have := h.extend hs hapart (.raw "")
  rwa [Template.append_raw_empty] at this

theorem wrap {a b : String} (h : inner.Within Good t) (ha : IsPlain a) (hcloses : closes a) :
    inner.Within Good (.wrap a t b) := by
  have hcomplete : (Template.raw a).Complete := ha
  rw [Template.wrap_eq]
  exact h.extend (fun _ => hcomplete) (fun _ => apart_of_closes hcloses) _

/-- One of several templates with a separator, other than the first. -/
theorem join (h : inner.Within Good t) {g : String} {first : Template} (before : List Template)
    (hbefore : Good → (Template.join g (first :: before)).Complete) (hg : IsGlue g)
    (after : List Template) : inner.Within Good (.join g (first :: (before ++ t :: after))) := by
  have htail (as bs : List Template) :
      Template.joinTail g (as ++ bs) = Template.joinTail g as ++ Template.joinTail g bs := by
    induction as with
    | nil => exact (Template.raw_empty_append _).symm
    | cons a as ih => simp only [List.cons_append, Template.joinTail, ih, Template.append_assoc]
  have hglue : (Template.raw g).Complete := hg.1
  have hsplit : Template.join g (first :: (before ++ t :: after)) =
      Template.join g (first :: before) ++ .raw g ++ t ++ .joinTail g after := by
    simp only [Template.join, htail, Template.joinTail, Template.append_assoc]
  have hcloses : closes (Template.join g (first :: before) ++ .raw g).text := by
    rw [Template.text_append]
    exact closes_append _ hg.2.2
  rw [hsplit]
  refine h.extend (fun good => ?_) (fun _ => apart_of_closes hcloses) _
  exact (hbefore good).append hglue (apart_of_opens hg.2.1)

end Template.Within

/-! ## Complete parts -/

/-- A predicate whose parts are complete has a complete template. -/
theorem complete_template? {settings : Settings} {p : Predicate}
    (hparts : ∀ c ∈ p.parts settings, c.Complete)
    (hinner : ∀ c ∈ conditionParts settings p.inner, c.Complete) {t : Template}
    (hok : p.template? settings = .ok (some t)) : t.Complete := by
  have H := respects_filled fun _ => ""
  have hagree := H.predicateTemplate settings hparts (H.conditions settings p.inner hinner)
  obtain ⟨u, -, hu⟩ := hagree.exists_ok hok
  cases hu with
  | some h => exact h.1

/-! ## Conditions -/

/-- The count of the results of a query, compared with what is expected of it. -/
def Clause.counted (negated : Bool) (t : Template) : Template :=
  .wrap ((if negated then "false" else "true") ++ " = <bool> count((") t "))"

theorem Predicate.template?_nonempty (settings : Settings) (query : Query) (negated : Bool) :
    (Predicate.nonempty query negated).template? settings = (do
      let inner ← query.template settings
      return some (Clause.counted negated inner)) := by
  rw [Predicate.template?]
  rfl

section Conditions

variable {settings : Settings} {Good : Prop} {inner : Template}

/-- A template stands in the first of several conditions. -/
theorem Template.Within.connected_first {t : Template} (h : inner.Within Good t)
    (connective : Connective) (rest : List (Connective × Template)) :
    ∃ w, Clause.connected ((connective, t) :: rest) = some w ∧ inner.Within Good w :=
  ⟨_, rfl, h.append_right _⟩

/-- A template stands in a later one of several conditions. -/
theorem Template.Within.connected_later {w : Template} {rest : List (Connective × Template)}
    (h : inner.Within Good w) (hw : Clause.connected rest = some w) (connective : Connective)
    {t : Template} (ht : Good → t.Complete) :
    ∃ w', Clause.connected ((connective, t) :: rest) = some w' ∧ inner.Within Good w' := by
  cases rest with
  | nil => cases hw
  | cons next more =>
    obtain ⟨link, u⟩ := next
    cases hw
    have hlink : IsGlue (" " ++ link.keyword ++ " ") := by cases link <;> decide
    have hcomplete : (Template.raw (" " ++ link.keyword ++ " ")).Complete := hlink.1
    refine ⟨_, rfl, ?_⟩
    rw [Clause.connectedTail, Template.append_assoc, ← Template.append_assoc t]
    refine h.append_left (fun good => ?_) fun _ => apart_of_closes (closes_append _ hlink.2.2)
    exact (ht good).append hcomplete (apart_of_opens hlink.2.1)

/-- What a query is built from. -/
theorem Query.template_eq_ok {q : Query} {t : Template} (h : q.template settings = .ok t) :
    ∃ table ts, settings.table q.target = .ok table ∧
      SurrealQuery.conditionTemplates settings q.conditions = .ok ts ∧
      t = .join " " (Clause.selection q :: .raw ("FROM " ++ table) ::
        (Clause.filter (Clause.connected ts) ++ Clause.afterConditions q)) := by
  rw [Query.template, conditionTemplates_query] at h
  unfold Clause.query at h
  split at h
  · cases h
  · obtain ⟨table, htable, h⟩ := bind_eq_ok.1 h
    obtain ⟨ts, hts, h⟩ := bind_eq_ok.1 h
    exact ⟨table, ts, htable, hts, (Except.ok.inj h).symm⟩

theorem Template.Within.filter {w : Template} (h : inner.Within Good w) :
    inner.Within Good (Clause.after "WHERE" w) :=
  h.append_left (fun _ => by decide) fun _ => apart_of_closes (by decide)

/-- A query is selected on its own, and what is selected is counted within a template. -/
def Query.CountedIn (settings : Settings) (Good : Prop) (query : Query) (negated : Bool)
    (w : Template) : Prop :=
  ∃ t, Statement.select settings query = .ok ⟨.select, t⟩ ∧
    (Clause.counted negated t).Within Good w

/-- As `CountedIn`, within conditions that have been built. -/
def Query.CountedAmong (settings : Settings) (Good : Prop) (query : Query) (negated : Bool)
    (x : Except CompileError (List (Connective × Template))) : Prop :=
  ∀ ts, x = .ok ts →
    ∃ w, Clause.connected ts = some w ∧ query.CountedIn settings Good negated w

theorem Statement.select_eq_ok {q : Query} {t : Template} (hfeatures : q.features = [])
    (ht : q.template settings = .ok t) : Statement.select settings q = .ok ⟨.select, t⟩ := by
  unfold Statement.select
  rw [Query.check_eq_ok.2 hfeatures, ht]
  rfl

variable {query : Query} {negated : Bool}

/-- What is counted in the conditions of a query is counted in the query. -/
theorem Query.CountedAmong.template {q : Query} {t : Template}
    (h : query.CountedAmong settings Good negated
      (SurrealQuery.conditionTemplates settings q.conditions))
    (hparts : Good → ∀ c ∈ q.clauseParts settings, c.Complete)
    (hok : q.template settings = .ok t) : query.CountedIn settings Good negated t := by
  obtain ⟨table, ts, htable, hts, rfl⟩ := Query.template_eq_ok hok
  obtain ⟨w, hw, u, hu, hwithin⟩ := h ts hts
  have H := respects_filled fun _ => ""
  rw [hw]
  refine ⟨u, hu, hwithin.filter.join [.raw ("FROM " ++ table)] (fun good => ?_) (by decide) _⟩
  exact (H.join (H.queryHead (hparts good) htable) (by decide)).1

/-- A query that a predicate asks about, or that is inside of the predicate. -/
theorem countedIn_template? {p : Predicate} (hfeatures : p.features = [])
    (hinner : conditionFeatures p.inner = [])
    (hparts : Good → ∀ c ∈ p.parts settings, c.Complete)
    (inner : .nonempty query negated ∈ conditionPredicates p.inner →
      query.CountedAmong settings Good negated (conditionTemplates settings p.inner))
    (hmem : .nonempty query negated ∈ p :: conditionPredicates p.inner) {o : Option Template}
    (hok : p.template? settings = .ok o) :
    ∃ t, o = some t ∧ query.CountedIn settings Good negated t := by
  rcases List.mem_cons.1 hmem with rfl | hmem
  · rw [Predicate.template?_nonempty, bind_eq_ok] at hok
    obtain ⟨t, ht, hok⟩ := hok
    cases hok
    have hquery : query.features = [] := List.append_eq_nil_iff.2 ⟨hfeatures, hinner⟩
    exact ⟨_, rfl, t, Statement.select_eq_ok hquery ht, .refl _⟩
  · cases p with
    | group conditions =>
      rw [Predicate.template?, bind_eq_ok] at hok
      obtain ⟨ts, hts, hok⟩ := hok
      cases hok
      obtain ⟨w, hw, t, ht, hwithin⟩ := inner hmem ts hts
      rw [hw]
      exact ⟨_, rfl, t, ht, hwithin.wrap (by decide) (by decide)⟩
    | nonempty outer negated' =>
      rw [Predicate.template?_nonempty, bind_eq_ok] at hok
      obtain ⟨u, hu, hok⟩ := hok
      cases hok
      obtain ⟨t, ht, hwithin⟩ := (inner hmem).template hparts hu
      exact ⟨_, rfl, t, ht, hwithin.wrap (by cases negated' <;> decide)
        (by cases negated' <;> decide)⟩
    | _ =>
      simp only [Predicate.inner, conditionPredicates] at hmem
      cases hmem

/-- A query inside of conditions, at any depth. -/
theorem countedAmong_conditionTemplates (conditions : List Condition)
    (hfeatures : conditionFeatures conditions = [])
    (hparts : Good → ∀ c ∈ conditionParts settings conditions, c.Complete)
    (hmem : .nonempty query negated ∈ conditionPredicates conditions) :
    query.CountedAmong settings Good negated (conditionTemplates settings conditions) := by
  induction conditions using conditions_induction with
  | nil =>
    rw [conditionPredicates] at hmem
    cases hmem
  | cons connective predicate rest inner ih =>
    rw [conditionFeatures_cons, List.append_eq_nil_iff, List.append_eq_nil_iff] at hfeatures
    simp only [conditionParts_cons, List.forall_mem_append] at hparts
    obtain ⟨hpredicate, hinner, hrest⟩ := hfeatures
    intro ts hok
    rw [conditionTemplates, bind_eq_ok] at hok
    obtain ⟨first, hfirst, hok⟩ := hok
    obtain ⟨others, hothers, hok⟩ := bind_eq_ok.1 hok
    cases hok
    rw [conditionPredicates_cons, ← List.cons_append, List.mem_append] at hmem
    rcases hmem with hmem | hmem
    · obtain ⟨t, rfl, u, hu, hwithin⟩ := countedIn_template? hpredicate hinner
        (fun good => (hparts good).1) (inner hinner fun good => (hparts good).2.1) hmem hfirst
      obtain ⟨w, hw, hwithin⟩ := hwithin.connected_first connective others
      exact ⟨w, hw, u, hu, hwithin⟩
    · obtain ⟨w, hw, u, hu, hwithin⟩ := ih hrest (fun good => (hparts good).2.2) hmem others hothers
      cases first with
      | none => exact ⟨w, hw, u, hu, hwithin⟩
      | some t =>
        have ht (good : Good) : t.Complete :=
          complete_template? (hparts good).1 (hparts good).2.1 hfirst
        obtain ⟨w', hw', hwithin⟩ := hwithin.connected_later hw connective ht
        exact ⟨w', hw', u, hu, hwithin⟩

end Conditions

/-! ## Statements -/

/-- A request that looks at the conditions of its query. -/
def Request.IsFiltered : Request → Prop
  | .select _ | .existence _ | .update _ _ | .delete _ => True
  | _ => False

section Statements

variable {settings : Settings} {Good : Prop} {query : Query} {negated : Bool}

/-- A clause of a statement after the first one. -/
theorem Query.CountedIn.join {t first : Template} (h : query.CountedIn settings Good negated t)
    (before : List Template) (hbefore : Good → (Template.join " " (first :: before)).Complete)
    (after : List Template) :
    query.CountedIn settings Good negated (.join " " (first :: (before ++ t :: after))) := by
  obtain ⟨u, hu, hwithin⟩ := h
  exact ⟨u, hu, hwithin.join before hbefore (by decide) after⟩

theorem Query.CountedAmong.conditions {conditions : List Condition} {filter : List Template}
    (h : query.CountedAmong settings Good negated
      (SurrealQuery.conditionTemplates settings conditions))
    (hok : Clause.conditions settings conditions = .ok filter) :
    ∃ t, filter = [t] ∧ query.CountedIn settings Good negated t := by
  obtain ⟨ts, hts, hok⟩ := bind_eq_ok.1 hok
  obtain ⟨w, hw, u, hu, hwithin⟩ := h ts hts
  cases hok
  rw [hw]
  exact ⟨_, rfl, u, hu, hwithin.filter⟩

theorem countedIn_select {q : Query} {s : Statement} (hfeatures : q.features = [])
    (hparts : Good → ∀ c ∈ q.parts settings, c.Complete)
    (hmem : .nonempty query negated ∈ conditionPredicates q.conditions)
    (hok : Statement.select settings q = .ok s) :
    query.CountedIn settings Good negated s.template := by
  obtain ⟨-, -, hok⟩ := bind_eq_ok.1 hok
  obtain ⟨t, ht, hok⟩ := bind_eq_ok.1 hok
  cases hok
  have hamong := countedAmong_conditionTemplates q.conditions
    (List.append_eq_nil_iff.1 hfeatures).2
    (fun good c hc => hparts good c (Query.mem_parts_of_conditionParts hc)) hmem
  exact hamong.template (fun good c hc => hparts good c (List.mem_append_left _ hc)) ht

theorem countedIn_existence {q : Query} {s : Statement} (hfeatures : q.features = [])
    (hparts : Good → ∀ c ∈ q.parts settings, c.Complete)
    (hmem : .nonempty query negated ∈ conditionPredicates q.conditions)
    (hok : Statement.existence settings q = .ok s) :
    query.CountedIn settings Good negated s.template := by
  obtain ⟨-, -, hok⟩ := bind_eq_ok.1 hok
  obtain ⟨t, ht, hok⟩ := bind_eq_ok.1 hok
  cases hok
  have hfirst : { q with limit := some 1 }.features = [] := hfeatures
  obtain ⟨u, hu, hwithin⟩ := countedIn_select hfirst hparts hmem
    (Statement.select_eq_ok hfirst ht)
  exact ⟨u, hu, hwithin.wrap (by decide) (by decide)⟩

theorem countedIn_update {q : Query} {fields : Fields} {s : Statement}
    (hfeatures : q.features = []) (hparts : Good → ∀ c ∈ q.parts settings, c.Complete)
    (hfields : Good → ∀ c ∈ fields.parts, c.Complete)
    (hmem : .nonempty query negated ∈ conditionPredicates q.conditions)
    (hok : Statement.update settings q fields = .ok s) :
    query.CountedIn settings Good negated s.template := by
  obtain ⟨-, -, hok⟩ := bind_eq_ok.1 hok
  obtain ⟨table, htable, hok⟩ := bind_eq_ok.1 hok
  obtain ⟨filter, hfilter, hok⟩ := bind_eq_ok.1 hok
  cases hok
  have hamong := countedAmong_conditionTemplates q.conditions
    (List.append_eq_nil_iff.1 hfeatures).2
    (fun good c hc => hparts good c (Query.mem_parts_of_conditionParts hc)) hmem
  obtain ⟨t, rfl, hin⟩ := hamong.conditions hfilter
  have H := respects_filled fun _ => ""
  rw [List.append_assoc, List.singleton_append]
  refine hin.join _ (fun good => ?_) _
  have hname := H.tableText (fun t ht => hparts good _ (Query.mem_parts_of_tableTexts ht)) htable
    (show IsGlue "UPDATE " by decide)
  split
  · exact (H.join (.cons hname .nil) (by decide)).1
  · have hset := H.before (H.assignments (hfields good)) (show IsGlue "SET " by decide)
    exact (H.join (.cons hname (.cons hset .nil)) (by decide)).1

/-- The query that a predicate asks about, if any. -/
def Predicate.inquiry : Predicate → List (Query × Bool)
  | .nonempty query negated => [(query, negated)]
  | _ => []

theorem nonempty_mem_iff {predicates : List Predicate} :
    .nonempty query negated ∈ predicates ↔
      (query, negated) ∈ predicates.flatMap Predicate.inquiry := by
  rw [List.mem_flatMap]
  refine ⟨fun h => ⟨_, h, List.mem_singleton_self _⟩, ?_⟩
  rintro ⟨p, hp, hmem⟩
  cases p with
  | nonempty =>
    cases List.mem_singleton.1 hmem
    exact hp
  | _ => cases hmem

theorem countedIn_delete {q : Query} {s : Statement} (hfeatures : q.features = [])
    (hparts : Good → ∀ c ∈ q.parts settings, c.Complete)
    (hmem : .nonempty query negated ∈ conditionPredicates q.conditions)
    (hok : Statement.delete settings q = .ok s) :
    query.CountedIn settings Good negated s.template := by
  obtain ⟨-, -, hok⟩ := bind_eq_ok.1 hok
  obtain ⟨table, htable, hok⟩ := bind_eq_ok.1 hok
  obtain ⟨filter, hfilter, hok⟩ := bind_eq_ok.1 hok
  cases hok
  have hsame {α : Type} (part : Predicate → List α) := fun h =>
    flatMap_predicates_unqualifyId part h (q.target ++ ".id") q.conditions
  have hsupported := (hsame Predicate.features fun _ _ _ => rfl).trans
    (List.append_eq_nil_iff.1 hfeatures).2
  rw [nonempty_mem_iff, ← hsame Predicate.inquiry fun _ _ _ => rfl, ← nonempty_mem_iff] at hmem
  have hamong := countedAmong_conditionTemplates
    (Statement.unqualifyId (q.target ++ ".id") q.conditions) hsupported
    (fun good c hc => (mem_conditionParts_unqualifyId hc).elim (fun h => h ▸ by decide)
      fun hc => hparts good c (Query.mem_parts_of_conditionParts hc)) hmem
  obtain ⟨t, rfl, hin⟩ := hamong.conditions hfilter
  have H := respects_filled fun _ => ""
  refine hin.join [] (fun good => ?_) _
  have hkeyword : IsGlue (if isRecordReference q.target then "DELETE " else "DELETE FROM ") := by
    split <;> decide
  have hname := H.tableText (fun t ht => hparts good _ (Query.mem_parts_of_tableTexts ht)) htable
    hkeyword
  exact (H.join (.cons hname .nil) (by decide)).1

/-- What is counted in a template, in words. -/
theorem Query.CountedIn.exists_text {t : Template} (h : query.CountedIn settings Good negated t) :
    ∃ s, Statement.select settings query = .ok s ∧
      ∃ u v bu bv, t.text = u ++ s.template.text ++ v ∧
        t.bindings = bu ++ s.template.bindings ++ bv ∧
        (∃ u', u = u' ++ ((if negated then "false" else "true") ++ " = <bool> count((")) ∧
        (∃ v', v = "))" ++ v') ∧ (Good → countPlaceholders u.toList = bu.length) := by
  obtain ⟨s, hs, before, after, rfl, hbefore⟩ := h
  refine ⟨_, hs, _, "))" ++ after.text, before.bindings, after.bindings, ?_, ?_, ⟨before.text, rfl⟩,
    ⟨_, rfl⟩, fun good => ?_⟩
  · show before.text ++ (_ ++ s.text ++ "))") ++ after.text = _
    simp only [String.append_assoc]
  · rfl
  · have hopens : opens ((if negated then "false" else "true") ++ " = <bool> count((") := by
      cases negated <;> decide
    have hplain : IsPlain ((if negated then "false" else "true") ++ " = <bool> count((") := by
      cases negated <;> decide
    rw [String.toList_append, countPlaceholders_append (apart_of_opens hopens), hplain]
    exact hbefore good

end Statements

/-- **A query inside of another is built as it is on its own.** Where a request is compiled, so is
every query that its conditions ask about, at any depth. The text of the whole has the text of the
query in one piece, and its bindings have the bindings of the query in one piece, at the place where
as many placeholders have come before. -/
theorem compile_subquery (settings : Settings) {r : Request} (hr : r.IsFiltered) {s : Statement}
    (hok : r.compile settings = .ok s) {query : Query} {negated : Bool}
    (hmem : .nonempty query negated ∈ conditionPredicates r.query.conditions) :
    ∃ t, Statement.select settings query = .ok t ∧
      ∃ u v bu bv, s.template.text = u ++ t.template.text ++ v ∧
        s.template.bindings = bu ++ t.template.bindings ++ bv ∧
        (∃ u', u = u' ++ ((if negated then "false" else "true") ++ " = <bool> count((")) ∧
        (∃ v', v = "))" ++ v') ∧
        ((∀ c ∈ r.parts settings, c.Complete) → countPlaceholders u.toList = bu.length) := by
  have hfeatures := Request.features_of_compile hok
  apply Query.CountedIn.exists_text
  cases r with
  | select q => exact countedIn_select hfeatures id hmem hok
  | existence q => exact countedIn_existence hfeatures id hmem hok
  | delete q => exact countedIn_delete hfeatures id hmem hok
  | update q fields =>
    refine countedIn_update hfeatures (fun good c hc => ?_) (fun good c hc => ?_) hmem hok
    · exact good c (List.mem_append_left _ hc)
    · exact good c (List.mem_append_right _ hc)
  | _ => cases hr

/-- Users with orders from shops that are open, unless a call says otherwise. -/
def usersOfOpenShops : Query where
  target := "users"
  conditions := [
    ⟨.and, .compare (.name "age") ">" (.literal (.int 18))⟩,
    ⟨.or, .group [⟨.and, .nonempty {
      target := "orders"
      conditions := [
        ⟨.and, .compare (.name "total") ">" (.call ⟨"fn::limit($?, $?)", [.int 5, .null]⟩)⟩,
        ⟨.and, .nonempty {
          target := "shops"
          conditions := [⟨.and, .compare (.name "open") "=" (.literal (.bool true))⟩] } true⟩] }
      false⟩]⟩]

theorem compile_subquery_usersOfOpenShops :
    let shops : Query := {
      target := "shops"
      conditions := [⟨.and, .compare (.name "open") "=" (.literal (.bool true))⟩] }
    (∀ c ∈ (Request.delete usersOfOpenShops).parts ⟨"app_"⟩, c.Complete) ∧
      .nonempty shops true ∈ conditionPredicates usersOfOpenShops.conditions ∧
      ∃ s t, Statement.delete ⟨"app_"⟩ usersOfOpenShops = .ok s ∧
        Statement.select ⟨"app_"⟩ shops = .ok t ∧
        ∃ u v bu bv, s.template.text = u ++ t.template.text ++ v ∧
          s.template.bindings = bu ++ t.template.bindings ++ bv ∧
          (∃ u', u = u' ++ "false = <bool> count((") ∧ (∃ v', v = "))" ++ v') ∧
          countPlaceholders u.toList = bu.length := by
  have hparts : ∀ c ∈ (Request.delete usersOfOpenShops).parts ⟨"app_"⟩, c.Complete := by
    decide +kernel
  have hmem : .nonempty _ true ∈ conditionPredicates usersOfOpenShops.conditions :=
    .tail _ (.tail _ (.tail _ (.tail _ (.head _))))
  obtain ⟨s, hs⟩ : ∃ s, (Request.delete usersOfOpenShops).compile ⟨"app_"⟩ = .ok s := ⟨_, rfl⟩
  have hfiltered : (Request.delete usersOfOpenShops).IsFiltered := trivial
  obtain ⟨t, ht, u, v, bu, bv, htext, hbindings, hu, hv, hcount⟩ :=
    compile_subquery ⟨"app_"⟩ hfiltered hs hmem
  exact ⟨hparts, hmem, s, t, hs, ht, u, v, bu, bv, htext, hbindings, hu, hv, hcount hparts⟩

end SurrealQuery
