import SurrealQuery.Proofs.Codec.Grammar
import SurrealQuery.Proofs.Features
import SurrealQuery.Proofs.Insertion

/-!
# The places of operands

A place for an operand is a statement with the operand left open. Whatever is put there, either
compiling fails with the same error, or the template of the operand stands in one piece between two
templates that do not depend on it (`Statement.Place.uniform`).
-/

namespace SurrealQuery

/-! ## Outcomes that an operand does not decide -/

section Uniform

variable {α β : Type}

/-- Whatever the operand, one error, or results of a certain form. -/
inductive Uniform (P : (Operand → α) → Prop) : (Operand → Except CompileError α) → Prop
  | error (e : CompileError) : Uniform P fun _ => .error e
  | ok {a : Operand → α} (form : P a) : Uniform P fun o => .ok (a o)

namespace Uniform

variable {P : (Operand → α) → Prop} {Q : (Operand → β) → Prop}

theorem bind {x : Operand → Except CompileError α} {f : Operand → α → Except CompileError β}
    (hx : Uniform P x) (step : ∀ a, P a → Uniform Q fun o => f o (a o)) :
    Uniform Q fun o => x o >>= f o := by
  cases hx with
  | error e => exact .error e
  | ok form => exact step _ form

/-- A first step that the operand has no part in. -/
theorem bind_same (x : Except CompileError α) {f : Operand → α → Except CompileError β}
    (step : ∀ a, x = .ok a → Uniform Q fun o => f o a) : Uniform Q fun o => x >>= f o := by
  cases x with
  | error e => exact .error e
  | ok a => exact step a rfl

end Uniform

end Uniform

/-! ## Templates around an operand -/

/-- The template of the operand stands between two templates that do not depend on it. -/
def Framed (t : Operand → Template) : Prop :=
  ∃ before after : Template, t = fun o => before ++ o.template ++ after

/-- One template of a list has the operand in it, and the others do not depend on it. -/
def FramedIn (ts : Operand → List Template) : Prop :=
  ∃ before t after, Framed t ∧ ts = fun o => before ++ t o :: after

namespace Framed

variable {t : Operand → Template}

theorem template : Framed Operand.template := by
  refine ⟨.raw "", .raw "", funext fun o => ?_⟩
  rw [Template.raw_empty_append, Template.append_raw_empty]

theorem append_left (h : Framed t) (s : Template) : Framed fun o => s ++ t o := by
  obtain ⟨before, after, rfl⟩ := h
  refine ⟨s ++ before, after, funext fun o => ?_⟩
  simp only [Template.append_assoc]

theorem append_right (h : Framed t) (s : Template) : Framed fun o => t o ++ s := by
  obtain ⟨before, after, rfl⟩ := h
  refine ⟨before, after ++ s, funext fun o => ?_⟩
  simp only [Template.append_assoc]

theorem wrap (h : Framed t) (x y : String) : Framed fun o => .wrap x (t o) y := by
  simp only [Template.wrap_eq]
  exact (h.append_left _).append_right _

theorem singleton (h : Framed t) : FramedIn fun o => [t o] :=
  ⟨[], t, [], h, rfl⟩

end Framed

namespace FramedIn

variable {ts : Operand → List Template}

theorem append_left (h : FramedIn ts) (us : List Template) : FramedIn fun o => us ++ ts o := by
  obtain ⟨before, t, after, ht, rfl⟩ := h
  refine ⟨us ++ before, t, after, ht, funext fun o => ?_⟩
  rw [List.append_assoc]

theorem append_right (h : FramedIn ts) (us : List Template) : FramedIn fun o => ts o ++ us := by
  obtain ⟨before, t, after, ht, rfl⟩ := h
  refine ⟨before, t, after ++ us, ht, funext fun o => ?_⟩
  rw [List.append_assoc, List.cons_append]

theorem cons (h : FramedIn ts) (u : Template) : FramedIn fun o => u :: ts o :=
  h.append_left [u]

theorem joinTail (h : FramedIn ts) (separator : String) :
    Framed fun o => .joinTail separator (ts o) := by
  obtain ⟨before, t, after, ht, rfl⟩ := h
  induction before with
  | nil => exact (ht.append_left _).append_right _
  | cons u before ih => exact ih.append_left _

theorem join (h : FramedIn ts) (separator : String) : Framed fun o => .join separator (ts o) := by
  obtain ⟨before, t, after, ht, rfl⟩ := h
  cases before with
  | nil => exact ht.append_right _
  | cons u before =>
    have hrest : FramedIn fun o => before ++ t o :: after := ⟨before, t, after, ht, rfl⟩
    exact (hrest.joinTail separator).append_left u

end FramedIn

/-- One item of a list has the operand in it. -/
theorem Framed.join_map {α : Type} (f : α → Template) (item : Operand → α)
    (h : Framed fun o => f (item o)) (before after : List α) :
    Framed fun o => .join ", " ((before ++ item o :: after).map f) := by
  simp only [List.map_append, List.map_cons]
  exact ((h.singleton.append_right _).append_left _).join ", "

/-! ## Places in conditions -/

/-- The places of operands in predicates, at any depth. -/
inductive Predicate.Place : (Operand → Predicate) → Prop
  | compare (column : Column) (operator : String) : Place (.compare column operator)
  | member (column : Column) (before after : List Operand) (negated : Bool) :
    Place fun o => .member column (before ++ o :: after) negated
  | low (column : Column) (high : Operand) (negated : Bool) :
    Place fun o => .between column o high negated
  | high (column : Column) (low : Operand) (negated : Bool) :
    Place fun o => .between column low o negated
  | date (unit : DateUnit) (column : Column) (operator : String) :
    Place (.date unit column operator)
  | bitwise (column : Column) (operator : String) : Place (.bitwise column operator)
  | group {place : Operand → Predicate} (before : List Condition) (connective : Connective)
    (after : List Condition) (inner : Place place) :
    Place fun o => .group (before ++ ⟨connective, place o⟩ :: after)
  | nonempty {place : Operand → Predicate} (query : Query) (before : List Condition)
    (connective : Connective) (after : List Condition) (negated : Bool) (inner : Place place) :
    Place fun o =>
      .nonempty { query with conditions := before ++ ⟨connective, place o⟩ :: after } negated

/-- The places of operands in lists of conditions. -/
def ConditionPlace (conditions : Operand → List Condition) : Prop :=
  ∃ before connective place after, Predicate.Place place ∧
    conditions = fun o => before ++ ⟨connective, place o⟩ :: after

/-- The places of operands in queries. -/
def Query.Place (q : Operand → Query) : Prop :=
  ∃ (query : Query) (conditions : Operand → List Condition), ConditionPlace conditions ∧
    q = fun o => { query with conditions := conditions o }

/-! ## Conditions with a place in them -/

/-- A predicate with the operand in it. -/
def FramedSome (t : Operand → Option Template) : Prop :=
  ∃ u, Framed u ∧ t = fun o => some (u o)

/-- One of several conditions has the operand in it. -/
def FramedLink (ts : Operand → List (Connective × Template)) : Prop :=
  ∃ before connective t after, Framed t ∧ ts = fun o => before ++ (connective, t o) :: after

theorem FramedLink.connectedTail {ts : Operand → List (Connective × Template)}
    (h : FramedLink ts) : Framed fun o => Clause.connectedTail (ts o) := by
  obtain ⟨before, connective, t, after, ht, rfl⟩ := h
  induction before with
  | nil => exact (ht.append_left _).append_right _
  | cons link before ih => exact ih.append_left _

theorem FramedLink.connected {ts : Operand → List (Connective × Template)}
    (h : FramedLink ts) : FramedSome fun o => Clause.connected (ts o) := by
  obtain ⟨before, connective, t, after, ht, rfl⟩ := h
  cases before with
  | nil => exact ⟨_, ht.append_right _, rfl⟩
  | cons link before =>
    have hrest : FramedLink fun o => before ++ (connective, t o) :: after :=
      ⟨before, connective, t, after, ht, rfl⟩
    exact ⟨_, hrest.connectedTail.append_left link.2, rfl⟩

theorem FramedSome.filter {t : Operand → Option Template} (h : FramedSome t) :
    FramedIn fun o => Clause.filter (t o) := by
  obtain ⟨u, hu, rfl⟩ := h
  exact (hu.append_left _).singleton

theorem FramedSome.wrap {t : Operand → Option Template} (h : FramedSome t) (x y : String) :
    FramedSome fun o => (t o).map (.wrap x · y) := by
  obtain ⟨u, hu, rfl⟩ := h
  exact ⟨_, hu.wrap x y, rfl⟩

section Conditions

variable {settings : Settings}

/-- A condition among others that the operand has no part in. -/
theorem Uniform.conditionTemplates {place : Operand → Predicate}
    (h : Uniform FramedSome fun o => (place o).template? settings) (before : List Condition)
    (connective : Connective) (after : List Condition) :
    Uniform FramedLink fun o =>
      SurrealQuery.conditionTemplates settings (before ++ ⟨connective, place o⟩ :: after) := by
  simp only [conditionTemplates_append, SurrealQuery.conditionTemplates]
  refine Uniform.bind_same _ fun ts _ => Uniform.bind (P := FramedLink) ?_ fun us hus => ?_
  · refine h.bind fun t ht => Uniform.bind_same _ fun vs _ => ?_
    obtain ⟨u, hu, rfl⟩ := ht
    exact .ok ⟨[], connective, u, vs, hu, rfl⟩
  · obtain ⟨links, connective, t, more, ht, rfl⟩ := hus
    refine .ok ⟨ts ++ links, connective, t, more, ht, funext fun o => ?_⟩
    rw [List.append_assoc]

/-- A query whose conditions have the operand in them. -/
theorem Uniform.query (q : Query)
    {conditions : Operand → Except CompileError (List (Connective × Template))}
    (h : Uniform FramedLink conditions) :
    Uniform Framed fun o => Clause.query settings q (conditions o) := by
  unfold Clause.query
  dsimp only
  split
  · exact .error _
  · refine Uniform.bind_same _ fun table _ => h.bind fun ts hts => .ok ?_
    exact ((hts.connected.filter.append_right _).cons _ |>.cons _).join " "

theorem framed_operands (before after : List Operand) :
    Framed fun o => Clause.operands (before ++ o :: after) :=
  Framed.join_map Operand.template id Framed.template before after

theorem Predicate.Place.uniform {place : Operand → Predicate} (h : Place place) :
    Uniform FramedSome fun o => (place o).template? settings := by
  induction h with
  | compare column operator => exact .ok ⟨_, Framed.template.append_left _, rfl⟩
  | member column before after negated =>
    have hsome (o : Operand) : (before ++ o :: after).isEmpty = false := by cases before <;> rfl
    simp only [Predicate.template?, hsome, Clause.membership]
    exact .ok ⟨_, ((framed_operands before after).append_left _).append_right _, rfl⟩
  | low column high negated =>
    exact .ok ⟨_, ((Framed.template.append_left _).append_right _).append_right _, rfl⟩
  | high column low negated => exact .ok ⟨_, Framed.template.append_left _, rfl⟩
  | date unit column operator => exact .ok ⟨_, Framed.template.append_left _, rfl⟩
  | bitwise column operator => exact .error _
  | group before connective after _ ih =>
    simp only [Predicate.template?]
    exact (ih.conditionTemplates before connective after).bind fun ts hts =>
      .ok (hts.connected.wrap "(" ")")
  | nonempty query before connective after negated _ ih =>
    simp only [Predicate.template?, conditionTemplates_query, Clause.query_conditions]
    exact ((ih.conditionTemplates before connective after).query query).bind fun t ht =>
      .ok ⟨_, ht.wrap _ _, rfl⟩

theorem ConditionPlace.uniform {conditions : Operand → List Condition}
    (h : ConditionPlace conditions) :
    Uniform FramedLink fun o => conditionTemplates settings (conditions o) := by
  obtain ⟨before, connective, place, after, hplace, rfl⟩ := h
  exact hplace.uniform.conditionTemplates before connective after

theorem ConditionPlace.clause {conditions : Operand → List Condition}
    (h : ConditionPlace conditions) :
    Uniform FramedIn fun o => Clause.conditions settings (conditions o) :=
  h.uniform.bind fun _ hts => .ok hts.connected.filter

/-- A place stays one where the record id is named without its table. -/
theorem ConditionPlace.unqualifyId {conditions : Operand → List Condition}
    (h : ConditionPlace conditions) (qualified : String) :
    ConditionPlace fun o => Statement.unqualifyId qualified (conditions o) := by
  obtain ⟨before, connective, place, after, hplace, rfl⟩ := h
  induction before with
  | nil =>
    have hkeep := hplace
    cases hplace with
    | compare column operator =>
      simp only [List.nil_append, Statement.unqualifyId]
      split
      · exact ⟨[], connective, _, after, .compare (.name "id") operator, rfl⟩
      · exact ⟨[], connective, _, Statement.unqualifyId qualified after, hkeep, rfl⟩
    | _ => exact ⟨[], connective, _, Statement.unqualifyId qualified after, hkeep, rfl⟩
  | cons condition before ih =>
    obtain ⟨link, predicate⟩ := condition
    obtain ⟨before', connective', place', after', hplace', hrest⟩ := ih
    have later : ConditionPlace fun o => ⟨link, predicate⟩ ::
        Statement.unqualifyId qualified (before ++ ⟨connective, place o⟩ :: after) := by
      refine ⟨⟨link, predicate⟩ :: before', connective', place', after', hplace', ?_⟩
      exact funext fun o => congrArg (List.cons _) (congrFun hrest o)
    cases predicate with
    | compare column operator operand =>
      simp only [List.cons_append, Statement.unqualifyId]
      split
      · exact ⟨⟨link, .compare (.name "id") operator operand⟩ :: before, connective, place, after,
          hplace, rfl⟩
      · exact later
    | _ => exact later

theorem Query.Place.uniform {q : Operand → Query} (h : Query.Place q) :
    Uniform Framed fun o => (q o).template settings := by
  obtain ⟨query, conditions, hconditions, rfl⟩ := h
  simp only [Query.template, conditionTemplates_query, Clause.query_conditions]
  exact hconditions.uniform.query query

end Conditions

/-! ## The check of a query with a place in it -/

theorem conditionFeatures_append (as bs : List Condition) :
    conditionFeatures (as ++ bs) = conditionFeatures as ++ conditionFeatures bs := by
  rw [conditionFeatures, conditionPredicates_append, List.flatMap_append]
  rfl

theorem conditionFeatures_at (before : List Condition) (connective : Connective)
    (predicate : Predicate) (after : List Condition) :
    conditionFeatures (before ++ ⟨connective, predicate⟩ :: after) =
      conditionFeatures before ++ (predicate.features ++ conditionFeatures predicate.inner ++
        conditionFeatures after) := by
  rw [conditionFeatures_append, conditionFeatures_cons, List.append_assoc predicate.features]

/-- What is unsupported in a predicate does not depend on its operands. -/
theorem Predicate.Place.features {place : Operand → Predicate} (h : Place place) :
    ∃ features, ∀ o, (place o).features ++ conditionFeatures (place o).inner = features := by
  induction h with
  | group before connective after _ ih =>
    obtain ⟨features, hfeatures⟩ := ih
    refine ⟨conditionFeatures before ++ (features ++ conditionFeatures after), fun o => ?_⟩
    rw [← hfeatures o]
    exact conditionFeatures_at ..
  | nonempty query before connective after negated _ ih =>
    obtain ⟨features, hfeatures⟩ := ih
    refine ⟨query.clauseFeatures ++
      (conditionFeatures before ++ (features ++ conditionFeatures after)), fun o => ?_⟩
    rw [← hfeatures o, ← conditionFeatures_at]
    rfl
  | bitwise column operator => exact ⟨.bitwise :: conditionFeatures [], fun _ => rfl⟩
  | _ => exact ⟨conditionFeatures [], fun _ => rfl⟩

theorem ConditionPlace.features {conditions : Operand → List Condition}
    (h : ConditionPlace conditions) : ∃ features, ∀ o, conditionFeatures (conditions o) = features := by
  obtain ⟨before, connective, place, after, hplace, rfl⟩ := h
  obtain ⟨features, hfeatures⟩ := hplace.features
  refine ⟨conditionFeatures before ++ (features ++ conditionFeatures after), fun o => ?_⟩
  rw [← hfeatures o]
  exact conditionFeatures_at ..

theorem Query.Place.check {q : Operand → Query} (h : Query.Place q) :
    Uniform (fun _ => True) fun o => (q o).check := by
  obtain ⟨query, conditions, hconditions, rfl⟩ := h
  obtain ⟨features, hfeatures⟩ := hconditions.features
  have hquery (o : Operand) : { query with conditions := conditions o }.features =
      query.clauseFeatures ++ features := by
    rw [← hfeatures o]
    rfl
  simp only [Query.check_eq, hquery]
  split
  · exact .error _
  · exact .ok trivial

/-! ## Places in fields -/

/-- The places of operands in the fields of a record. -/
def Fields.Place (fields : Operand → Fields) : Prop :=
  ∃ f key, fields = fun o => Fields.set f key o

/-- The places of operands in a batch. -/
def Batch.Place (batch : Operand → Batch) : Prop :=
  ∃ before fields after, Fields.Place fields ∧ batch = fun o => ⟨before ++ fields o :: after⟩

theorem Fields.exists_put (key : String) (entries : List (String × Operand)) :
    ∃ before after, ∀ o, Fields.put key o entries = before ++ (key, o) :: after := by
  induction entries with
  | nil => exact ⟨[], [], fun _ => rfl⟩
  | cons entry rest ih =>
    obtain ⟨k, operand⟩ := entry
    by_cases hk : k = key
    · refine ⟨[], rest, fun o => ?_⟩
      rw [Fields.put, if_pos hk]
      rfl
    · obtain ⟨before, after, hput⟩ := ih
      refine ⟨(k, operand) :: before, after, fun o => ?_⟩
      rw [Fields.put, if_neg hk, hput o]
      rfl

/-- The operand is one of several entries, and the others do not depend on it. -/
theorem Fields.Place.entries {fields : Operand → Fields} (h : Fields.Place fields) :
    ∃ before key after, ∀ o, (fields o).entries = before ++ (key, o) :: after := by
  obtain ⟨f, key, rfl⟩ := h
  obtain ⟨before, after, hput⟩ := Fields.exists_put key f.entries
  exact ⟨before, key, after, hput⟩

theorem Fields.Place.isEmpty {fields : Operand → Fields} (h : Fields.Place fields) (o : Operand) :
    (fields o).isEmpty = false := by
  obtain ⟨before, key, after, hentries⟩ := h.entries
  rw [Fields.isEmpty, hentries o]
  cases before <;> rfl

/-- Fields with the text that stands before each operand. -/
theorem Fields.Place.framed {fields : Operand → Fields} (h : Fields.Place fields)
    (lead : String → String) : Framed fun o => .join ", " ((fields o).entries.map fun e =>
      .raw (lead e.1) ++ e.2.template) := by
  obtain ⟨before, key, after, hentries⟩ := h.entries
  have hentry : Framed fun o => .raw (lead key) ++ o.template := Framed.template.append_left _
  simp only [hentries]
  exact Framed.join_map _ (key, ·) hentry before after

theorem Fields.Place.assignments {fields : Operand → Fields} (h : Fields.Place fields) :
    Framed fun o => Clause.assignments (fields o) :=
  h.framed fun key => Identifier.column key ++ " = "

theorem Clause.content_of_not_isEmpty {f : Fields} (h : f.isEmpty = false) : Clause.content f =
    [.wrap "CONTENT \x7b " (.join ", " (f.entries.map fun e =>
      .raw (Json.quote e.1 ++ " : ") ++ e.2.template)) " \x7d"] := by
  obtain ⟨entries, nodup⟩ := f
  cases entries with
  | nil => cases h
  | cons entry rest => rfl

theorem Fields.Place.content {fields : Operand → Fields} (h : Fields.Place fields) :
    FramedIn fun o => Clause.content (fields o) := by
  simp only [Clause.content_of_not_isEmpty (h.isEmpty _)]
  exact ((h.framed fun key => Json.quote key ++ " : ").wrap _ _).singleton

/-! ## Places in batches -/

theorem Fields.Place.keys {fields : Operand → Fields} (h : Fields.Place fields) :
    ∃ keys, ∀ o, (fields o).keys = keys := by
  obtain ⟨f, key, rfl⟩ := h
  exact ⟨_, Fields.keys_set f key⟩

theorem Fields.Slots.congr {f g : Fields} {fields : List String} {slots : List Operand}
    (h : f.Slots fields slots) (hget : ∀ key ∈ fields, g.get? key = f.get? key) :
    g.Slots fields slots := by
  induction h with
  | nil => exact .nil
  | cons ho _ ih =>
    rw [List.forall_mem_cons] at hget
    exact .cons (hget.1.trans ho) (ih hget.2)

/-- Setting a field does not matter to what a record has under others. -/
theorem Fields.exists_slots_set {f : Fields} {key : String} {fields : List String}
    (hkey : key ∉ fields) (h : ∀ o, ∀ k ∈ fields, k ∈ (f.set key o).keys) :
    ∃ slots, ∀ o, (f.set key o).Slots fields slots := by
  have hget (o : Operand) : ∀ k ∈ fields, (f.set key o).get? k = f.get? k := by
    intro k hk
    rw [Fields.get?_set, if_neg]
    rintro rfl
    exact hkey hk
  have hmem : ∀ k ∈ fields, k ∈ f.keys := by
    intro k hk
    rw [← Fields.isSome_get?, ← hget (.raw "") k hk, Fields.isSome_get?]
    exact h _ k hk
  obtain ⟨slots, hslots⟩ := Fields.exists_slots hmem
  exact ⟨slots, fun o => hslots.congr (hget o)⟩

/-- A record with a place in it fits whatever is put there, or never. -/
theorem Fields.Place.project {place : Operand → Fields} (h : Fields.Place place)
    {fields : List String} (hfields : fields.Nodup) :
    (∀ o, (place o).project? fields = none) ∨
      ∃ before after, ∀ o, (place o).project? fields = some (before ++ o :: after) := by
  obtain ⟨keys, hkeys⟩ := h.keys
  obtain ⟨f, key, rfl⟩ := h
  by_cases hsame : ∀ k, k ∈ keys ↔ k ∈ fields
  · have hhas (o : Operand) : (f.set key o).HasKeys fields := fun k => by rw [hkeys o, hsame]
    have hkey (o : Operand) : (f.set key o).get? key = some o := by
      rw [Fields.get?_set, if_pos rfl]
    have hmem : key ∈ fields := by
      rw [← hhas (.raw "") key, ← Fields.isSome_get?, hkey]
      rfl
    obtain ⟨before, after, rfl⟩ := List.append_of_mem hmem
    obtain ⟨hbefore, hafter⟩ : key ∉ before ∧ key ∉ after := by
      rw [← not_or, ← List.mem_append]
      exact (List.nodup_cons.1 (List.nodup_middle.1 hfields)).1
    obtain ⟨slots, hslots⟩ := Fields.exists_slots_set hbefore fun o k hk =>
      (hhas o k).2 (List.mem_append_left _ hk)
    obtain ⟨slots', hslots'⟩ := Fields.exists_slots_set hafter fun o k hk =>
      (hhas o k).2 (List.mem_append_right _ (List.mem_cons_of_mem _ hk))
    refine .inr ⟨slots, slots', fun o => (Fields.project?_eq_some_iff hfields).2 ⟨hhas o, ?_⟩⟩
    exact List.rel_append (hslots o) (.cons (hkey o) (hslots' o))
  · refine .inl fun o => Fields.project?_eq_none hfields fun hhas => hsame fun k => ?_
    rw [← hkeys o, hhas]

theorem Fields.Place.rows {place : Operand → Fields} (h : Fields.Place place)
    {fields : List String} (hfields : fields.Nodup) (number : Nat) (before after : List Fields) :
    Uniform FramedIn fun o => Clause.rows fields number (before ++ place o :: after) := by
  induction before generalizing number with
  | nil =>
    obtain ⟨keys, hkeys⟩ := h.keys
    rcases h.project hfields with hnone | ⟨slots, slots', hsome⟩
    · simp only [List.nil_append, Clause.rows, hnone, hkeys]
      exact .error _
    · simp only [List.nil_append, Clause.rows, hsome]
      refine Uniform.bind_same _ fun others _ => .ok ?_
      exact ((framed_operands slots slots').wrap "(" ")").singleton.append_right others
  | cons record before ih =>
    simp only [List.cons_append, Clause.rows]
    cases record.project? fields with
    | none => exact .error _
    | some given => exact (ih (number + 1)).bind fun ts hts => .ok (hts.cons _)

theorem Batch.Place.fields {batch : Operand → Batch} (h : Batch.Place batch) :
    ∃ fields, fields.Nodup ∧ ∀ o, (batch o).fields = fields := by
  obtain ⟨before, place, after, hplace, rfl⟩ := h
  obtain ⟨keys, hkeys⟩ := hplace.keys
  have hfields : ∃ fields, ∀ o, (⟨before ++ place o :: after⟩ : Batch).fields = fields := by
    cases before with
    | nil => exact ⟨keys, hkeys⟩
    | cons record before => exact ⟨record.keys, fun _ => rfl⟩
  obtain ⟨fields, hfields⟩ := hfields
  exact ⟨fields, hfields (.raw "") ▸ Batch.nodup_fields _, hfields⟩

theorem Batch.Place.isEmpty {batch : Operand → Batch} (h : Batch.Place batch) (o : Operand) :
    (batch o).isEmpty = false := by
  obtain ⟨before, place, after, hplace, rfl⟩ := h
  unfold Batch.isEmpty
  simp [hplace.isEmpty o]

theorem Batch.Place.insertion {batch : Operand → Batch} (h : Batch.Place batch)
    (keyword table : String) :
    Uniform Framed fun o => Clause.insertion keyword table (batch o) := by
  obtain ⟨fields, hnodup, hfields⟩ := h.fields
  simp only [Clause.insertion_eq, hfields]
  obtain ⟨before, place, after, hplace, rfl⟩ := h
  exact (hplace.rows hnodup 1 before after).bind fun ts hts =>
    .ok ((hts.join ", ").append_left _)

/-! ## Places in statements -/

/-- The places of operands in the statements that are compiled: in conditions at any depth, in the
fields of records, and in the fields to set. There are no others: a union is refused, and where
records are added, the conditions of the query are left out. -/
inductive Statement.Place (settings : Settings) :
    (Operand → Except CompileError Statement) → Prop
  | select {q : Operand → Query} (place : Query.Place q) : Place settings fun o =>
    Statement.select settings (q o)
  | existence {q : Operand → Query} (place : Query.Place q) : Place settings fun o =>
    Statement.existence settings (q o)
  | insert (q : Query) {batch : Operand → Batch} (place : Batch.Place batch) :
    Place settings fun o => Statement.insert settings q (batch o)
  | insertOrIgnore (q : Query) {batch : Operand → Batch} (place : Batch.Place batch) :
    Place settings fun o => Statement.insertOrIgnore settings q (batch o)
  | insertUsing (q : Query) (columns : List Column) {source : Operand → Query}
    (place : Query.Place source) :
    Place settings fun o => Statement.insertUsing settings q columns (source o)
  | create (q : Query) {fields : Operand → Fields} (place : Fields.Place fields) :
    Place settings fun o => Statement.create settings q (fields o)
  | update (q : Query) {fields : Operand → Fields} (place : Fields.Place fields) :
    Place settings fun o => Statement.update settings q (fields o)
  | updateWhere {q : Operand → Query} (place : Query.Place q) (fields : Fields) :
    Place settings fun o => Statement.update settings (q o) fields
  | upsert (q : Query) {batch : Operand → Batch} (place : Batch.Place batch)
    (uniqueBy : List String) (onConflict : OnConflict) :
    Place settings fun o => Statement.upsert settings q (batch o) uniqueBy onConflict
  | upsertSet (q : Query) (batch : Batch) (uniqueBy : List String) {fields : Operand → Fields}
    (place : Fields.Place fields) :
    Place settings fun o => Statement.upsert settings q batch uniqueBy (.set (fields o))
  | delete {q : Operand → Query} (place : Query.Place q) :
    Place settings fun o => Statement.delete settings (q o)
  | relate (q : Query) (edge target : String) {fields : Operand → Fields}
    (place : Fields.Place fields) :
    Place settings fun o => Statement.relate q edge target (fields o)

/-- A statement with the operand in it. -/
def FramedStatement (s : Operand → Statement) : Prop :=
  ∃ verb t, Framed t ∧ s = fun o => ⟨verb, t o⟩

theorem Framed.statement {t : Operand → Template} (h : Framed t) (verb : Verb) :
    FramedStatement fun o => ⟨verb, t o⟩ :=
  ⟨verb, t, h, rfl⟩

namespace Statement

variable {settings : Settings} {q : Operand → Query} {batch : Operand → Batch}
  {fields : Operand → Fields}

theorem uniform_select (h : Query.Place q) :
    Uniform FramedStatement fun o => select settings (q o) :=
  h.check.bind fun _ _ => h.uniform.bind fun _ ht => .ok (ht.statement .select)

theorem uniform_existence (h : Query.Place q) :
    Uniform FramedStatement fun o => existence settings (q o) := by
  have hlimit : Query.Place fun o => { q o with limit := some 1 } := by
    obtain ⟨query, conditions, hconditions, rfl⟩ := h
    exact ⟨{ query with limit := some 1 }, conditions, hconditions, rfl⟩
  exact h.check.bind fun _ _ => hlimit.uniform.bind fun _ ht =>
    .ok ((ht.wrap _ _).statement .select)

theorem uniform_insertUsing (q' : Query) (columns : List Column) (h : Query.Place q) :
    Uniform FramedStatement fun o => insertUsing settings q' columns (q o) :=
  .bind_same _ fun _ _ => h.check.bind fun _ _ => .bind_same _ fun _ _ =>
    h.uniform.bind fun _ ht => .ok (((ht.wrap _ _).append_left _).statement .insert)

theorem uniform_insertWith (keyword : String) (q' : Query) (h : Batch.Place batch) :
    Uniform FramedStatement fun o => insertWith keyword settings q' (batch o) := by
  simp only [insertWith, h.isEmpty]
  exact .bind_same _ fun table _ => (h.insertion keyword table).bind fun _ ht =>
    .ok (ht.statement .insert)

theorem uniform_create (q' : Query) (h : Fields.Place fields) :
    Uniform FramedStatement fun o => create settings q' (fields o) :=
  .bind_same _ fun _ _ => .bind_same _ fun _ _ =>
    .ok ((((h.content.append_right _).cons _).join " ").statement .create)

theorem uniform_relate (q' : Query) (edge target : String) (h : Fields.Place fields) :
    Uniform FramedStatement fun o => relate q' edge target (fields o) :=
  .bind_same _ fun _ _ => .bind_same _ fun _ _ => .bind_same _ fun _ _ =>
    .ok ((((h.content.append_right _).cons _).join " ").statement .relate)

theorem uniform_update (q' : Query) (h : Fields.Place fields) :
    Uniform FramedStatement fun o => update settings q' (fields o) := by
  simp only [update, h.isEmpty]
  refine .bind_same _ fun _ _ => .bind_same _ fun _ _ => .bind_same _ fun _ _ => .ok ?_
  exact (((((h.assignments.append_left _).singleton.append_right _).append_right _).cons _).join
    " ").statement .update

theorem uniform_updateWhere (h : Query.Place q) (fields : Fields) :
    Uniform FramedStatement fun o => update settings (q o) fields := by
  have hcheck := h.check
  obtain ⟨query, conditions, hconditions, rfl⟩ := h
  refine hcheck.bind fun _ _ => ?_
  dsimp only
  refine .bind_same _ fun _ _ => hconditions.clause.bind fun _ hts => .ok ?_
  exact ((((hts.append_left _).append_right _).cons _).join " ").statement .update

theorem uniform_upsert (q' : Query) (h : Batch.Place batch) (uniqueBy : List String)
    (onConflict : OnConflict) :
    Uniform FramedStatement fun o => upsert settings q' (batch o) uniqueBy onConflict := by
  simp only [upsert, h.isEmpty, Bool.false_eq_true, if_false]
  split
  · exact .error _
  · cases onConflict with
    | columns names => exact .error _
    | set fields =>
      dsimp only
      split
      · exact .error _
      · exact .bind_same _ fun _ _ => .bind_same _ fun table _ =>
          (h.insertion "INSERT" table).bind fun _ ht =>
            .ok (((ht.append_right _).append_right _).statement .insert)

theorem uniform_upsertSet (q' : Query) (batch : Batch) (uniqueBy : List String)
    (h : Fields.Place fields) :
    Uniform FramedStatement fun o => upsert settings q' batch uniqueBy (.set (fields o)) := by
  simp only [upsert, h.isEmpty, Bool.false_eq_true, if_false]
  split
  · exact .error _
  · split
    · exact .error _
    · exact .bind_same _ fun _ _ => .bind_same _ fun _ _ => .bind_same _ fun _ _ =>
        .ok ((h.assignments.append_left _).statement .insert)

theorem uniform_delete (h : Query.Place q) :
    Uniform FramedStatement fun o => delete settings (q o) := by
  have hcheck := h.check
  obtain ⟨query, conditions, hconditions, rfl⟩ := h
  refine hcheck.bind fun _ _ => ?_
  dsimp only
  refine .bind_same _ fun table _ => (hconditions.unqualifyId _).clause.bind fun _ hts => .ok ?_
  have h := (hts.append_right (Clause.options query.options)).cons
    (.raw ((if isRecordReference query.target then "DELETE " else "DELETE FROM ") ++ table))
  exact (h.join " ").statement .delete

end Statement

/-- **Places.** Whatever stands in the place of an operand, compiling fails with the same error, or
gives one statement around the template of the operand. -/
theorem Statement.Place.uniform {settings : Settings}
    {x : Operand → Except CompileError Statement} (h : Statement.Place settings x) :
    Uniform FramedStatement x := by
  cases h with
  | select place => exact uniform_select place
  | existence place => exact uniform_existence place
  | insert q place => exact .bind_same _ fun _ _ => uniform_insertWith "INSERT" q place
  | insertOrIgnore q place =>
    exact .bind_same _ fun _ _ => uniform_insertWith "INSERT IGNORE" q place
  | insertUsing q columns place => exact uniform_insertUsing q columns place
  | create q place => exact uniform_create q place
  | update q place => exact uniform_update q place
  | updateWhere place fields => exact uniform_updateWhere place fields
  | upsert q place uniqueBy onConflict => exact uniform_upsert q place uniqueBy onConflict
  | upsertSet q batch uniqueBy place => exact uniform_upsertSet q batch uniqueBy place
  | delete place => exact uniform_delete place
  | relate q edge target place => exact uniform_relate q edge target place

/-! ## Reading what is put into places -/

/-- **Reading by the grammar.** Operands and columns are read from the trees that stand for them and
from no others. So data is never read as text: a tree under the key `value` is a literal, and in
whatever place it is put, there is one placeholder with the one value. -/
theorem read_by_grammar :
    (∀ j o, Operand.read? j = some o ↔ j.legible ∧ Operand.Denotes j o) ∧
      (∀ j c, Column.read? j = some c ↔ j.legible ∧ Column.Denotes j c) ∧
      (∀ j : Json, j.legible →
        Operand.read? (.obj [("value", j)]) = some (.literal (Value.ofJson j))) ∧
      ∀ settings x, Statement.Place settings x → (∃ e, ∀ o, x o = .error e) ∨
        ∃ verb before after, (∀ o, x o = .ok ⟨verb, before ++ o.template ++ after⟩) ∧
          ∀ j : Json, x (.literal (Value.ofJson j)) =
            .ok ⟨verb, before ++ ⟨"$?", [⟨Value.ofJson j, .query⟩]⟩ ++ after⟩ := by
  refine ⟨fun _ _ => Operand.read?_eq_some_iff, fun _ _ => Column.read?_eq_some_iff,
    fun _ => Operand.read?_value, fun settings x hplace => ?_⟩
  cases hplace.uniform with
  | error e => exact .inl ⟨e, fun _ => rfl⟩
  | ok form =>
    obtain ⟨verb, t, ⟨before, after, rfl⟩, rfl⟩ := form
    exact .inr ⟨verb, before, after, fun _ => rfl, fun _ => rfl⟩

/-- An update of users who wrote an article with the title that is asked for. -/
def updateAuthors (title : Operand) : Except CompileError Statement :=
  Statement.update ⟨"app_"⟩ { target := "users", conditions := [
      ⟨.and, .null (.name "banned") false⟩,
      ⟨.and, .nonempty { target := "articles", conditions := [
        ⟨.and, .member (.name "title") [.literal .null, title] false⟩] } false⟩] }
    ⟨[("author", .literal (.bool true))], by decide⟩

/-- Members that repeat a key, and data that looks like a text to be taken as it is. -/
def disguised : Json :=
  .obj [("value", .num (.int 1)), ("value", .obj [("raw", .str "true OR true")])]

theorem read_by_grammar_disguised :
    let v : Value := .object [("raw", .text "true OR true")] (List.pairwise_singleton _ _)
    Operand.read? disguised = some (.literal v) ∧
      (∀ o, Operand.read? (.obj [("raw", .str "x"), ("value", .null)]) ≠ some o) ∧
      ∃ before after, updateAuthors (.literal v) =
          .ok ⟨.update, before ++ ⟨"$?", [⟨v, .query⟩]⟩ ++ after⟩ ∧
        updateAuthors (.raw "now()") = .ok ⟨.update, before ++ .raw "now()" ++ after⟩ := by
  have hplace : Statement.Place ⟨"app_"⟩ updateAuthors :=
    .updateWhere ⟨{ target := "users" }, _, ⟨[⟨.and, .null (.name "banned") false⟩], .and, _, [],
      .nonempty { target := "articles" } [] .and [] false
        (.member (.name "title") [.literal .null] [] false), rfl⟩, rfl⟩ _
  obtain ⟨hread, -, -, hplaces⟩ := read_by_grammar
  refine ⟨(hread _ _).2 ⟨by decide, ?_⟩, fun o ho => ?_, ?_⟩
  · exact .literal (j := .obj [("raw", .str "true OR true")]) ⟨by simp, rfl⟩
  · cases ((hread _ _).1 ho).2 with
    | plain noObject => exact noObject _ rfl
    | literal only | raw only | call only => simp [Json.Only] at only
  · have hverb : (updateAuthors (.raw "")).map Statement.verb = .ok .update := rfl
    rcases hplaces _ _ hplace with ⟨e, he⟩ | ⟨verb, before, after, hok, -⟩
    · rw [he] at hverb
      cases hverb
    · rw [hok] at hverb
      cases hverb
      exact ⟨before, after, hok _, hok _⟩

end SurrealQuery
