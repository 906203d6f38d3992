import SurrealQuery.Proofs.Acceptance
import SurrealQuery.Proofs.Identifier
import SurrealQuery.Proofs.Subquery

/-!
# The table prefix

The settings reach a statement through its references to tables and records and in no other way. So
compiling with other settings is compiling with other references, if each reference is written alike
(`Request.compile_mapTargets`). A table prefix is of this kind: it may as well be put before every
reference beforehand (`compile_prefixed`). Only an edge between two records is written without the
prefix (`relate_prefixed_iff`).
-/

namespace SurrealQuery

/-! ## Other references -/

section MapTargets

variable (f : String → String)

mutual

/-- Replaces the reference of a query and those of the queries inside of its conditions. -/
def Query.mapTargets : Query → Query
  | { target, columns, conditions, groups, orders, limit, offset, aggregate, edges, fetch, split,
      options, joins, unions, havings, lock, distinct } => {
    columns, groups, orders, limit, offset, aggregate, edges, fetch, split, options, joins, unions,
    havings, lock, distinct
    target := f target
    conditions := mapConditionTargets conditions }

def mapConditionTargets : List Condition → List Condition
  | [] => []
  | ⟨connective, predicate⟩ :: rest =>
    ⟨connective, predicate.mapTargets⟩ :: mapConditionTargets rest

def Predicate.mapTargets : Predicate → Predicate
  | .group conditions => .group (mapConditionTargets conditions)
  | .nonempty query negated => .nonempty query.mapTargets negated
  | predicate => predicate

end

theorem Query.mapTargets_eq (q : Query) : q.mapTargets f =
    { q with target := f q.target, conditions := mapConditionTargets f q.conditions } := by
  cases q
  rw [Query.mapTargets]

def Request.mapTargets : Request → Request
  | .select q => .select (q.mapTargets f)
  | .existence q => .existence (q.mapTargets f)
  | .insert q batch => .insert (q.mapTargets f) batch
  | .insertOrIgnore q batch => .insertOrIgnore (q.mapTargets f) batch
  | .create q fields => .create (q.mapTargets f) fields
  | .update q fields => .update (q.mapTargets f) fields
  | .upsert q batch uniqueBy onConflict => .upsert (q.mapTargets f) batch uniqueBy onConflict
  | .delete q => .delete (q.mapTargets f)
  | .relate q edge target fields => .relate (q.mapTargets f) edge (f target) fields

/-! ### What stays -/

section Query

variable (q : Query)

@[simp] theorem Query.target_mapTargets : (q.mapTargets f).target = f q.target := by
  rw [Query.mapTargets_eq]

@[simp] theorem Query.conditions_mapTargets :
    (q.mapTargets f).conditions = mapConditionTargets f q.conditions := by
  rw [Query.mapTargets_eq]

@[simp] theorem Query.options_mapTargets : (q.mapTargets f).options = q.options := by
  rw [Query.mapTargets_eq]

@[simp] theorem Query.distinct_mapTargets : (q.mapTargets f).distinct = q.distinct := by
  rw [Query.mapTargets_eq]

theorem Query.mapTargets_limit (limit : Option UInt64) :
    { q with limit := limit }.mapTargets f = { q.mapTargets f with limit := limit } := by
  rw [Query.mapTargets_eq, Query.mapTargets_eq]

@[simp] theorem Query.selection_mapTargets :
    Clause.selection (q.mapTargets f) = Clause.selection q := by
  rw [Query.mapTargets_eq]
  rfl

@[simp] theorem Query.afterConditions_mapTargets :
    Clause.afterConditions (q.mapTargets f) = Clause.afterConditions q := by
  rw [Query.mapTargets_eq]
  rfl

theorem Query.clauseFeatures_mapTargets : (q.mapTargets f).clauseFeatures = q.clauseFeatures := by
  rw [Query.mapTargets_eq]
  rfl

end Query

@[simp] theorem mapConditionTargets_nil : mapConditionTargets f [] = [] := by
  rw [mapConditionTargets]

theorem mapConditionTargets_cons (connective : Connective) (predicate : Predicate)
    (rest : List Condition) :
    mapConditionTargets f (⟨connective, predicate⟩ :: rest) =
      ⟨connective, predicate.mapTargets f⟩ :: mapConditionTargets f rest := by
  rw [mapConditionTargets]

theorem Predicate.inner_mapTargets (p : Predicate) :
    (p.mapTargets f).inner = mapConditionTargets f p.inner := by
  cases p <;> simp [Predicate.mapTargets, Predicate.inner]

theorem Predicate.features_mapTargets (p : Predicate) : (p.mapTargets f).features = p.features := by
  cases p with
  | nonempty query negated =>
    rw [Predicate.mapTargets]
    exact Query.clauseFeatures_mapTargets f query
  | _ => simp only [Predicate.mapTargets, Predicate.features]

theorem conditionFeatures_mapTargets (conditions : List Condition) :
    conditionFeatures (mapConditionTargets f conditions) = conditionFeatures conditions := by
  induction conditions using conditions_induction with
  | nil => rw [mapConditionTargets_nil]
  | cons connective predicate rest inner ih =>
    rw [mapConditionTargets_cons, conditionFeatures_cons, conditionFeatures_cons,
      Predicate.features_mapTargets, Predicate.inner_mapTargets, inner, ih]

/-- No feature depends on a reference. -/
theorem Query.check_mapTargets (q : Query) : (q.mapTargets f).check = q.check := by
  rw [Query.check_eq, Query.check_eq, Query.features, Query.features, Query.conditions_mapTargets,
    Query.clauseFeatures_mapTargets, conditionFeatures_mapTargets]

end MapTargets

/-! ## Other settings -/

section Settings

variable {s s' : Settings} {f : String → String}

theorem Clause.query_mapTargets {q : Query} (h : s.table q.target = s'.table (f q.target))
    (conditions : Except CompileError (List (Connective × Template))) :
    Clause.query s q conditions = Clause.query s' (q.mapTargets f) conditions := by
  unfold Clause.query
  rw [Query.distinct_mapTargets, Query.target_mapTargets, Query.selection_mapTargets,
    Query.afterConditions_mapTargets, h]

theorem Predicate.template?_mapTargets {p : Predicate}
    (h : ∀ t ∈ p.references, s.table t = s'.table (f t))
    (inner : conditionTemplates s p.inner = conditionTemplates s' (mapConditionTargets f p.inner)) :
    p.template? s = (p.mapTargets f).template? s' := by
  cases p with
  | group conditions =>
    rw [Predicate.inner] at inner
    rw [Predicate.mapTargets, Predicate.template?, Predicate.template?, inner]
  | nonempty query negated =>
    have htable : s.table query.target = s'.table (f query.target) :=
      h _ (List.mem_singleton_self _)
    rw [Predicate.inner] at inner
    rw [Predicate.mapTargets, Predicate.template?, Predicate.template?, conditionTemplates_query,
      conditionTemplates_query, Query.conditions_mapTargets, ← inner, Clause.query_mapTargets htable]
  | _ => simp only [Predicate.mapTargets, Predicate.template?]

/-- Conditions at any depth, by what each condition refers to and what is inside of it. -/
theorem conditionTemplates_mapTargets (conditions : List Condition)
    (h : ∀ t ∈ conditionReferences conditions, s.table t = s'.table (f t)) :
    conditionTemplates s conditions = conditionTemplates s' (mapConditionTargets f conditions) := by
  induction conditions using conditions_induction with
  | nil => rw [mapConditionTargets_nil, conditionTemplates, conditionTemplates]
  | cons connective predicate rest inner ih =>
    rw [conditionReferences_cons] at h
    simp only [List.forall_mem_append] at h
    obtain ⟨hpredicate, hinner, hrest⟩ := h
    rw [mapConditionTargets_cons, conditionTemplates, conditionTemplates, ih hrest,
      Predicate.template?_mapTargets hpredicate (inner hinner)]

theorem Clause.conditions_mapTargets {conditions : List Condition}
    (h : ∀ t ∈ conditionReferences conditions, s.table t = s'.table (f t)) :
    Clause.conditions s conditions = Clause.conditions s' (mapConditionTargets f conditions) := by
  unfold Clause.conditions
  rw [conditionTemplates_mapTargets conditions h]

/-- A query is the same under other settings if its references are written alike. -/
theorem Query.template_mapTargets {q : Query}
    (h : ∀ t ∈ q.references, s.table t = s'.table (f t)) :
    q.template s = (q.mapTargets f).template s' := by
  rw [Query.references, List.forall_mem_cons] at h
  rw [Query.template, Query.template, conditionTemplates_query, conditionTemplates_query,
    Query.conditions_mapTargets, conditionTemplates_mapTargets q.conditions h.2,
    Clause.query_mapTargets h.1]

end Settings

/-! ### Deleting -/

/-- Whether a predicate compares the column of the given name. -/
def Predicate.compares (name : String) : Predicate → Bool
  | .compare column _ _ => column.isNamed name
  | _ => false

/-- Whether a query itself, not a group or a query inside of it, compares the column of the given
name. -/
def Query.compares (q : Query) (name : String) : Bool :=
  q.conditions.any (·.predicate.compares name)

theorem Predicate.compares_mapTargets (f : String → String) (name : String) (p : Predicate) :
    (p.mapTargets f).compares name = p.compares name := by
  cases p <;> simp [Predicate.mapTargets, Predicate.compares]

@[simp] theorem Query.compares_mapTargets (f : String → String) (name : String) (q : Query) :
    (q.mapTargets f).compares name = q.compares name := by
  unfold Query.compares
  rw [Query.conditions_mapTargets]
  induction q.conditions with
  | nil => rw [mapConditionTargets_nil]
  | cons condition rest ih =>
    obtain ⟨connective, predicate⟩ := condition
    rw [mapConditionTargets_cons, List.any_cons, List.any_cons, ih,
      Predicate.compares_mapTargets]

theorem Statement.unqualifyId_cons {name : String} {c : Condition} {rest : List Condition}
    (h : c.predicate.compares name = false) :
    Statement.unqualifyId name (c :: rest) = c :: Statement.unqualifyId name rest := by
  obtain ⟨connective, predicate⟩ := c
  cases predicate with
  | compare column operator operand =>
    have hname : ¬ column.isNamed name := by
      intro hnamed
      exact Bool.false_ne_true (h.symm.trans hnamed)
    rw [Statement.unqualifyId, if_neg hname]
  | _ => simp only [Statement.unqualifyId]

/-- Where no comparison has the qualified name there is nothing to replace. -/
theorem Statement.unqualifyId_of_not_compares {name : String} {conditions : List Condition}
    (h : conditions.any (·.predicate.compares name) = false) :
    Statement.unqualifyId name conditions = conditions := by
  induction conditions with
  | nil => rw [Statement.unqualifyId]
  | cons condition rest ih =>
    rw [List.any_cons, Bool.or_eq_false_iff] at h
    rw [Statement.unqualifyId_cons h.1, ih h.2]

/-! ### Statements -/

namespace Statement

variable {s s' : Settings} {f : String → String} {q : Query}

theorem select_mapTargets (h : ∀ t ∈ q.references, s.table t = s'.table (f t)) :
    select s q = select s' (q.mapTargets f) := by
  unfold select
  rw [Query.check_mapTargets, Query.template_mapTargets h]

theorem existence_mapTargets (h : ∀ t ∈ q.references, s.table t = s'.table (f t)) :
    existence s q = existence s' (q.mapTargets f) := by
  have hlimit : ∀ t ∈ { q with limit := some 1 }.references, s.table t = s'.table (f t) := h
  unfold existence
  rw [Query.check_mapTargets, Query.template_mapTargets hlimit, Query.mapTargets_limit]

theorem insertWith_mapTargets (h : s.table q.target = s'.table (f q.target)) (keyword : String)
    (batch : Batch) :
    insertWith keyword s q batch = insertWith keyword s' (q.mapTargets f) batch := by
  unfold insertWith
  rw [Query.target_mapTargets, h]

theorem insertUsing_mapTargets {source : Query} (h : s.table q.target = s'.table (f q.target))
    (hsource : ∀ t ∈ source.references, s.table t = s'.table (f t)) (columns : List Column) :
    insertUsing s q columns source =
      insertUsing s' (q.mapTargets f) columns (source.mapTargets f) := by
  unfold insertUsing
  rw [Query.check_mapTargets, Query.check_mapTargets, Query.target_mapTargets, h,
    Query.template_mapTargets hsource]

theorem create_mapTargets (h : s.table q.target = s'.table (f q.target)) (fields : Fields) :
    create s q fields = create s' (q.mapTargets f) fields := by
  unfold create
  rw [Query.check_mapTargets, Query.target_mapTargets, Query.options_mapTargets, h]

theorem update_mapTargets (h : ∀ t ∈ q.references, s.table t = s'.table (f t)) (fields : Fields) :
    update s q fields = update s' (q.mapTargets f) fields := by
  rw [Query.references, List.forall_mem_cons] at h
  unfold update
  rw [Query.check_mapTargets, Query.target_mapTargets, Query.options_mapTargets,
    Query.conditions_mapTargets, h.1, Clause.conditions_mapTargets h.2]

theorem upsert_mapTargets (h : s.table q.target = s'.table (f q.target)) (batch : Batch)
    (uniqueBy : List String) (onConflict : OnConflict) :
    upsert s q batch uniqueBy onConflict =
      upsert s' (q.mapTargets f) batch uniqueBy onConflict := by
  unfold upsert
  rw [Query.target_mapTargets, Query.check_mapTargets, h]

/-- Deleting tells the name of the record id from the target of the query, and so looks at the
target beyond how it is written. -/
theorem delete_mapTargets (h : ∀ t ∈ q.references, s.table t = s'.table (f t))
    (hmark : isRecordReference (f q.target) = isRecordReference q.target)
    (hid : q.compares (q.target ++ ".id") = false)
    (hid' : q.compares (f q.target ++ ".id") = false) :
    delete s q = delete s' (q.mapTargets f) := by
  rw [Query.references, List.forall_mem_cons] at h
  rw [← Query.compares_mapTargets f] at hid'
  unfold delete
  rw [Query.check_mapTargets, Query.target_mapTargets, Query.options_mapTargets, hmark, h.1,
    unqualifyId_of_not_compares hid, unqualifyId_of_not_compares hid',
    Query.conditions_mapTargets, Clause.conditions_mapTargets h.2]

end Statement

/-- What a request needs besides references that are written alike. Adding an edge does not look at
the settings at all. -/
def Request.UsesTables (f : String → String) : Request → Prop
  | .delete q => isRecordReference (f q.target) = isRecordReference q.target ∧
    q.compares (q.target ++ ".id") = false ∧ q.compares (f q.target ++ ".id") = false
  | .relate .. => False
  | _ => True

/-- A request is the same under other settings if its references are written alike. -/
theorem Request.compile_mapTargets {s s' : Settings} {f : String → String} {r : Request}
    (hr : r.UsesTables f) (h : ∀ t ∈ r.query.references, s.table t = s'.table (f t)) :
    r.compile s = (r.mapTargets f).compile s' := by
  have htable := h r.query.target (List.mem_cons_self ..)
  cases r with
  | select q => exact Statement.select_mapTargets h
  | existence q => exact Statement.existence_mapTargets h
  | insert q batch =>
    have hinsert := Statement.insertWith_mapTargets htable "INSERT" batch
    exact congrArg₂ (fun x y => x >>= fun _ => y) (Query.check_mapTargets f q).symm hinsert
  | insertOrIgnore q batch =>
    have hinsert := Statement.insertWith_mapTargets htable "INSERT IGNORE" batch
    exact congrArg₂ (fun x y => x >>= fun _ => y) (Query.check_mapTargets f q).symm hinsert
  | create q fields => exact Statement.create_mapTargets htable fields
  | update q fields => exact Statement.update_mapTargets h fields
  | upsert q batch uniqueBy onConflict =>
    exact Statement.upsert_mapTargets htable batch uniqueBy onConflict
  | delete q =>
    obtain ⟨hmark, hid, hid'⟩ := hr
    exact Statement.delete_mapTargets h hmark hid hid'
  | relate q edge target fields => cases hr

/-! ## A prefix before every reference -/

/-- A reference that a prefix can be put before: a record id, or a table that has no alias once the
prefix stands before it. -/
def TakesPrefix (lead reference : String) : Prop :=
  (RecordId.parse? reference).isSome ∨
    recordMark ∉ reference.toList ∧
      (Identifier.splitAlias (lead ++ reference).toList).2 = none

instance (lead reference : String) : Decidable (TakesPrefix lead reference) :=
  inferInstanceAs (Decidable (_ ∨ _))

section Lead

variable {lead reference : String} (hlead : recordMark ∉ lead.toList)

include hlead

theorem isRecordReference_lead (reference : String) :
    isRecordReference (lead ++ reference) = isRecordReference reference := by
  unfold isRecordReference
  rw [String.toList_append, Bool.eq_iff_iff, List.contains_iff_mem, List.contains_iff_mem,
    List.mem_append]
  simp [hlead]

/-- A record id with a text before it that has no mark is the id of a record in another table. -/
theorem isSome_parse?_lead (h : (RecordId.parse? reference).isSome) :
    (RecordId.parse? (lead ++ reference)).isSome := by
  obtain ⟨table, key, htable, hkey, rfl⟩ := RecordId.isSome_parse?_iff.1 h
  refine RecordId.isSome_parse?_iff.2 ⟨lead ++ table, key, ⟨?_, ?_⟩, hkey, ?_⟩
  · intro hempty
    exact htable.1 (String.append_eq_empty_iff.1 hempty).2
  · rw [String.toList_append, List.mem_append, not_or]
    exact ⟨hlead, htable.2⟩
  · simp only [String.append_assoc]

omit hlead in
theorem isRecordReference_of_parse? (h : (RecordId.parse? reference).isSome) :
    isRecordReference reference = true := by
  obtain ⟨table, key, -, -, rfl⟩ := RecordId.isSome_parse?_iff.1 h
  unfold isRecordReference
  rw [List.contains_iff_mem]
  simp [recordMark]

omit hlead in
/-- A record id is written as a literal, after the prefix. -/
theorem Settings.table_of_parse? (s : Settings) (h : (RecordId.parse? reference).isSome) :
    s.table reference = .ok (Json.quote (s.tablePrefix ++ reference)) := by
  obtain ⟨id, hid⟩ := Option.isSome_iff_exists.1 h
  unfold Settings.table RecordId.parse
  rw [if_pos (isRecordReference_of_parse? h), hid]
  rfl

omit hlead in
/-- A table without alias is written as a path, after the prefix. -/
theorem Settings.table_of_no_alias (s : Settings) (hmark : recordMark ∉ reference.toList)
    (halias : (Identifier.splitAlias (s.tablePrefix ++ reference).toList).2 = none) :
    s.table reference = .ok (Identifier.path (s.tablePrefix ++ reference)) := by
  rw [s.table_of_not_mem_recordMark hmark, Identifier.withAlias_of_none _ halias]

/-- The prefix may stand in the settings or in the reference. -/
theorem Settings.table_lead (h : TakesPrefix lead reference) :
    (⟨lead⟩ : Settings).table reference = (⟨""⟩ : Settings).table (lead ++ reference) := by
  rcases h with hid | ⟨hmark, halias⟩
  · rw [Settings.table_of_parse? _ hid, Settings.table_of_parse? _ (isSome_parse?_lead hlead hid),
      String.empty_append]
  · have hmark' : recordMark ∉ (lead ++ reference).toList := by
      rw [String.toList_append, List.mem_append, not_or]
      exact ⟨hlead, hmark⟩
    have halias' : (Identifier.splitAlias ("" ++ (lead ++ reference)).toList).2 = none := by
      rw [String.empty_append]
      exact halias
    rw [Settings.table_of_no_alias _ hmark halias, Settings.table_of_no_alias _ hmark' halias',
      String.empty_append]

end Lead

/-- **The prefix reaches every reference and nothing else.** Let the prefix have no record mark, and
let it be possible to put it before every reference. Then compiling with the prefix comes to putting
it before the references and compiling without: any request but an edge, if a deletion does not
compare the record id under its qualified name, and an insertion from a query. -/
theorem compile_prefixed {lead : String} (hlead : recordMark ∉ lead.toList) :
    (∀ r : Request, (∀ q edge target fields, r ≠ .relate q edge target fields) →
      (∀ q, r = .delete q → q.compares (q.target ++ ".id") = false ∧
        q.compares (lead ++ q.target ++ ".id") = false) →
      (∀ t ∈ r.query.references, TakesPrefix lead t) →
      r.compile ⟨lead⟩ = (r.mapTargets (lead ++ ·)).compile ⟨""⟩) ∧
    ∀ (q : Query) (columns : List Column) (source : Query),
      (∀ t ∈ q.references ++ source.references, TakesPrefix lead t) →
      Statement.insertUsing ⟨lead⟩ q columns source =
        Statement.insertUsing ⟨""⟩ (q.mapTargets (lead ++ ·)) columns
          (source.mapTargets (lead ++ ·)) := by
  refine ⟨fun r hrelate hdelete h => ?_, fun q columns source h => ?_⟩
  · refine Request.compile_mapTargets ?_ fun t ht => Settings.table_lead hlead (h t ht)
    cases r with
    | delete q => exact ⟨isRecordReference_lead hlead q.target, hdelete q rfl⟩
    | relate q edge target fields => exact hrelate q edge target fields rfl
    | _ => trivial
  · rw [List.forall_mem_append] at h
    have hq : TakesPrefix lead q.target := h.1 _ (List.mem_cons_self ..)
    exact Statement.insertUsing_mapTargets (Settings.table_lead hlead hq)
      (fun t ht => Settings.table_lead hlead (h.2 t ht)) columns

/-- A deletion with a table, a record and a table with a point in it inside of its conditions. -/
def staleSessions : Query where
  target := "sessions"
  conditions := [
    ⟨.and, .compare (.name "id") "=" (.literal (.text "sessions:1"))⟩,
    ⟨.or, .group [⟨.and, .nonempty {
      target := "users:ann"
      conditions := [⟨.and, .nonempty { target := "log.old" } true⟩] } false⟩]⟩]

theorem compile_prefixed_staleSessions :
    staleSessions.references = ["sessions", "users:ann", "log.old"] ∧
      (∀ t ∈ staleSessions.references, TakesPrefix "app_" t) ∧
      (Request.delete staleSessions).compile ⟨"app_"⟩ =
        (Request.delete (staleSessions.mapTargets ("app_" ++ ·))).compile ⟨""⟩ ∧
      (staleSessions.mapTargets ("app_" ++ ·)).references =
        ["app_sessions", "app_users:ann", "app_log.old"] ∧
      Statement.insertUsing ⟨"app_"⟩ staleSessions [] staleSessions =
        Statement.insertUsing ⟨""⟩ (staleSessions.mapTargets ("app_" ++ ·)) []
          (staleSessions.mapTargets ("app_" ++ ·)) := by
  have hlead : recordMark ∉ "app_".toList := by decide
  have htakes : ∀ t ∈ staleSessions.references, TakesPrefix "app_" t := by decide +kernel
  refine ⟨rfl, htakes, ?_, rfl, ?_⟩
  · refine (compile_prefixed hlead).1 (.delete staleSessions) nofun ?_ htakes
    rintro q ⟨⟩
    decide +kernel
  · refine (compile_prefixed hlead).2 staleSessions [] staleSessions ?_
    exact List.forall_mem_append.2 ⟨htakes, htakes⟩

/-! ## Edges -/

/-- A record id stands in the text of a statement as a literal, right after a keyword. -/
def Statement.Addresses (s : Statement) (keyword id : String) : Prop :=
  ∃ before after, s.template.text = before ++ (keyword ++ Json.quote id) ++ after

theorem Statement.addresses_of_first {s : Statement} {keyword id : String} {rest : List Template}
    (h : s.template = .join " " (.raw (keyword ++ Json.quote id) :: rest)) :
    s.Addresses keyword id := by
  refine ⟨"", (Template.joinTail " " rest).text, ?_⟩
  rw [h, String.empty_append]
  rfl

section Record

variable {settings : Settings} {q : Query} (hrecord : (RecordId.parse? q.target).isSome)
  {s : Statement}

include hrecord

theorem Settings.eq_of_table_eq_ok {table : String} (htable : settings.table q.target = .ok table) :
    table = Json.quote (settings.tablePrefix ++ q.target) := by
  rw [Settings.table_of_parse? settings hrecord] at htable
  exact (Except.ok.inj htable).symm

theorem Statement.addresses_create {fields : Fields}
    (hok : Statement.create settings q fields = .ok s) :
    s.Addresses "CREATE " (settings.tablePrefix ++ q.target) := by
  obtain ⟨-, -, hok⟩ := bind_eq_ok.1 hok
  obtain ⟨table, htable, hok⟩ := bind_eq_ok.1 hok
  cases hok
  rw [Settings.eq_of_table_eq_ok hrecord htable]
  exact Statement.addresses_of_first rfl

theorem Statement.addresses_update {fields : Fields}
    (hok : Statement.update settings q fields = .ok s) :
    s.Addresses "UPDATE " (settings.tablePrefix ++ q.target) := by
  obtain ⟨-, -, hok⟩ := bind_eq_ok.1 hok
  obtain ⟨table, htable, hok⟩ := bind_eq_ok.1 hok
  obtain ⟨filter, -, hok⟩ := bind_eq_ok.1 hok
  cases hok
  rw [Settings.eq_of_table_eq_ok hrecord htable]
  exact Statement.addresses_of_first rfl

theorem Statement.addresses_delete (hok : Statement.delete settings q = .ok s) :
    s.Addresses "DELETE " (settings.tablePrefix ++ q.target) := by
  obtain ⟨-, -, hok⟩ := bind_eq_ok.1 hok
  obtain ⟨table, htable, hok⟩ := bind_eq_ok.1 hok
  obtain ⟨filter, -, hok⟩ := bind_eq_ok.1 hok
  cases hok
  rw [Settings.eq_of_table_eq_ok hrecord htable, if_pos (isRecordReference_of_parse? hrecord)]
  exact Statement.addresses_of_first rfl

theorem Statement.addresses_select (hok : Statement.select settings q = .ok s) :
    s.Addresses "FROM " (settings.tablePrefix ++ q.target) := by
  obtain ⟨-, -, hok⟩ := bind_eq_ok.1 hok
  obtain ⟨t, ht, hok⟩ := bind_eq_ok.1 hok
  cases hok
  obtain ⟨table, ts, htable, -, rfl⟩ := Query.template_eq_ok ht
  rw [Settings.eq_of_table_eq_ok hrecord htable]
  refine ⟨(Clause.selection q).text ++ " ", (Template.joinTail " "
    (Clause.filter (Clause.connected ts) ++ Clause.afterConditions q)).text, ?_⟩
  simp only [Template.join, Template.joinTail, Template.text_append, Template.text_raw,
    ← String.append_assoc]

theorem Statement.exists_create (settings : Settings) (hcheck : q.check = .ok ())
    (fields : Fields) : ∃ s, Statement.create settings q fields = .ok s := by
  unfold Statement.create
  rw [hcheck, Settings.table_of_parse? settings hrecord]
  exact ⟨_, rfl⟩

/-- Nothing is wrong with a query for a record if nothing is with its conditions. -/
theorem Query.complaint?_of_record (hcheck : q.check = .ok ())
    (h : ∀ t ∈ conditionReferences q.conditions, IsReference t) : q.complaint? = none := by
  rw [Query.complaint?_eq_none, Query.references, List.forall_mem_cons]
  exact ⟨hcheck, isReference_iff.2 fun _ => hrecord, h⟩

/-- An edge names both records as they were given. -/
theorem Statement.relate_eq_ok (hcheck : q.check = .ok ()) {target : String}
    (htarget : (RecordId.parse? target).isSome) (edge : String) (fields : Fields) :
    Statement.relate q edge target fields = .ok ⟨.relate, .join " "
      (.raw ("RELATE " ++ q.target ++ "->" ++ edge ++ "->" ++ target) ::
        (Clause.content fields ++ Clause.options q.options))⟩ := by
  obtain ⟨source, hsource⟩ := Option.isSome_iff_exists.1 hrecord
  obtain ⟨other, hother⟩ := Option.isSome_iff_exists.1 htarget
  unfold Statement.relate RecordId.parse
  rw [hcheck, hsource, hother, ← RecordId.toString_of_parse? hsource,
    ← RecordId.toString_of_parse? hother]
  rfl

end Record

/-- Two edges with the same fields and options have the same text only if their records and edges
take up the same place. -/
theorem Statement.length_of_relate_eq {q q' : Query} {edge target target' : String}
    {fields : Fields} (hoptions : q'.options = q.options) {s : Statement}
    (hok : Statement.relate q edge target fields = .ok s)
    (hok' : Statement.relate q' edge target' fields = .ok s) :
    q.target.length + target.length = q'.target.length + target'.length := by
  obtain ⟨-, -, hok⟩ := bind_eq_ok.1 hok
  obtain ⟨source, hsource, hok⟩ := bind_eq_ok.1 hok
  obtain ⟨other, hother, hok⟩ := bind_eq_ok.1 hok
  obtain ⟨-, -, hok'⟩ := bind_eq_ok.1 hok'
  obtain ⟨source', hsource', hok'⟩ := bind_eq_ok.1 hok'
  obtain ⟨other', hother', hok'⟩ := bind_eq_ok.1 hok'
  rw [hoptions] at hok'
  cases hok
  have htext := congrArg (fun s : Statement => s.template.text.length) (Except.ok.inj hok')
  simp only [Template.join, Template.text_append, Template.text_raw, String.length_append,
    RecordId.toString_of_parse hsource, RecordId.toString_of_parse hother,
    RecordId.toString_of_parse hsource', RecordId.toString_of_parse hother'] at htext
  omega

/-- **Edges name their records without the prefix.** Let both ends of an edge be record ids. Then the
edge goes from the one to the other as they were given, while the record that is created is named
with the prefix, and so is the one that is selected, updated or deleted, if the conditions refer to
tables and records. So the edge is the one between the records with the prefix only if there is no
prefix. -/
theorem relate_prefixed_iff (settings : Settings) {q : Query} (hcheck : q.check = .ok ())
    (hsource : (RecordId.parse? q.target).isSome) {target : String}
    (htarget : (RecordId.parse? target).isSome) (edge : String) (fields : Fields) :
    (∃ s after, Statement.relate q edge target fields = .ok s ∧
      s.template.text = "RELATE " ++ q.target ++ "->" ++ edge ++ "->" ++ target ++ after) ∧
    (∀ fields, ∃ s, Statement.create settings q fields = .ok s ∧
      s.Addresses "CREATE " (settings.tablePrefix ++ q.target)) ∧
    ((∀ t ∈ conditionReferences q.conditions, IsReference t) →
      (∃ s, Statement.select settings q = .ok s ∧
        s.Addresses "FROM " (settings.tablePrefix ++ q.target)) ∧
      (∀ fields, ∃ s, Statement.update settings q fields = .ok s ∧
        s.Addresses "UPDATE " (settings.tablePrefix ++ q.target)) ∧
      ∃ s, Statement.delete settings q = .ok s ∧
        s.Addresses "DELETE " (settings.tablePrefix ++ q.target)) ∧
    ((Request.relate q edge target fields).compile settings =
      ((Request.relate q edge target fields).mapTargets (settings.tablePrefix ++ ·)).compile
        settings ↔ settings.tablePrefix = "") := by
  have hrelate := Statement.relate_eq_ok hsource hcheck htarget edge fields
  refine ⟨⟨_, _, hrelate, rfl⟩, fun fields => ?_, fun hreferences => ?_, ?_⟩
  · obtain ⟨s, hs⟩ := Statement.exists_create hsource settings hcheck fields
    exact ⟨s, hs, Statement.addresses_create hsource hs⟩
  · have hnone := Query.complaint?_of_record hsource hcheck hreferences
    refine ⟨?_, fun fields => ?_, ?_⟩
    · obtain ⟨s, hs⟩ := failure?_eq_none.1 ((failure?_select settings q).trans hnone)
      exact ⟨s, hs, Statement.addresses_select hsource hs⟩
    · obtain ⟨s, hs⟩ := failure?_eq_none.1 ((failure?_update settings q fields).trans hnone)
      exact ⟨s, hs, Statement.addresses_update hsource hs⟩
    · obtain ⟨s, hs⟩ := failure?_eq_none.1 ((failure?_delete settings q).trans hnone)
      exact ⟨s, hs, Statement.addresses_delete hsource hs⟩
  constructor
  · intro h
    have hlength := Statement.length_of_relate_eq (Query.options_mapTargets _ q) hrelate
      (h.symm.trans hrelate)
    rw [Query.target_mapTargets, String.length_append, String.length_append] at hlength
    exact String.length_eq_zero_iff.1 (by omega)
  · intro h
    show Statement.relate q edge target fields =
      Statement.relate (q.mapTargets _) edge (settings.tablePrefix ++ target) fields
    unfold Statement.relate
    rw [h, Query.check_mapTargets, Query.target_mapTargets, Query.options_mapTargets,
      String.empty_append, String.empty_append]

theorem relate_prefixed_iff_ann :
    let ann : Query := { target := "users:ann" }
    ann.check = .ok () ∧ (RecordId.parse? "users:ann").isSome ∧
      (RecordId.parse? "articles:a").isSome ∧
      (∃ s after, Statement.relate ann "wrote" "articles:a" .empty = .ok s ∧
        s.template.text = "RELATE " ++ "users:ann" ++ "->" ++ "wrote" ++ "->" ++ "articles:a" ++
          after) ∧
      (∃ s, Statement.delete ⟨"app_"⟩ ann = .ok s ∧ s.Addresses "DELETE " "app_users:ann") ∧
      (Request.relate ann "wrote" "articles:a" .empty).compile ⟨"app_"⟩ ≠
        (Request.relate { target := "app_users:ann" } "wrote" "app_articles:a" .empty).compile
          ⟨"app_"⟩ := by
  have hsource : (RecordId.parse? "users:ann").isSome := by decide
  have htarget : (RecordId.parse? "articles:a").isSome := by decide
  obtain ⟨hrelate, -, haddressed, hiff⟩ :=
    relate_prefixed_iff ⟨"app_"⟩ (show Query.check { target := "users:ann" } = .ok () from rfl)
      hsource htarget "wrote" .empty
  refine ⟨rfl, hsource, htarget, hrelate, (haddressed nofun).2.2, fun h => ?_⟩
  exact absurd (hiff.1 h) (by decide)

/-- With a prefix, what is created and what an edge starts from are two records. -/
theorem relate_without_prefix :
    (Request.create { target := "users:ann" } .empty).compile ⟨"app_"⟩ =
        .ok ⟨.create, .raw "CREATE \"app_users:ann\""⟩ ∧
      (Request.relate { target := "users:ann" } "wrote" "articles:a" .empty).compile ⟨"app_"⟩ =
        .ok ⟨.relate, .raw "RELATE users:ann->wrote->articles:a"⟩ := by
  exact ⟨rfl, rfl⟩

end SurrealQuery
