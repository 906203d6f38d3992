import SurrealQuery.Request
import SurrealQuery.Proofs.References
import SurrealQuery.Proofs.Upsert

/-!
# What compiling accepts

Every compiler checks its query for unsupported features first, an upsert after its own checks, and
nothing that comes later is about such a feature (`compile_unsupported_iff`). The statements with
conditions look at the references of the query next and fail for no other reason, so they accept the
same queries (`select_accepts_iff`).
-/

namespace SurrealQuery

/-! ## The check comes first -/

theorem Query.failure?_check (q : Query) :
    failure? q.check = q.features.head?.map .unsupported := by
  rw [Query.check_eq]
  cases q.features.head? <;> rfl

theorem failure?_checked {α : Type} {q : Query} {x : Except CompileError α}
    {later : Option CompileError} (h : q.features = [] → failure? x = later) :
    failure? (q.check >>= fun _ => x) = (q.features.head?.map .unsupported).or later := by
  rw [failure?_bind fun _ hok => h (Query.check_eq_ok.1 hok), Query.failure?_check]

/-- An error, if any, that is not about an unsupported feature. -/
def NotUnsupported (e : Option CompileError) : Prop :=
  ∀ feature, e ≠ some (.unsupported feature)

theorem NotUnsupported.none : NotUnsupported none := nofun

theorem notUnsupported_malformed? (references : List String) :
    NotUnsupported (malformed? references) := by
  intro feature
  unfold malformed?
  cases references.find? _ <;> simp

/-- The first of a list of features, or else something that is not about features. -/
theorem unsupported_iff {α : Type} {x : Except CompileError α} {features : List Feature}
    {later : Option CompileError} (h : failure? x = (features.head?.map .unsupported).or later)
    (hlater : NotUnsupported later) (feature : Feature) :
    x = .error (.unsupported feature) ↔ features.head? = some feature := by
  rw [← failure?_eq_some, h]
  cases features.head? with
  | none => simpa using hlater feature
  | some first => simp

/-! ## Statements with conditions -/

/-- What is wrong with a query: an unsupported feature, or else a malformed reference. -/
def Query.complaint? (q : Query) : Option CompileError :=
  (q.features.head?.map .unsupported).or (malformed? q.references)

theorem Query.complaint?_eq_none {q : Query} :
    q.complaint? = none ↔ q.check = .ok () ∧ ∀ r ∈ q.references, IsReference r := by
  rw [Query.complaint?, Option.or_eq_none_iff, Option.map_eq_none_iff, List.head?_eq_none_iff,
    malformed?_eq_none, Query.check_eq_ok]

theorem failure?_select (settings : Settings) (q : Query) :
    failure? (Statement.select settings q) = q.complaint? := by
  refine failure?_checked fun h => ?_
  rw [failure?_bind fun _ _ => failure?_pure _, Option.or_none, Query.failure?_template settings h]

theorem failure?_existence (settings : Settings) (q : Query) :
    failure? (Statement.existence settings q) = q.complaint? := by
  refine failure?_checked fun h => ?_
  have hlimit : { q with limit := some 1 }.features = [] := h
  rw [failure?_bind fun _ _ => failure?_pure _, Option.or_none,
    Query.failure?_template settings hlimit]
  rfl

/-- A statement about a table, with conditions. -/
theorem failure?_filtered {α : Type} (settings : Settings) (reference : String)
    {conditions : List Condition} (h : conditionFeatures conditions = [])
    (build : String → List Template → α) :
    failure? (do
        let table ← settings.table reference
        let filter ← Clause.conditions settings conditions
        return build table filter) = malformed? (reference :: conditionReferences conditions) := by
  have hfilter (table : String) : failure? (do
        let filter ← Clause.conditions settings conditions
        return build table filter) = malformed? (conditionReferences conditions) := by
    rw [failure?_bind fun _ _ => failure?_pure _, Option.or_none, Clause.conditions,
      failure?_bind fun _ _ => failure?_pure _, Option.or_none,
      failure?_conditionTemplates settings conditions h]
  rw [failure?_bind fun table _ => hfilter table, failure?_table]
  exact (malformed?_cons reference _).symm

theorem failure?_update (settings : Settings) (q : Query) (fields : Fields) :
    failure? (Statement.update settings q fields) = q.complaint? := by
  refine failure?_checked fun h => ?_
  exact failure?_filtered settings q.target (List.append_eq_nil_iff.1 h).2 _

theorem failure?_delete (settings : Settings) (q : Query) :
    failure? (Statement.delete settings q) = q.complaint? := by
  have hfeatures := flatMap_predicates_unqualifyId Predicate.features
    (fun _ _ _ => rfl) (q.target ++ ".id") q.conditions
  have hreferences := flatMap_predicates_unqualifyId Predicate.references
    (fun _ _ _ => rfl) (q.target ++ ".id") q.conditions
  refine failure?_checked fun h => ?_
  have hsupported : conditionFeatures q.conditions = [] := (List.append_eq_nil_iff.1 h).2
  refine (failure?_filtered settings q.target (hfeatures.trans hsupported) _).trans ?_
  exact congrArg (fun references => malformed? (q.target :: references)) hreferences

/-! ## Statements that write -/

theorem NotUnsupported.bind {α β : Type} {x : Except CompileError α}
    {f : α → Except CompileError β} (hx : NotUnsupported (failure? x))
    (hf : ∀ a, NotUnsupported (failure? (f a))) : NotUnsupported (failure? (x >>= f)) := by
  cases x with
  | error e => exact hx
  | ok a => exact hf a

theorem notUnsupported_table (settings : Settings) (reference : String) :
    NotUnsupported (failure? (settings.table reference)) := by
  rw [failure?_table]
  exact notUnsupported_malformed? [reference]

theorem notUnsupported_parse (s : String) : NotUnsupported (failure? (RecordId.parse s)) := by
  intro feature
  unfold RecordId.parse
  split <;> simp

theorem notUnsupported_rows (fields : List String) (number : Nat) (records : List Fields) :
    NotUnsupported (failure? (Clause.rows fields number records)) := by
  induction records generalizing number with
  | nil => exact .none
  | cons record rest ih =>
    rw [Clause.rows]
    cases record.project? fields with
    | none => exact nofun
    | some given => exact (ih (number + 1)).bind fun _ => .none

theorem notUnsupported_insertion (keyword table : String) (batch : Batch) :
    NotUnsupported (failure? (Clause.insertion keyword table batch)) :=
  (notUnsupported_rows _ 1 batch.records).bind fun _ => .none

theorem notUnsupported_insertWith (keyword : String) (settings : Settings) (q : Query)
    (batch : Batch) :
    NotUnsupported (failure? (Statement.insertWith keyword settings q batch)) := by
  refine (notUnsupported_table settings q.target).bind fun table => ?_
  split
  · exact .none
  · exact (notUnsupported_insertion keyword table batch).bind fun _ => .none

/-! ## Every request -/

def Request.query : Request → Query
  | .select q | .existence q | .delete q | .insert q _ | .insertOrIgnore q _ | .create q _
  | .update q _ | .upsert q _ _ _ | .relate q _ _ _ => q

/-- What an upsert has to be given besides a query: the record id as its key, fields to update and
records with fields. No other request has such constraints. -/
def Request.MeetsConstraints : Request → Prop
  | .upsert _ batch uniqueBy onConflict =>
    uniqueBy = ["id"] ∧ ∃ fields, onConflict = .set fields ∧ fields.isEmpty = false ∧
      batch.isEmpty = false
  | _ => True

/-- A request that meets its constraints fails with the first unsupported feature of its query, or
else for another reason. -/
theorem Request.failure?_compile (settings : Settings) {r : Request} (h : r.MeetsConstraints) :
    ∃ later, NotUnsupported later ∧
      failure? (r.compile settings) = (r.query.features.head?.map .unsupported).or later := by
  cases r with
  | select q => exact ⟨_, notUnsupported_malformed? _, failure?_select settings q⟩
  | existence q => exact ⟨_, notUnsupported_malformed? _, failure?_existence settings q⟩
  | update q fields => exact ⟨_, notUnsupported_malformed? _, failure?_update settings q fields⟩
  | delete q => exact ⟨_, notUnsupported_malformed? _, failure?_delete settings q⟩
  | insert q batch =>
    exact ⟨_, notUnsupported_insertWith _ settings q batch, failure?_checked fun _ => rfl⟩
  | insertOrIgnore q batch =>
    exact ⟨_, notUnsupported_insertWith _ settings q batch, failure?_checked fun _ => rfl⟩
  | create q fields =>
    refine ⟨_, ?_, failure?_checked fun _ => rfl⟩
    exact (notUnsupported_table settings q.target).bind fun _ => .none
  | relate q edge target fields =>
    refine ⟨_, ?_, failure?_checked fun _ => rfl⟩
    refine (notUnsupported_parse q.target).bind fun source => ?_
    exact (notUnsupported_parse target).bind fun _ => .none
  | upsert q batch uniqueBy onConflict =>
    -- The others start with the check of the query; an upsert does after its own checks.
    have hfault := Statement.upsertFault?_eq_none.2 h
    obtain ⟨-, fields, rfl, -⟩ := h
    rw [Request.compile, Statement.upsert_of_no_fault hfault]
    refine ⟨_, ?_, failure?_checked fun _ => rfl⟩
    refine (notUnsupported_table settings q.target).bind fun table => ?_
    exact (notUnsupported_insertion _ table batch).bind fun _ => .none

/-- A request that does not meet its constraints fails, and not with an unsupported feature. -/
theorem Request.compile_of_not_meetsConstraints (settings : Settings) {r : Request}
    (h : ¬ r.MeetsConstraints) :
    ∃ e, r.compile settings = .error e ∧ NotUnsupported (some e) := by
  cases r with
  | upsert q batch uniqueBy onConflict =>
    cases hfault : Statement.upsertFault? batch uniqueBy onConflict with
    | none => exact absurd (Statement.upsertFault?_eq_none.1 hfault) h
    | some e =>
      refine ⟨e, Statement.upsert_of_fault hfault settings q, fun feature => ?_⟩
      rw [← hfault]
      exact Statement.upsertFault?_ne_unsupported feature
  | _ => exact absurd trivial h

theorem Request.compile_unsupported (settings : Settings) (r : Request) (feature : Feature) :
    r.compile settings = .error (.unsupported feature) ↔
      r.MeetsConstraints ∧ r.query.features.head? = some feature := by
  by_cases h : r.MeetsConstraints
  · obtain ⟨later, hlater, hfailure⟩ := Request.failure?_compile settings h
    rw [unsupported_iff hfailure hlater]
    exact (and_iff_right h).symm
  · obtain ⟨e, he, hunsupported⟩ := Request.compile_of_not_meetsConstraints settings h
    rw [he]
    refine ⟨fun heq => ?_, fun hmeets => absurd hmeets.1 h⟩
    cases heq
    exact absurd rfl (hunsupported feature)

theorem Request.features_of_compile {settings : Settings} {r : Request} {s : Statement}
    (hok : r.compile settings = .ok s) : r.query.features = [] := by
  by_cases h : r.MeetsConstraints
  · obtain ⟨later, -, hfailure⟩ := Request.failure?_compile settings h
    rw [hok, failure?_ok, eq_comm, Option.or_eq_none_iff, Option.map_eq_none_iff] at hfailure
    exact List.head?_eq_none_iff.1 hfailure.1
  · obtain ⟨e, he, -⟩ := Request.compile_of_not_meetsConstraints settings h
    rw [he] at hok
    cases hok

theorem failure?_insertUsing (settings : Settings) (q : Query) (columns : List Column)
    (source : Query) :
    failure? (Statement.insertUsing settings q columns source) =
      ((q.features ++ source.features).head?.map .unsupported).or
        (malformed? (q.target :: source.references)) := by
  have hbuild (h : source.features = []) : failure? (do
        let table ← settings.table q.target
        let inner ← source.template settings
        return (⟨.insert, .wrap ("INSERT INTO " ++ table ++ " (") (Clause.columns columns)
          ") VALUES " ++ .wrap "((" inner "))"⟩ : Statement)) =
      malformed? (q.target :: source.references) := by
    rw [failure?_bind fun table _ => failure?_bind fun _ _ => failure?_pure _, Option.or_none,
      failure?_table, Query.failure?_template settings h]
    exact (malformed?_cons q.target _).symm
  refine (failure?_checked fun _ => failure?_checked fun h => hbuild h).trans ?_
  rw [List.head?_append, Option.map_or, Option.or_assoc]

/-- **Unsupported features are refused, first and exactly.** The check of a query reports the first
unsupported feature of it. So does every compiler, whatever else is wrong with a request: an upsert
once it meets its constraints, an insertion from a query for the query and then for its source. What
is compiled has no unsupported feature at any depth. -/
theorem compile_unsupported_iff (settings : Settings) :
    (∀ q : Query, q.check = match q.features.head? with
      | some feature => .error (.unsupported feature)
      | none => .ok ()) ∧
    (∀ (r : Request) (feature : Feature), r.compile settings = .error (.unsupported feature) ↔
      r.MeetsConstraints ∧ r.query.features.head? = some feature) ∧
    (∀ (q : Query) (columns : List Column) (source : Query) (feature : Feature),
      Statement.insertUsing settings q columns source = .error (.unsupported feature) ↔
        (q.features ++ source.features).head? = some feature) ∧
    (∀ (r : Request) (s : Statement), r.compile settings = .ok s → r.query.IsSupported) ∧
    ∀ (q : Query) (columns : List Column) (source : Query) (s : Statement),
      Statement.insertUsing settings q columns source = .ok s →
        q.IsSupported ∧ source.IsSupported := by
  refine ⟨Query.check_eq, Request.compile_unsupported settings, fun q columns source => ?_,
    fun r s hok => ?_, fun q columns source s hok => ?_⟩
  · exact unsupported_iff (failure?_insertUsing settings q columns source)
      (notUnsupported_malformed? _)
  · exact Query.features_eq_nil.1 (Request.features_of_compile hok)
  · have hfailure := failure?_insertUsing settings q columns source
    rw [hok, failure?_ok, eq_comm, Option.or_eq_none_iff, Option.map_eq_none_iff,
      List.head?_eq_none_iff, List.append_eq_nil_iff] at hfailure
    exact ⟨Query.features_eq_nil.1 hfailure.1.1, Query.features_eq_nil.1 hfailure.1.2⟩

/-- Users with a condition on other records, in a query inside of a group. -/
def usersWith (reference : String) (predicate : Predicate) : Query where
  target := "users"
  conditions := [⟨.and, .group [⟨.or, .nonempty {
    target := reference
    conditions := [⟨.and, predicate⟩] } false⟩]⟩]

theorem compile_unsupported_iff_usersWith :
    let bitwise := usersWith "a:b:c" (.bitwise (.name "flags") "&" (.literal (.int 4)))
    let total := usersWith "orders" (.null (.name "total") true)
    Statement.select ⟨"app_"⟩ bitwise = .error (.unsupported .bitwise) ∧
      Statement.insertUsing ⟨"app_"⟩ total [] bitwise = .error (.unsupported .bitwise) ∧
      (∃ s, (Request.select total).compile ⟨"app_"⟩ = .ok s) ∧ total.IsSupported := by
  refine ⟨?_, ?_, ⟨_, rfl⟩, ?_⟩
  · exact ((compile_unsupported_iff ⟨"app_"⟩).2.1 (.select _) .bitwise).2 ⟨trivial, rfl⟩
  · exact ((compile_unsupported_iff ⟨"app_"⟩).2.2.1 _ [] _ .bitwise).2 rfl
  · exact (compile_unsupported_iff ⟨"app_"⟩).2.2.2.1 (.select _) _ rfl

/-! ## The same queries -/

/-- **Queries are accepted by their features and references alone.** A query is selected if it passes
the check and all its references are well-formed; the first that is not is reported as it was given.
Asking for existence, updating and deleting accept the same queries, and else fail alike. -/
theorem select_accepts_iff (settings : Settings) (q : Query) :
    ((∃ s, Statement.select settings q = .ok s) ↔
      q.check = .ok () ∧ ∀ r ∈ q.references, IsReference r) ∧
    (∀ r, q.check = .ok () → q.references.find? (¬ IsReference ·) = some r →
      Statement.select settings q = .error (.invalidRecord r)) ∧
    Agree (fun _ _ => True) (Statement.select settings q) (Statement.existence settings q) ∧
    (∀ fields, Agree (fun _ _ => True) (Statement.select settings q)
      (Statement.update settings q fields)) ∧
    Agree (fun _ _ => True) (Statement.select settings q) (Statement.delete settings q) := by
  have hselect := failure?_select settings q
  refine ⟨?_, fun r hcheck hfind => ?_, .of_failure? ?_, fun fields => .of_failure? ?_,
    .of_failure? ?_⟩
  · rw [← failure?_eq_none, hselect, Query.complaint?, Option.or_eq_none_iff,
      Option.map_eq_none_iff, List.head?_eq_none_iff, malformed?_eq_none, Query.check_eq_ok]
  · rw [← failure?_eq_some, hselect, Query.complaint?, Query.check_eq_ok.1 hcheck, malformed?,
      hfind]
    rfl
  · rw [hselect, failure?_existence]
  · rw [hselect, failure?_update]
  · rw [hselect, failure?_delete]

theorem select_accepts_iff_usersWith :
    let orders := usersWith "a:b:c" (.null (.name "total") true)
    orders.check = .ok () ∧ orders.references = ["users", "a:b:c"] ∧
      Statement.select ⟨"app_"⟩ orders = .error (.invalidRecord "a:b:c") := by
  refine ⟨rfl, rfl, ?_⟩
  exact (select_accepts_iff ⟨"app_"⟩ _).2.1 "a:b:c" rfl (by decide)

end SurrealQuery
