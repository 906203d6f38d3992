import SurrealQuery.Proofs.Congruence.Clause
import SurrealQuery.Proofs.RecordId
import SurrealQuery.Proofs.Upsert

/-!
# Rewriting and compiling

A relation between templates that building keeps is kept by every compiler: a request and the
rewritten request fail alike, or their statements have the same verb and related templates.
-/

namespace SurrealQuery

/-- Statements that do the same, with related templates. -/
def Statement.Related (R : Template → Template → Prop) (s t : Statement) : Prop :=
  s.verb = t.verb ∧ R s.template t.template

theorem Fields.mem_entries_of_get? {f : Fields} {key : String} {o : Operand}
    (h : f.get? key = some o) : (key, o) ∈ f.entries := by
  obtain ⟨before, after, hsplit, -⟩ := List.lookup_eq_some_iff.1 h
  rw [hsplit]
  simp

theorem Fields.forall₂_of_mapM {f : Fields} {fields : List String} {given : List Operand}
    (h : fields.mapM f.get? = some given) :
    List.Forall₂ (fun key o => f.get? key = some o) fields given := by
  induction fields generalizing given with
  | nil => cases h; exact .nil
  | cons key rest ih =>
    rw [List.mapM_cons] at h
    cases hkey : f.get? key with
    | none => rw [hkey] at h; cases h
    | some o =>
      cases hrest : rest.mapM f.get? with
      | none => rw [hkey, hrest] at h; cases h
      | some os => rw [hkey, hrest] at h; cases h; exact .cons hkey (ih hrest)

/-- What is put under the fields of the first record are operands of the record itself. -/
theorem Fields.forall₂_of_project? {f : Fields} {fields : List String} {given : List Operand}
    (h : f.project? fields = some given) :
    List.Forall₂ (fun key o => f.get? key = some o) fields given := by
  unfold Fields.project? at h
  cases hm : fields.mapM f.get? with
  | none => rw [hm] at h; cases h
  | some operands =>
    rw [hm] at h
    obtain ⟨-, rfl⟩ : _ ∧ operands = given := by simpa using h
    exact Fields.forall₂_of_mapM hm

theorem Fields.parts_of_project? {f : Fields} {fields : List String} {given : List Operand}
    (h : f.project? fields = some given) {c : Call} (hc : c ∈ given.flatMap Operand.parts) :
    c ∈ f.parts := by
  obtain ⟨o, ho, hc⟩ := List.mem_flatMap.1 hc
  obtain ⟨n, hn, rfl⟩ := List.mem_iff_getElem.1 ho
  have hall := Fields.forall₂_of_project? h
  have hget := (List.forall₂_iff_get.1 hall).2 n (by rw [hall.length_eq]; exact hn) hn
  exact List.mem_flatMap.2 ⟨_, Fields.mem_entries_of_get? hget, List.mem_cons_of_mem _ hc⟩

theorem Fields.mem_parts_of_mem_keys {f : Fields} {key : String} (h : key ∈ f.keys) :
    ⟨key, []⟩ ∈ f.parts := by
  obtain ⟨⟨k, o⟩, he, rfl⟩ := List.mem_map.1 h
  exact List.mem_flatMap.2 ⟨_, he, List.mem_cons_self ..⟩

/-- The fields that a batch has by its first record. -/
def Batch.fields (b : Batch) : List String :=
  (b.records.head?.map Fields.keys).getD []

theorem Clause.insertion_eq (keyword table : String) (batch : Batch) :
    Clause.insertion keyword table batch = (do
      let rows ← Clause.rows batch.fields 1 batch.records
      return .raw (keyword ++ " INTO " ++ table ++ " (" ++
        Text.commaList (batch.fields.map Identifier.column) ++ ") VALUES ") ++ .join ", " rows) :=
  rfl

theorem Batch.fields_rewrite (w : Rewriting) (b : Batch) : (b.rewrite w).fields = b.fields := by
  unfold Batch.fields
  rw [Batch.rewrite, List.head?_map, Option.map_map]
  congr 2
  funext f
  exact Fields.keys_rewrite w f

theorem Batch.mem_parts_of_mem_fields {b : Batch} {key : String} (h : key ∈ b.fields) :
    ⟨key, []⟩ ∈ b.parts := by
  unfold Batch.fields at h
  cases hfirst : b.records.head? with
  | none => rw [hfirst] at h; cases h
  | some first =>
    rw [hfirst] at h
    exact List.mem_flatMap.2 ⟨first, List.mem_of_head? hfirst, Fields.mem_parts_of_mem_keys h⟩

theorem Statement.upsertFault?_rewrite (w : Rewriting) (batch : Batch) (uniqueBy : List String)
    (onConflict : OnConflict) :
    Statement.upsertFault? (batch.rewrite w) uniqueBy (onConflict.rewrite w) =
      Statement.upsertFault? batch uniqueBy onConflict := by
  unfold Statement.upsertFault?
  cases onConflict with
  | columns names => rfl
  | set fields =>
    rw [OnConflict.rewrite, Batch.isEmpty_rewrite]
    dsimp only
    rw [Fields.isEmpty_rewrite]

/-- Both sides check for unsupported features first, with the same outcome. -/
theorem Agree.checked {w : Rewriting} {S : Statement → Statement → Prop} {q : Query}
    {x y : Except CompileError Statement} (h : Agree S x y) :
    Agree S (q.check >>= fun _ => x) ((q.rewrite w).check >>= fun _ => y) := by
  rw [Query.check_rewrite]
  exact Agree.bind_same _ fun _ _ => h

namespace Respects

variable {w : Rewriting} {Good : Call → Prop} {R : Template → Template → Prop}
  (H : Respects w Good R)

include H

/-! ## Inserting -/

theorem rows {fields : List String} {records : List Fields}
    (good : ∀ c ∈ records.flatMap Fields.parts, Good c) (number : Nat) :
    Agree (List.Forall₂ R) (Clause.rows fields number records)
      (Clause.rows fields number (records.map (Fields.rewrite w))) := by
  induction records generalizing number with
  | nil => exact .ok .nil
  | cons record rest ih =>
    rw [List.flatMap_cons, List.forall_mem_append] at good
    rw [List.map_cons, Clause.rows, Clause.rows, Fields.project?_rewrite, Fields.keys_rewrite]
    cases hproject : record.project? fields with
    | none => exact .error _
    | some given =>
      refine Agree.bind (ih good.2 (number + 1)) fun ts us h => Agree.pure (.cons ?_ h)
      refine H.wrap (H.fixed (by decide)) (H.operands fun c hc => ?_) (by decide) (by decide)
      exact good.1 c (Fields.parts_of_project? hproject hc)

theorem insertion {settings : Settings} {keyword reference table : String} {batch : Batch}
    (hok : settings.table reference = .ok table)
    (htable : ∀ t ∈ settings.tableTexts reference, Good ⟨t, []⟩)
    (good : ∀ c ∈ batch.parts, Good c) (hkeyword : IsGlue (keyword ++ " INTO ")) :
    Agree R (Clause.insertion keyword table batch)
      (Clause.insertion keyword table (batch.rewrite w)) := by
  have hfields : ∀ key ∈ batch.fields, Good ⟨key, []⟩ := fun key hkey =>
    good _ (Batch.mem_parts_of_mem_fields hkey)
  have hhead : R (.raw (keyword ++ " INTO " ++ table ++ " (" ++
        Text.commaList (batch.fields.map Identifier.column) ++ ") VALUES "))
      (.raw (keyword ++ " INTO " ++ table ++ " (" ++
        Text.commaList (batch.fields.map Identifier.column) ++ ") VALUES ")) := by
    refine H.text (settings.tableTexts reference ++ batch.fields) (fun h => ?_) ?_
    · rw [List.forall_mem_append] at h
      refine (((isPlain_table h.1 hok).glue_append hkeyword).glue
        (isPlain_commaList ?_) (by decide)).append_glue (by decide)
      rw [List.forall_mem_map]
      exact fun key hkey => isPlain_column (h.2 key hkey)
    · rw [List.forall_mem_append]
      exact ⟨htable, hfields⟩
  rw [Clause.insertion_eq, Clause.insertion_eq, Batch.fields_rewrite]
  refine Agree.bind (H.rows good 1) fun ts us h => Agree.pure ?_
  exact H.append (apart_of_closes (closes_append _ (by decide))) hhead (H.join h (by decide))

theorem insertWith {settings : Settings} {keyword : String} {q : Query} {batch : Batch}
    (htable : ∀ t ∈ settings.tableTexts q.target, Good ⟨t, []⟩)
    (good : ∀ c ∈ batch.parts, Good c) (hkeyword : IsGlue (keyword ++ " INTO ")) :
    Agree (Statement.Related R) (Statement.insertWith keyword settings q batch)
      (Statement.insertWith keyword settings (q.rewrite w) (batch.rewrite w)) := by
  unfold Statement.insertWith
  rw [Query.target_rewrite, Batch.isEmpty_rewrite]
  refine Agree.bind_same _ fun table hok => ?_
  split
  · exact Agree.pure ⟨rfl, H.tableText htable hok (by decide)⟩
  · exact Agree.bind (H.insertion hok htable good hkeyword) fun t u h => Agree.pure ⟨rfl, h⟩

/-! ## The compilers -/

theorem select {settings : Settings} {q : Query} (good : ∀ c ∈ q.parts settings, Good c) :
    Agree (Statement.Related R) (Statement.select settings q)
      (Statement.select settings (q.rewrite w)) :=
  Agree.checked (Agree.bind (H.queryTemplate settings q good) fun _ _ h => Agree.pure ⟨rfl, h⟩)

theorem existence {settings : Settings} {q : Query} (good : ∀ c ∈ q.parts settings, Good c) :
    Agree (Statement.Related R) (Statement.existence settings q)
      (Statement.existence settings (q.rewrite w)) := by
  have h := H.queryTemplate settings { q with limit := some 1 } good
  rw [Query.rewrite_limit] at h
  refine Agree.checked (Agree.bind h fun t u h => Agree.pure ⟨rfl, ?_⟩)
  exact H.wrap (H.fixed (by decide)) h (by decide) (by decide)

theorem create {settings : Settings} {q : Query} {fields : Fields}
    (htable : ∀ t ∈ settings.tableTexts q.target, Good ⟨t, []⟩)
    (good : ∀ c ∈ fields.parts, Good c) :
    Agree (Statement.Related R) (Statement.create settings q fields)
      (Statement.create settings (q.rewrite w) (fields.rewrite w)) := by
  refine Agree.checked ?_
  rw [Query.target_rewrite, Query.options_rewrite]
  refine Agree.bind_same _ fun table hok => Agree.pure ⟨rfl, ?_⟩
  exact H.join (.cons (H.tableText htable hok (by decide))
    (List.rel_append (H.content good) (H.options q.options))) (by decide)

theorem update {settings : Settings} {q : Query} {fields : Fields}
    (htable : ∀ t ∈ settings.tableTexts q.target, Good ⟨t, []⟩)
    (hconditions : ∀ c ∈ conditionParts settings q.conditions, Good c)
    (good : ∀ c ∈ fields.parts, Good c) :
    Agree (Statement.Related R) (Statement.update settings q fields)
      (Statement.update settings (q.rewrite w) (fields.rewrite w)) := by
  refine Agree.checked ?_
  rw [Query.target_rewrite, Query.options_rewrite, Query.conditions_rewrite,
    Fields.isEmpty_rewrite]
  refine Agree.bind_same _ fun table hok => ?_
  refine Agree.bind (H.conditionClause settings _ hconditions) fun ts us h =>
    Agree.pure ⟨rfl, ?_⟩
  refine H.join (.cons (H.tableText htable hok (by decide))
    (List.rel_append (List.rel_append ?_ h) (H.options q.options))) (by decide)
  split
  · exact .nil
  · exact .cons (H.before (H.assignments good) (by decide)) .nil

theorem delete {settings : Settings} {q : Query}
    (htable : ∀ t ∈ settings.tableTexts q.target, Good ⟨t, []⟩)
    (hconditions : ∀ c ∈ conditionParts settings q.conditions, Good c) :
    Agree (Statement.Related R) (Statement.delete settings q)
      (Statement.delete settings (q.rewrite w)) := by
  refine Agree.checked ?_
  rw [Query.target_rewrite, Query.options_rewrite, Query.conditions_rewrite,
    ← rewriteConditions_unqualifyId]
  refine Agree.bind_same _ fun table hok => ?_
  refine Agree.bind (H.conditionClause settings _ fun c hc => ?_) fun ts us h =>
    Agree.pure ⟨rfl, ?_⟩
  -- The bare name of the record id is the one text here that the caller did not give.
  · rcases mem_conditionParts_unqualifyId hc with rfl | hc
    · exact H.plain (by decide)
    · exact hconditions c hc
  · refine H.join (.cons (H.tableText htable hok ?_) (List.rel_append h (H.options q.options)))
      (by decide)
    split <;> decide

theorem relate {settings : Settings} {q : Query} {edge target : String} {fields : Fields}
    (htable : ∀ t ∈ settings.tableTexts q.target, Good ⟨t, []⟩) (hedge : Good ⟨edge, []⟩)
    (htarget : Good ⟨target, []⟩) (good : ∀ c ∈ fields.parts, Good c) :
    Agree (Statement.Related R) (Statement.relate q edge target fields)
      (Statement.relate (q.rewrite w) edge target (fields.rewrite w)) := by
  refine Agree.checked ?_
  rw [Query.target_rewrite, Query.options_rewrite]
  refine Agree.bind_same _ fun source hsource => Agree.bind_same _ fun record hrecord =>
    Agree.pure ⟨rfl, ?_⟩
  rw [RecordId.toString_of_parse hsource, RecordId.toString_of_parse hrecord]
  refine H.join (.cons ?_ (List.rel_append (H.content good) (H.options q.options))) (by decide)
  refine H.text [settings.tablePrefix ++ q.target, edge, target] (fun h => ?_) ?_
  · simp only [List.forall_mem_cons] at h
    obtain ⟨hname, hedge, htarget, -⟩ := h
    have hsource : IsPlain q.target := hname.of_infix
      ⟨settings.tablePrefix.toList, [], by rw [List.append_nil, String.toList_append]⟩
    exact ((hsource.glue_append (by decide)).glue hedge (by decide)).glue htarget (by decide)
  · simp only [List.forall_mem_cons]
    exact ⟨htable _ (List.mem_cons_self ..), hedge, htarget, by simp⟩

theorem upsert {settings : Settings} {q : Query} {batch : Batch} (uniqueBy : List String)
    {onConflict : OnConflict} (htable : ∀ t ∈ settings.tableTexts q.target, Good ⟨t, []⟩)
    (hbatch : ∀ c ∈ batch.parts, Good c) (good : ∀ c ∈ onConflict.parts, Good c) :
    Agree (Statement.Related R) (Statement.upsert settings q batch uniqueBy onConflict)
      (Statement.upsert settings (q.rewrite w) (batch.rewrite w) uniqueBy
        (onConflict.rewrite w)) := by
  have hfault := Statement.upsertFault?_rewrite w batch uniqueBy onConflict
  cases h : Statement.upsertFault? batch uniqueBy onConflict with
  | some e =>
    rw [Statement.upsert_of_fault h, Statement.upsert_of_fault (hfault.trans h)]
    exact .error e
  | none =>
    obtain ⟨-, fields, rfl, -⟩ := Statement.upsertFault?_eq_none.1 h
    rw [OnConflict.rewrite, Statement.upsert_of_no_fault h,
      Statement.upsert_of_no_fault (hfault.trans h), Query.target_rewrite]
    refine Agree.checked (Agree.bind_same _ fun table hok => ?_)
    refine Agree.bind (H.insertion hok htable hbatch (by decide)) fun t u h =>
      Agree.pure ⟨rfl, ?_⟩
    exact H.glued h (H.assignments good) (by decide)

/-- **Inserting from a query.** The query, the columns and the source are rewritten alike. -/
theorem insertUsing {settings : Settings} {q source : Query} {columns : List Column}
    (htable : ∀ t ∈ settings.tableTexts q.target, Good ⟨t, []⟩)
    (hcolumns : ∀ c ∈ columns.flatMap Column.parts, Good c)
    (good : ∀ c ∈ source.parts settings, Good c) :
    Agree (Statement.Related R) (Statement.insertUsing settings q columns source)
      (Statement.insertUsing settings (q.rewrite w) (columns.map (Column.rewrite w))
        (source.rewrite w)) := by
  refine Agree.checked (Agree.checked ?_)
  rw [Query.target_rewrite]
  refine Agree.bind_same _ fun table hok => ?_
  refine Agree.bind (H.queryTemplate settings source good) fun t u h => Agree.pure ⟨rfl, ?_⟩
  have hhead : R (.raw ("INSERT INTO " ++ table ++ " (")) (.raw ("INSERT INTO " ++ table ++ " (")) :=
    H.text _ (fun h => ((isPlain_table h hok).glue_append (by decide)).append_glue (by decide))
      htable
  exact H.append (apart_of_opens (opens_append _ (opens_append _ (by decide))))
    (H.wrap hhead (H.columns hcolumns) (closes_append _ (by decide)) (by decide))
    (H.wrap (H.fixed (by decide)) h (by decide) (by decide))

/-- **Compiling.** A request and the rewritten one fail alike, or give related statements. -/
theorem compile {settings : Settings} {r : Request} (good : ∀ c ∈ r.parts settings, Good c) :
    Agree (Statement.Related R) (r.compile settings) ((r.rewrite w).compile settings) := by
  have htable {q : Query} (h : ∀ c ∈ q.parts settings, Good c) :
      ∀ t ∈ settings.tableTexts q.target, Good ⟨t, []⟩ :=
    fun t ht => h _ (Query.mem_parts_of_tableTexts ht)
  have hconditions {q : Query} (h : ∀ c ∈ q.parts settings, Good c) :
      ∀ c ∈ conditionParts settings q.conditions, Good c :=
    fun c hc => h c (Query.mem_parts_of_conditionParts hc)
  cases r with
  | select q => exact H.select good
  | existence q => exact H.existence good
  | insert q batch =>
    rw [Request.parts, List.forall_mem_append] at good
    exact Agree.checked (H.insertWith (htable good.1) good.2 (by decide))
  | insertOrIgnore q batch =>
    rw [Request.parts, List.forall_mem_append] at good
    exact Agree.checked (H.insertWith (htable good.1) good.2 (by decide))
  | create q fields =>
    rw [Request.parts, List.forall_mem_append] at good
    exact H.create (htable good.1) good.2
  | update q fields =>
    rw [Request.parts, List.forall_mem_append] at good
    exact H.update (htable good.1) (hconditions good.1) good.2
  | upsert q batch uniqueBy onConflict =>
    rw [Request.parts, List.forall_mem_append, List.forall_mem_append] at good
    exact H.upsert uniqueBy (htable good.1.1) good.1.2 good.2
  | delete q => exact H.delete (htable good) (hconditions good)
  | relate q edge target fields =>
    simp only [Request.parts, List.forall_mem_append, List.forall_mem_cons] at good
    exact H.relate (htable good.1) good.2.1 good.2.2.1 good.2.2.2

end Respects

end SurrealQuery
