import SurrealQuery.Proofs.Insertion

/-!
# Inserting what may be there already

Two statements go beyond an insertion: one updates the records that are there already, the other
skips them. Both are an insertion with a part of their own, and fail where the insertion does
(`insert_variants`). An upsert has checks of its own, which come first.
-/

namespace SurrealQuery

/-! ## Replacing a word -/

/-- Replaces a text where it comes first in another one. -/
def Text.replaceFirst (old new : List Char) : List Char → List Char
  | [] => if old = [] then new else []
  | c :: cs =>
    if old <+: c :: cs then new ++ (c :: cs).drop old.length else c :: replaceFirst old new cs

/-- What a text starts with does not come earlier in it. -/
theorem Text.replaceFirst_append (old new rest : List Char) :
    replaceFirst old new (old ++ rest) = new ++ rest := by
  cases hcs : old ++ rest with
  | nil =>
    obtain ⟨rfl, rfl⟩ := List.append_eq_nil_iff.1 hcs
    simp [replaceFirst]
  | cons c cs =>
    have hprefix : old <+: c :: cs := hcs ▸ List.prefix_append old rest
    rw [replaceFirst, if_pos hprefix, ← hcs, List.drop_left]

/-- Replaces the first place of a text in a template. -/
def Template.replaceFirst (old new : String) (t : Template) : Template :=
  { t with text := String.ofList (Text.replaceFirst old.toList new.toList t.text.toList) }

theorem Template.replaceFirst_append (old new rest : String) (bindings : List Binding) :
    replaceFirst old new ⟨old ++ rest, bindings⟩ = ⟨new ++ rest, bindings⟩ := by
  unfold replaceFirst
  dsimp only
  rw [String.toList_append, Text.replaceFirst_append, String.ofList_append, String.ofList_toList,
    String.ofList_toList]

/-! ## Skipping records -/

/-- The insertion that skips the records which are there already. Where no record is inserted,
there is nothing to skip. -/
def Statement.skipping (s : Statement) : Statement :=
  if s.verb = .insert then ⟨.insert, s.template.replaceFirst "INSERT" "INSERT IGNORE"⟩ else s

/-- An insertion starts with its keyword and goes on in the same way whatever the keyword is. -/
theorem Clause.insertion_keyword (keyword table : String) (batch : Batch) :
    Clause.insertion keyword table batch =
      (Clause.insertion "" table batch).map (.raw keyword ++ ·) := by
  rw [Clause.insertion_eq, Clause.insertion_eq]
  cases Clause.rows batch.fields 1 batch.records with
  | error e => rfl
  | ok rows =>
    refine congrArg Except.ok ?_
    show Template.mk _ _ = Template.mk _ _
    simp [String.append_assoc]

variable {settings : Settings} {q : Query} {batch : Batch}

theorem Clause.insertion_skipping (table : String) (batch : Batch) :
    Agree (fun t u => u = t.replaceFirst "INSERT" "INSERT IGNORE")
      (Clause.insertion "INSERT" table batch) (Clause.insertion "INSERT IGNORE" table batch) := by
  rw [Clause.insertion_keyword "INSERT IGNORE", Clause.insertion_keyword "INSERT"]
  cases Clause.insertion "" table batch with
  | error e => exact .error e
  | ok t =>
    refine .ok ?_
    exact (Template.replaceFirst_append "INSERT" "INSERT IGNORE" t.text t.bindings).symm

theorem Statement.insertOrIgnore_eq_map (settings : Settings) (q : Query) (batch : Batch) :
    Statement.insertOrIgnore settings q batch =
      (Statement.insert settings q batch).map Statement.skipping := by
  apply Agree.eq_map
  refine .bind_same _ fun _ _ => .bind_same _ fun table _ => ?_
  split
  · exact .pure rfl
  · refine (Clause.insertion_skipping table batch).bind fun t u htu => .pure ?_
    rw [htu]
    rfl

/-- What is inserted starts with the keyword. -/
theorem Statement.exists_text_insert {s : Statement}
    (h : Statement.insert settings q batch = .ok s) (hverb : s.verb = .insert) :
    ∃ rest, s.template.text = "INSERT" ++ rest := by
  obtain ⟨-, -, h⟩ := bind_eq_ok.1 h
  obtain ⟨table, -, h⟩ := bind_eq_ok.1 h
  split at h
  · cases h
    cases hverb
  · obtain ⟨t, ht, h⟩ := bind_eq_ok.1 h
    cases h
    rw [Clause.insertion_keyword] at ht
    cases hrest : Clause.insertion "" table batch with
    | error e =>
      rw [hrest] at ht
      cases ht
    | ok rest =>
      rw [hrest] at ht
      cases ht
      exact ⟨rest.text, rfl⟩

theorem Statement.skipping_of_text {s : Statement} (hverb : s.verb = .insert) {rest : String}
    (h : s.template.text = "INSERT" ++ rest) :
    s.skipping = ⟨.insert, ⟨"INSERT IGNORE" ++ rest, s.template.bindings⟩⟩ := by
  obtain ⟨verb, text, bindings⟩ := s
  dsimp only at hverb h
  unfold Statement.skipping
  rw [if_pos hverb, h, Template.replaceFirst_append]

/-! ## Updating records -/

/-- An update is given as a map with some field in it. -/
def OnConflict.SetsFields : OnConflict → Prop
  | .columns _ => False
  | .set fields => fields.keys ≠ []

instance : DecidablePred OnConflict.SetsFields
  | .columns _ => inferInstanceAs (Decidable False)
  | .set fields => inferInstanceAs (Decidable (fields.keys ≠ []))

/-- Some record of a batch has a field. -/
def Batch.HasFields (b : Batch) : Prop :=
  ∃ r ∈ b.records, r.keys ≠ []

instance (b : Batch) : Decidable b.HasFields :=
  inferInstanceAs (Decidable (∃ r ∈ b.records, r.keys ≠ []))

/-- The insertion that updates the records which are there already. -/
def Statement.updating (fields : Fields) (s : Statement) : Statement :=
  ⟨s.verb, s.template ++ .raw " ON DUPLICATE KEY UPDATE " ++ Clause.assignments fields⟩

theorem Clause.text_assignments (f : Fields) :
    (Clause.assignments f).text = Text.commaList (f.entries.map fun (key, operand) =>
      Identifier.column key ++ " = " ++ operand.template.text) := by
  unfold Clause.assignments
  rw [Template.text_join_comma, List.map_map]
  rfl

theorem Clause.bindings_assignments (f : Fields) :
    (Clause.assignments f).bindings = f.operands.flatMap (·.template.bindings) := by
  unfold Clause.assignments Fields.operands
  rw [Template.bindings_join, List.flatMap_map, List.flatMap_map]
  rfl

theorem Fields.isEmpty_eq_false_iff {f : Fields} : f.isEmpty = false ↔ f.keys ≠ [] := by
  unfold Fields.isEmpty Fields.keys
  simp

theorem Statement.insert_of_hasFields (h : batch.HasFields) :
    Statement.insert settings q batch = (do
      q.check
      let table ← settings.table q.target
      return ⟨.insert, ← Clause.insertion "INSERT" table batch⟩) := by
  unfold Statement.insert Statement.insertWith
  rw [Batch.isEmpty_eq_false_iff.2 h]
  rfl

theorem Statement.verb_insert (h : batch.HasFields) {s : Statement}
    (hs : Statement.insert settings q batch = .ok s) : s.verb = .insert := by
  rw [Statement.insert_of_hasFields h] at hs
  obtain ⟨-, -, hs⟩ := bind_eq_ok.1 hs
  obtain ⟨table, -, hs⟩ := bind_eq_ok.1 hs
  obtain ⟨t, -, hs⟩ := bind_eq_ok.1 hs
  cases hs
  rfl

/-- Once its own checks are passed, an upsert is the insertion with its update. -/
theorem Statement.upsert_eq_map {fields : Fields} (hfields : fields.keys ≠ [])
    (hbatch : batch.HasFields) :
    Statement.upsert settings q batch ["id"] (.set fields) =
      (Statement.insert settings q batch).map (Statement.updating fields) := by
  have hfault : Statement.upsertFault? batch ["id"] (.set fields) = none :=
    Statement.upsertFault?_eq_none.2 ⟨rfl, fields, rfl, Fields.isEmpty_eq_false_iff.2 hfields,
      Batch.isEmpty_eq_false_iff.2 hbatch⟩
  rw [Statement.upsert_of_no_fault hfault, Statement.insert_of_hasFields hbatch]
  apply Agree.eq_map
  refine .bind_same _ fun _ _ => .bind_same _ fun table _ => .bind_same _ fun t _ => ?_
  exact .pure rfl

section Faults

variable {uniqueBy : List String} {onConflict : OnConflict}

theorem Statement.upsert_of_keys (h : uniqueBy ≠ ["id"]) :
    Statement.upsert settings q batch uniqueBy onConflict = .error (.upsertKeys uniqueBy) :=
  Statement.upsert_of_fault (if_pos h) settings q

theorem Statement.upsert_of_not_setsFields (h : ¬onConflict.SetsFields) :
    Statement.upsert settings q batch ["id"] onConflict = .error .upsertUpdate := by
  refine Statement.upsert_of_fault ?_ settings q
  cases onConflict with
  | columns names => rfl
  | set fields =>
    have hempty : fields.isEmpty = true := by
      rw [← Bool.not_eq_false, Fields.isEmpty_eq_false_iff]
      exact h
    simp [Statement.upsertFault?, hempty]

theorem Statement.upsert_of_not_hasFields (hset : onConflict.SetsFields) (h : ¬batch.HasFields) :
    Statement.upsert settings q batch ["id"] onConflict = .error .upsertRecords := by
  refine Statement.upsert_of_fault ?_ settings q
  cases onConflict with
  | columns names => cases hset
  | set fields =>
    have hfields : fields.isEmpty = false := Fields.isEmpty_eq_false_iff.2 hset
    have hbatch : batch.isEmpty = true := by
      rw [← Bool.not_eq_false, Batch.isEmpty_eq_false_iff]
      exact h
    simp [Statement.upsertFault?, hfields, hbatch]

/-- An upsert is refused for the first reason that applies: its keys, its update, its records, or
what is wrong with the insertion. -/
theorem Statement.upsert_eq_error_iff {e : CompileError} :
    Statement.upsert settings q batch uniqueBy onConflict = .error e ↔
      uniqueBy ≠ ["id"] ∧ e = .upsertKeys uniqueBy ∨
      uniqueBy = ["id"] ∧ ¬onConflict.SetsFields ∧ e = .upsertUpdate ∨
      uniqueBy = ["id"] ∧ onConflict.SetsFields ∧ ¬batch.HasFields ∧ e = .upsertRecords ∨
      uniqueBy = ["id"] ∧ onConflict.SetsFields ∧ batch.HasFields ∧
        Statement.insert settings q batch = .error e := by
  by_cases hkeys : uniqueBy = ["id"]
  · subst hkeys
    by_cases hset : onConflict.SetsFields
    · by_cases hbatch : batch.HasFields
      · cases onConflict with
        | columns names => cases hset
        | set fields =>
          rw [Statement.upsert_eq_map hset hbatch]
          cases Statement.insert settings q batch <;> simp [Except.map, hset, hbatch]
      · rw [Statement.upsert_of_not_hasFields hset hbatch]
        simp [hset, hbatch, eq_comm]
    · rw [Statement.upsert_of_not_setsFields hset]
      simp [hset, eq_comm]
  · rw [Statement.upsert_of_keys hkeys]
    simp [hkeys, eq_comm]

/-- An upsert that is accepted is an insertion with its update. -/
theorem Statement.upsert_eq_ok_iff {s : Statement} :
    Statement.upsert settings q batch uniqueBy onConflict = .ok s ↔
      uniqueBy = ["id"] ∧ batch.HasFields ∧ ∃ fields inserted, onConflict = .set fields ∧
        fields.keys ≠ [] ∧ Statement.insert settings q batch = .ok inserted ∧
        inserted.updating fields = s := by
  constructor
  · intro h
    have hnoError (e : CompileError) :
        ¬Statement.upsert settings q batch uniqueBy onConflict = .error e := by
      rw [h]
      exact nofun
    obtain rfl : uniqueBy = ["id"] := by
      by_contra hkeys
      exact hnoError _ (Statement.upsert_of_keys hkeys)
    have hset : onConflict.SetsFields := by
      by_contra hset
      exact hnoError _ (Statement.upsert_of_not_setsFields hset)
    have hbatch : batch.HasFields := by
      by_contra hbatch
      exact hnoError _ (Statement.upsert_of_not_hasFields hset hbatch)
    cases onConflict with
    | columns names => cases hset
    | set fields =>
      rw [Statement.upsert_eq_map hset hbatch] at h
      cases hinsert : Statement.insert settings q batch with
      | error e =>
        rw [hinsert] at h
        cases h
      | ok inserted =>
        rw [hinsert] at h
        exact ⟨rfl, hbatch, fields, inserted, rfl, hset, rfl, Except.ok.inj h⟩
  · rintro ⟨rfl, hbatch, fields, inserted, rfl, hfields, hinsert, rfl⟩
    rw [Statement.upsert_eq_map hfields hbatch, hinsert]
    rfl

end Faults

/-- **Insertions with a part of their own.** An upsert is accepted exactly if its one key is the
record id, its update is a map with some field in it, some record has a field, and the insertion is
accepted. It is then the insertion, followed by the fields to update with their operands in order,
and so are its bindings. It is refused for the first of these four reasons that applies, whatever
else may be wrong. An insertion that skips records fails as the insertion does and is the same
statement, but that the keyword in front of an insertion is replaced. That is the first place of the
keyword, wherever else it may stand. -/
theorem insert_variants (settings : Settings) (q : Query) (batch : Batch) :
    (∀ (uniqueBy : List String) (onConflict : OnConflict),
      ((∃ s, Statement.upsert settings q batch uniqueBy onConflict = .ok s) ↔
        uniqueBy = ["id"] ∧ onConflict.SetsFields ∧ batch.HasFields ∧
          ∃ inserted, Statement.insert settings q batch = .ok inserted) ∧
      (∀ s, Statement.upsert settings q batch uniqueBy onConflict = .ok s →
        ∃ inserted fields, Statement.insert settings q batch = .ok inserted ∧
          onConflict = .set fields ∧ inserted.verb = .insert ∧ s.verb = .insert ∧
          s.template.text = inserted.template.text ++ " ON DUPLICATE KEY UPDATE " ++
            Text.commaList (fields.entries.map fun (key, operand) =>
              Identifier.column key ++ " = " ++ operand.template.text) ∧
          s.template.bindings = inserted.template.bindings ++
            fields.operands.flatMap (·.template.bindings)) ∧
      ∀ e, Statement.upsert settings q batch uniqueBy onConflict = .error e ↔
        uniqueBy ≠ ["id"] ∧ e = .upsertKeys uniqueBy ∨
        uniqueBy = ["id"] ∧ ¬onConflict.SetsFields ∧ e = .upsertUpdate ∨
        uniqueBy = ["id"] ∧ onConflict.SetsFields ∧ ¬batch.HasFields ∧ e = .upsertRecords ∨
        uniqueBy = ["id"] ∧ onConflict.SetsFields ∧ batch.HasFields ∧
          Statement.insert settings q batch = .error e) ∧
    Statement.insertOrIgnore settings q batch =
      (Statement.insert settings q batch).map Statement.skipping ∧
    ∀ s, Statement.insert settings q batch = .ok s →
      (s.verb = .insert → ∃ rest, s.template.text = "INSERT" ++ rest ∧
        s.skipping = ⟨.insert, ⟨"INSERT IGNORE" ++ rest, s.template.bindings⟩⟩) ∧
      (s.verb ≠ .insert → s.skipping = s) := by
  refine ⟨fun uniqueBy onConflict => ⟨⟨?_, ?_⟩, fun s hs => ?_, fun e => ?_⟩, ?_, fun s hs => ?_⟩
  · rintro ⟨s, hs⟩
    obtain ⟨hkeys, hbatch, fields, inserted, rfl, hfields, hinsert, -⟩ :=
      Statement.upsert_eq_ok_iff.1 hs
    exact ⟨hkeys, hfields, hbatch, inserted, hinsert⟩
  · rintro ⟨hkeys, hset, hbatch, inserted, hinsert⟩
    cases onConflict with
    | columns names => cases hset
    | set fields =>
      exact ⟨_, Statement.upsert_eq_ok_iff.2
        ⟨hkeys, hbatch, fields, inserted, rfl, hset, hinsert, rfl⟩⟩
  · obtain ⟨-, hbatch, fields, inserted, hset, -, hinsert, rfl⟩ := Statement.upsert_eq_ok_iff.1 hs
    have hverb := Statement.verb_insert hbatch hinsert
    refine ⟨inserted, fields, hinsert, hset, hverb, hverb, ?_, ?_⟩
    · rw [← Clause.text_assignments]
      rfl
    · rw [← Clause.bindings_assignments, Statement.updating, Template.bindings_append,
        Template.bindings_append, Template.bindings_raw, List.append_nil]
  · exact Statement.upsert_eq_error_iff
  · exact Statement.insertOrIgnore_eq_map settings q batch
  · refine ⟨fun hverb => ?_, fun hverb => if_neg hverb⟩
    obtain ⟨rest, hrest⟩ := Statement.exists_text_insert hs hverb
    exact ⟨rest, hrest, Statement.skipping_of_text hverb hrest⟩

/-- A table with the keyword of an insertion in its name, which may be locked. -/
def insertLog (lock : Option LockMode) : Query :=
  { target := "INSERT log", lock }

/-- A record with the keyword in a name and in an expression. -/
def insertEntry : Fields where
  entries := [("INSERT", .raw "fn::INSERT()"), ("n", .literal (.int 1))]

/-- What comes after the keyword when the record is inserted. -/
def insertEntryText : String :=
  " INTO `INSERT log` (`INSERT`, `n`) VALUES (fn::INSERT(), $?)"

theorem insert_variants_keyword :
    let update : OnConflict := .set { entries := [("n", .literal (.int 2))] }
    Statement.insert {} (insertLog none) ⟨[insertEntry]⟩ =
        .ok ⟨.insert, ⟨"INSERT" ++ insertEntryText, [⟨.int 1, .query⟩]⟩⟩ ∧
      Statement.insertOrIgnore {} (insertLog none) ⟨[insertEntry]⟩ =
        .ok ⟨.insert, ⟨"INSERT IGNORE" ++ insertEntryText, [⟨.int 1, .query⟩]⟩⟩ ∧
      (∃ s, Statement.upsert {} (insertLog none) ⟨[insertEntry]⟩ ["id"] update = .ok s) ∧
      Statement.upsert {} (insertLog (some .update)) ⟨[insertEntry]⟩ ["id"] update =
        .error (.unsupported .lock) ∧
      Statement.upsert {} (insertLog (some .update)) ⟨[insertEntry]⟩ ["id", "n"] update =
        .error (.upsertKeys ["id", "n"]) := by
  intro update
  have hinsert : Statement.insert {} (insertLog none) ⟨[insertEntry]⟩ =
      .ok ⟨.insert, ⟨"INSERT" ++ insertEntryText, [⟨.int 1, .query⟩]⟩⟩ := rfl
  obtain ⟨hupsert, hignore, hskipping⟩ := insert_variants {} (insertLog none) ⟨[insertEntry]⟩
  obtain ⟨hlocked, -⟩ := insert_variants {} (insertLog (some .update)) ⟨[insertEntry]⟩
  refine ⟨hinsert, ?_, ?_, ?_, ?_⟩
  · obtain ⟨rest, htext, hskipped⟩ := (hskipping _ hinsert).1 rfl
    obtain rfl : insertEntryText = rest := (String.append_right_inj _).1 htext
    rw [hignore, hinsert, Except.map, hskipped]
  · exact (hupsert ["id"] update).1.2 ⟨rfl, by decide, by decide, _, hinsert⟩
  · refine ((hlocked ["id"] update).2.2 _).2 (.inr (.inr (.inr ?_)))
    exact ⟨rfl, by decide, by decide, rfl⟩
  · exact ((hlocked ["id", "n"] update).2.2 _).2 (.inl ⟨by decide, rfl⟩)

end SurrealQuery
