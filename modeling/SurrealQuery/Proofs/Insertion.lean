import Mathlib.Data.List.Nodup
import Mathlib.Data.List.Perm.Subperm
import SurrealQuery.Proofs.Congruence.Statement
import SurrealQuery.Proofs.References

/-!
# Inserting records

The records of a batch go under the fields of the first one. A record fits if it has the same
fields, in whatever order, since no record has a field twice (`Fields.project?_eq_some_iff`). A batch
is inserted if all its records fit, and else the first that does not is named (`insert_batch`).
-/

namespace SurrealQuery

/-! ## Records under given fields -/

/-- A record has these fields and no others, in whatever order. -/
def Fields.HasKeys (f : Fields) (fields : List String) : Prop :=
  ∀ key, key ∈ f.keys ↔ key ∈ fields

instance (f : Fields) (fields : List String) : Decidable (f.HasKeys fields) :=
  decidable_of_iff ((∀ key ∈ f.keys, key ∈ fields) ∧ ∀ key ∈ fields, key ∈ f.keys)
    ⟨fun h key => ⟨h.1 key, h.2 key⟩, fun h => ⟨fun key => (h key).1, fun key => (h key).2⟩⟩

/-- What a record has under given fields, one operand for each. -/
def Fields.Slots (f : Fields) (fields : List String) (slots : List Operand) : Prop :=
  List.Forall₂ (fun key o => f.get? key = some o) fields slots

/-- A record that has the given fields, with its operands in their order. -/
def Fields.Fits (fields : List String) (f : Fields) (slots : List Operand) : Prop :=
  f.HasKeys fields ∧ f.Slots fields slots

variable {f g : Fields} {fields : List String}

theorem Fields.isSome_get? {key : String} : (f.get? key).isSome ↔ key ∈ f.keys := by
  unfold Fields.get? Fields.keys
  induction f.entries with
  | nil => simp
  | cons entry rest ih =>
    obtain ⟨k, o⟩ := entry
    by_cases h : key = k
    · simp [h]
    · simp [List.lookup_cons, beq_eq_false_iff_ne.2 h, h, ih]

theorem Fields.get?_eq_some_iff {key : String} {o : Operand} :
    f.get? key = some o ↔ (key, o) ∈ f.entries := by
  refine ⟨Fields.mem_entries_of_get?, fun hmem => ?_⟩
  have hkey : key ∈ f.keys := List.mem_map_of_mem (f := Prod.fst) hmem
  obtain ⟨o', ho'⟩ := Option.isSome_iff_exists.1 (Fields.isSome_get?.2 hkey)
  have hsame : (key, o') = (key, o) :=
    List.inj_on_of_nodup_map f.nodup (Fields.mem_entries_of_get? ho') hmem rfl
  cases hsame
  exact ho'

theorem Fields.Slots.mem_keys {slots : List Operand} (h : f.Slots fields slots) :
    ∀ key ∈ fields, key ∈ f.keys := by
  induction h with
  | nil => simp
  | cons ho _ ih =>
    rw [List.forall_mem_cons]
    refine ⟨Fields.isSome_get?.1 ?_, ih⟩
    rw [ho]
    rfl

theorem Fields.Slots.mapM {slots : List Operand} (h : f.Slots fields slots) :
    fields.mapM f.get? = some slots := by
  induction h with
  | nil => rfl
  | cons ho _ ih =>
    rw [List.mapM_cons, ho, ih]
    rfl

theorem Fields.exists_slots (h : ∀ key ∈ fields, key ∈ f.keys) : ∃ slots, f.Slots fields slots := by
  induction fields with
  | nil => exact ⟨[], .nil⟩
  | cons key rest ih =>
    obtain ⟨o, ho⟩ := Option.isSome_iff_exists.1 (Fields.isSome_get?.2 (h key (by simp)))
    obtain ⟨slots, hslots⟩ := ih fun key' hkey' => h key' (List.mem_cons_of_mem _ hkey')
    exact ⟨o :: slots, .cons ho hslots⟩

theorem Fields.HasKeys.exists_fits (h : f.HasKeys fields) : ∃ slots, f.Fits fields slots := by
  obtain ⟨slots, hslots⟩ := Fields.exists_slots fun key hkey => (h key).2 hkey
  exact ⟨slots, h, hslots⟩

/-- A record is put under fields exactly if these are its fields. Looking up every field and
comparing lengths is enough, as neither side has a field twice. -/
theorem Fields.project?_eq_some_iff (hfields : fields.Nodup) {slots : List Operand} :
    f.project? fields = some slots ↔ f.Fits fields slots := by
  have hkeys : f.keys.length = f.entries.length := List.length_map ..
  constructor
  · intro h
    have hslots : f.Slots fields slots := Fields.forall₂_of_project? h
    unfold Fields.project? at h
    rw [hslots.mapM] at h
    have hlength : slots.length = f.entries.length := by simpa using h
    have hsub : fields.Subperm f.keys := List.subperm_of_subset hfields hslots.mem_keys
    have hperm : fields.Perm f.keys := hsub.perm_of_length_le (Nat.le_of_eq (by
      rw [hkeys, ← hlength, hslots.length_eq]))
    exact ⟨fun key => hperm.symm.mem_iff, hslots⟩
  · rintro ⟨hsame, hslots⟩
    have hperm : f.keys.Perm fields := (List.perm_ext_iff_of_nodup f.nodup hfields).2 hsame
    have hlength : slots.length = f.entries.length := by
      rw [← hslots.length_eq, ← hkeys, hperm.length_eq]
    unfold Fields.project?
    rw [hslots.mapM]
    simp [hlength]

theorem Fields.project?_eq_none (hfields : fields.Nodup) (h : ¬ f.HasKeys fields) :
    f.project? fields = none := by
  rw [Option.eq_none_iff_forall_not_mem]
  intro slots hproject
  exact h ((Fields.project?_eq_some_iff hfields).1 hproject).1

/-- The order of its entries does not matter to what a record has under given fields. -/
theorem Fields.Fits.of_perm {slots : List Operand} (h : f.Fits fields slots)
    (hperm : f.entries.Perm g.entries) : g.Fits fields slots := by
  have hget (key : String) : f.get? key = g.get? key := by
    refine Option.ext fun o => ?_
    rw [Fields.get?_eq_some_iff, Fields.get?_eq_some_iff, hperm.mem_iff]
  constructor
  · intro key
    rw [← h.1 key]
    exact (hperm.map Prod.fst).symm.mem_iff
  · refine List.Forall₂.imp (fun key o ho => ?_) h.2
    rw [← hget key]
    exact ho

/-! ## The rows of a batch -/

/-- The row of a record: its operands between parentheses. -/
def Clause.row (slots : List Operand) : Template :=
  .wrap "(" (Clause.operands slots) ")"

theorem Clause.rows_cons_of_fits (hfields : fields.Nodup) (number : Nat)
    {slots : List Operand} (h : f.Fits fields slots) (rest : List Fields) :
    Clause.rows fields number (f :: rest) =
      (Clause.rows fields (number + 1) rest).map (Clause.row slots :: ·) := by
  rw [Clause.rows, (Fields.project?_eq_some_iff hfields).2 h]
  cases Clause.rows fields (number + 1) rest <;> rfl

/-- Records that all fit give a row each. -/
theorem Clause.rows_of_fits (hfields : fields.Nodup) (number : Nat) {records : List Fields}
    {slots : List (List Operand)} (h : List.Forall₂ (Fields.Fits fields) records slots) :
    Clause.rows fields number records = .ok (slots.map Clause.row) := by
  induction h generalizing number with
  | nil => rfl
  | cons hrecord _ ih =>
    rw [Clause.rows_cons_of_fits hfields number hrecord, ih (number + 1)]
    rfl

/-- The first record with other fields is named, counted on from `number`. -/
theorem Clause.rows_of_first_differing (hfields : fields.Nodup) (number : Nat)
    {before : List Fields} {record : Fields} (hbefore : ∀ r ∈ before, r.HasKeys fields)
    (hrecord : ¬ record.HasKeys fields) (after : List Fields) :
    Clause.rows fields number (before ++ record :: after) =
      .error (.recordFields (number + before.length) record.keys fields) := by
  induction before generalizing number with
  | nil =>
    rw [List.nil_append, Clause.rows, Fields.project?_eq_none hfields hrecord]
    rfl
  | cons first rest ih =>
    rw [List.forall_mem_cons] at hbefore
    obtain ⟨slots, hfits⟩ := hbefore.1.exists_fits
    rw [List.cons_append, Clause.rows_cons_of_fits hfields number hfits,
      ih (number + 1) hbefore.2, List.length_cons, Nat.add_assoc, Nat.add_comm 1]
    rfl

theorem Fields.exists_forall₂_fits {records : List Fields} (h : ∀ r ∈ records, r.HasKeys fields) :
    ∃ slots, List.Forall₂ (Fields.Fits fields) records slots := by
  induction records with
  | nil => exact ⟨[], .nil⟩
  | cons record rest ih =>
    rw [List.forall_mem_cons] at h
    obtain ⟨slots, hfits⟩ := h.1.exists_fits
    obtain ⟨others, hothers⟩ := ih h.2
    exact ⟨slots :: others, .cons hfits hothers⟩

theorem Fields.exists_first_differing {records : List Fields}
    (h : ¬ ∀ r ∈ records, r.HasKeys fields) :
    ∃ before record after, records = before ++ record :: after ∧
      (∀ r ∈ before, r.HasKeys fields) ∧ ¬ record.HasKeys fields := by
  classical
  cases hfind : records.find? (¬ Fields.HasKeys · fields) with
  | none => exact absurd (by simpa using hfind) h
  | some record =>
    obtain ⟨hrecord, before, after, hsplit, hbefore⟩ := List.find?_eq_some_iff_append.1 hfind
    exact ⟨before, record, after, hsplit, by simpa using hbefore, by simpa using hrecord⟩

/-- The rows are built exactly if every record fits. -/
theorem Clause.rows_eq_ok_iff (hfields : fields.Nodup) (number : Nat) {records : List Fields}
    {rows : List Template} :
    Clause.rows fields number records = .ok rows ↔
      ∃ slots, List.Forall₂ (Fields.Fits fields) records slots ∧ rows = slots.map Clause.row := by
  constructor
  · intro hrows
    by_cases hkeys : ∀ r ∈ records, r.HasKeys fields
    · obtain ⟨slots, hfits⟩ := Fields.exists_forall₂_fits hkeys
      rw [Clause.rows_of_fits hfields number hfits] at hrows
      exact ⟨slots, hfits, (Except.ok.inj hrows).symm⟩
    · obtain ⟨before, record, after, rfl, hbefore, hrecord⟩ := Fields.exists_first_differing hkeys
      rw [Clause.rows_of_first_differing hfields number hbefore hrecord] at hrows
      cases hrows
  · rintro ⟨slots, hfits, rfl⟩
    exact Clause.rows_of_fits hfields number hfits

/-! ## Texts and bindings of lists -/

theorem Template.text_joinTail_comma (ts : List Template) :
    (Template.joinTail ", " ts).text = Text.commaTail (ts.map Template.text) := by
  induction ts with
  | nil => rfl
  | cons t rest ih =>
    rw [Template.joinTail, Template.text_append, ih]
    rfl

theorem Template.text_join_comma (ts : List Template) :
    (Template.join ", " ts).text = Text.commaList (ts.map Template.text) := by
  cases ts with
  | nil => rfl
  | cons t rest =>
    rw [Template.join, Template.text_append, Template.text_joinTail_comma]
    rfl

theorem Template.bindings_joinTail (separator : String) (ts : List Template) :
    (Template.joinTail separator ts).bindings = ts.flatMap Template.bindings := by
  induction ts with
  | nil => rfl
  | cons t rest ih =>
    rw [Template.joinTail, Template.bindings_append, ih]
    rfl

theorem Template.bindings_join (separator : String) (ts : List Template) :
    (Template.join separator ts).bindings = ts.flatMap Template.bindings := by
  cases ts with
  | nil => rfl
  | cons t rest =>
    rw [Template.join, Template.bindings_append, Template.bindings_joinTail]
    rfl

/-! ## Insertion -/

theorem Batch.nodup_fields (b : Batch) : b.fields.Nodup := by
  unfold Batch.fields
  cases b.records.head? with
  | none => exact List.nodup_nil
  | some first => exact first.nodup

theorem Batch.isEmpty_iff {b : Batch} : b.isEmpty ↔ ∀ r ∈ b.records, r.keys = [] := by
  unfold Batch.isEmpty Fields.isEmpty Fields.keys
  simp

theorem Batch.isEmpty_eq_false_iff {b : Batch} :
    b.isEmpty = false ↔ ∃ r ∈ b.records, r.keys ≠ [] := by
  rw [← Bool.not_eq_true, Batch.isEmpty_iff]
  simp

/-- The insertion of rows under fields. -/
def Clause.insertionOf (keyword table : String) (fields : List String)
    (slots : List (List Operand)) : Template :=
  .raw (keyword ++ " INTO " ++ table ++ " (" ++
    Text.commaList (fields.map Identifier.column) ++ ") VALUES ") ++
    .join ", " (slots.map Clause.row)

theorem Clause.text_insertionOf (keyword table : String) (fields : List String)
    (slots : List (List Operand)) :
    (Clause.insertionOf keyword table fields slots).text =
      keyword ++ " INTO " ++ table ++ " (" ++ Text.commaList (fields.map Identifier.column) ++
        ") VALUES " ++ Text.commaList (slots.map fun row =>
          "(" ++ Text.commaList (row.map (·.template.text)) ++ ")") := by
  have hrow (row : List Operand) :
      (Clause.row row).text = "(" ++ Text.commaList (row.map (·.template.text)) ++ ")" := by
    unfold Clause.row Clause.operands
    rw [Template.text_wrap, Template.text_join_comma, List.map_map]
    rfl
  unfold Clause.insertionOf
  rw [Template.text_append, Template.text_join_comma, List.map_map]
  simp only [Function.comp_def, hrow, Template.text_raw]

/-- The bindings row by row, and within a row field by field. -/
theorem Clause.bindings_insertionOf (keyword table : String) (fields : List String)
    (slots : List (List Operand)) :
    (Clause.insertionOf keyword table fields slots).bindings =
      slots.flatMap fun row => row.flatMap (·.template.bindings) := by
  have hrow (row : List Operand) :
      (Clause.row row).bindings = row.flatMap (·.template.bindings) := by
    unfold Clause.row Clause.operands
    rw [Template.bindings_wrap, Template.bindings_join, List.flatMap_map]
  unfold Clause.insertionOf
  rw [Template.bindings_append, Template.bindings_join, Template.bindings_raw, List.nil_append,
    List.flatMap_map]
  simp only [hrow]

variable {keyword table : String} {batch batch' : Batch}

theorem Clause.insertion_eq_ok_iff {t : Template} :
    Clause.insertion keyword table batch = .ok t ↔
      ∃ slots, List.Forall₂ (Fields.Fits batch.fields) batch.records slots ∧
        t = Clause.insertionOf keyword table batch.fields slots := by
  rw [Clause.insertion_eq, bind_eq_ok]
  simp only [Clause.rows_eq_ok_iff batch.nodup_fields]
  constructor
  · rintro ⟨rows, ⟨slots, hfits, rfl⟩, ht⟩
    exact ⟨slots, hfits, (Except.ok.inj ht).symm⟩
  · rintro ⟨slots, hfits, rfl⟩
    exact ⟨_, ⟨slots, hfits, rfl⟩, rfl⟩

theorem Clause.insertion_of_first_differing (keyword table : String)
    {before after : List Fields} {record : Fields}
    (hsplit : batch.records = before ++ record :: after)
    (hbefore : ∀ r ∈ before, r.HasKeys batch.fields) (hrecord : ¬ record.HasKeys batch.fields) :
    Clause.insertion keyword table batch =
      .error (.recordFields (before.length + 1) record.keys batch.fields) := by
  rw [Clause.insertion_eq, hsplit,
    Clause.rows_of_first_differing batch.nodup_fields 1 hbefore hrecord, Nat.add_comm]
  rfl

/-- A batch is inserted exactly if all its records have the same fields. -/
theorem Clause.exists_insertion_iff (keyword table : String) :
    (∃ t, Clause.insertion keyword table batch = .ok t) ↔
      ∀ r ∈ batch.records, r.HasKeys batch.fields := by
  constructor
  · rintro ⟨t, ht⟩
    by_contra hkeys
    obtain ⟨before, record, after, hsplit, hbefore, hrecord⟩ :=
      Fields.exists_first_differing hkeys
    rw [Clause.insertion_of_first_differing keyword table hsplit hbefore hrecord] at ht
    cases ht
  · intro hkeys
    obtain ⟨slots, hfits⟩ := Fields.exists_forall₂_fits hkeys
    exact ⟨_, Clause.insertion_eq_ok_iff.2 ⟨slots, hfits, rfl⟩⟩

/-- Batches with the same first record and the same fields in every record, in whatever order. -/
def Batch.Reordered (b b' : Batch) : Prop :=
  b.records.head? = b'.records.head? ∧
    List.Forall₂ (fun r r' => r.entries.Perm r'.entries) b.records b'.records

theorem Batch.Reordered.symm (h : batch.Reordered batch') : batch'.Reordered batch :=
  ⟨h.1.symm, h.2.flip.imp fun _ _ hperm => hperm.symm⟩

theorem Batch.Reordered.isEmpty (h : batch.Reordered batch') : batch'.isEmpty = batch.isEmpty := by
  obtain ⟨records⟩ := batch
  obtain ⟨records'⟩ := batch'
  obtain ⟨-, hperm⟩ := h
  unfold Batch.isEmpty
  dsimp only at hperm ⊢
  induction hperm with
  | nil => rfl
  | cons hrecord _ ih =>
    rw [List.all_cons, List.all_cons, ih, Fields.isEmpty, Fields.isEmpty, hrecord.isEmpty_eq]

theorem Fields.forall₂_fits_of_perm {records records' : List Fields}
    (hperm : List.Forall₂ (fun r r' => r.entries.Perm r'.entries) records records')
    {slots : List (List Operand)} (h : List.Forall₂ (Fields.Fits fields) records slots) :
    List.Forall₂ (Fields.Fits fields) records' slots := by
  induction hperm generalizing slots with
  | nil => exact h
  | cons hrecord _ ih =>
    cases h with
    | cons hfits hrest => exact .cons (hfits.of_perm hrecord) (ih hrest)

theorem Clause.insertion_of_reordered (hbatch : batch.Reordered batch') {t : Template}
    (h : Clause.insertion keyword table batch = .ok t) :
    Clause.insertion keyword table batch' = .ok t := by
  have hfields : batch.fields = batch'.fields := by
    unfold Batch.fields
    rw [hbatch.1]
  rw [Clause.insertion_eq_ok_iff, hfields] at h
  obtain ⟨slots, hfits, rfl⟩ := h
  exact Clause.insertion_eq_ok_iff.2 ⟨slots, Fields.forall₂_fits_of_perm hbatch.2 hfits, rfl⟩

/-! ## The statement -/

section Statement

variable {settings : Settings} {q : Query}

theorem Statement.insert_of_isEmpty (hcheck : q.check = .ok ())
    (htable : settings.table q.target = .ok table) (hbatch : batch.isEmpty) :
    Statement.insert settings q batch = .ok ⟨.create, .raw ("CREATE " ++ table)⟩ := by
  unfold Statement.insert Statement.insertWith
  rw [hcheck, htable, hbatch]
  rfl

theorem Statement.insert_of_not_isEmpty (hcheck : q.check = .ok ())
    (htable : settings.table q.target = .ok table) (hbatch : batch.isEmpty = false) :
    Statement.insert settings q batch =
      Clause.insertion "INSERT" table batch >>= fun t => pure ⟨.insert, t⟩ := by
  unfold Statement.insert Statement.insertWith
  rw [hcheck, htable, hbatch]
  rfl

theorem Statement.insert_eq_ok_iff (hcheck : q.check = .ok ())
    (htable : settings.table q.target = .ok table) (hbatch : batch.isEmpty = false)
    {s : Statement} : Statement.insert settings q batch = .ok s ↔
      ∃ t, Clause.insertion "INSERT" table batch = .ok t ∧ ⟨.insert, t⟩ = s := by
  rw [Statement.insert_of_not_isEmpty hcheck htable hbatch, bind_eq_ok]
  exact exists_congr fun t => and_congr_right fun _ => ⟨Except.ok.inj, congrArg Except.ok⟩

theorem exists_table (settings : Settings) {reference : String} (h : IsReference reference) :
    ∃ table, settings.table reference = .ok table := by
  rw [← failure?_eq_none, failure?_table, malformed?_eq_none]
  simpa using h

end Statement

/-- **Records go under their own fields.** Let a query pass the check and have a well-formed
reference. If no record has a field, one record is created. Otherwise a batch is inserted exactly if
every record has the fields of the first one, in whatever order: these fields are named, and each
record follows with its operands under them, and so do the bindings. The order of the entries
matters in the first record alone. Of the records with other fields the first one is named. -/
theorem insert_batch (settings : Settings) (q : Query) (batch : Batch) (hcheck : q.check = .ok ())
    (htarget : IsReference q.target) :
    ∃ table, settings.table q.target = .ok table ∧
      ((∀ r ∈ batch.records, r.keys = []) →
        Statement.insert settings q batch = .ok ⟨.create, ⟨"CREATE " ++ table, []⟩⟩) ∧
      ((∃ r ∈ batch.records, r.keys ≠ []) →
        ((∃ s, Statement.insert settings q batch = .ok s) ↔
          ∀ r ∈ batch.records, r.HasKeys batch.fields) ∧
        (∀ s, Statement.insert settings q batch = .ok s →
          ∃ slots, List.Forall₂ (Fields.Slots · batch.fields) batch.records slots ∧
            s.verb = .insert ∧
            s.template.text = "INSERT INTO " ++ table ++ " (" ++
              Text.commaList (batch.fields.map Identifier.column) ++ ") VALUES " ++
              Text.commaList (slots.map fun row =>
                "(" ++ Text.commaList (row.map (·.template.text)) ++ ")") ∧
            s.template.bindings = slots.flatMap fun row => row.flatMap (·.template.bindings)) ∧
        (∀ batch', batch.Reordered batch' → ∀ s,
          Statement.insert settings q batch = .ok s ↔ Statement.insert settings q batch' = .ok s) ∧
        ∀ before record after, batch.records = before ++ record :: after →
          (∀ r ∈ before, r.HasKeys batch.fields) → ¬ record.HasKeys batch.fields →
          Statement.insert settings q batch =
            .error (.recordFields (before.length + 1) record.keys batch.fields)) := by
  obtain ⟨table, htable⟩ := exists_table settings htarget
  refine ⟨table, htable, fun hempty => ?_, fun hnonempty => ?_⟩
  · exact Statement.insert_of_isEmpty hcheck htable (Batch.isEmpty_iff.2 hempty)
  have hbatch := Batch.isEmpty_eq_false_iff.2 hnonempty
  have hok {s : Statement} := Statement.insert_eq_ok_iff (s := s) hcheck htable hbatch
  refine ⟨?_, fun s hs => ?_, fun batch' hreordered s => ?_,
    fun before record after hsplit hbefore hrecord => ?_⟩
  · rw [← Clause.exists_insertion_iff "INSERT" table]
    constructor
    · rintro ⟨s, hs⟩
      obtain ⟨t, ht, -⟩ := hok.1 hs
      exact ⟨t, ht⟩
    · rintro ⟨t, ht⟩
      exact ⟨_, hok.2 ⟨t, ht, rfl⟩⟩
  · obtain ⟨t, ht, rfl⟩ := hok.1 hs
    obtain ⟨slots, hfits, rfl⟩ := Clause.insertion_eq_ok_iff.1 ht
    exact ⟨slots, hfits.imp fun _ _ h => h.2, rfl, Clause.text_insertionOf "INSERT" table _ slots,
      Clause.bindings_insertionOf "INSERT" table _ slots⟩
  · have hbatch' := hreordered.isEmpty.trans hbatch
    rw [hok, Statement.insert_eq_ok_iff hcheck htable hbatch']
    refine exists_congr fun t => and_congr_left fun _ => ?_
    exact ⟨Clause.insertion_of_reordered hreordered,
      Clause.insertion_of_reordered hreordered.symm⟩
  · rw [Statement.insert_of_not_isEmpty hcheck htable hbatch,
      Clause.insertion_of_first_differing _ _ hsplit hbefore hrecord]
    rfl

/-- A person with a name and an age. -/
def person (name age : Operand) : Fields where
  entries := [("name", name), ("age", age)]

/-- The same person, with the age first. -/
def personByAge (name age : Operand) : Fields where
  entries := [("age", age), ("name", name)]

theorem insert_batch_person :
    let users : Query := { target := "users" }
    let ann := person (.literal (.text "Ann")) (.literal (.int 30))
    let bob := person (.call ⟨"fn::name($?)", [.int 7]⟩) (.raw "29")
    let bob' := personByAge (.call ⟨"fn::name($?)", [.int 7]⟩) (.raw "29")
    let cy : Fields := { entries := [("name", .literal (.text "Cy"))] }
    (users.check = .ok () ∧ IsReference users.target) ∧
      (∃ s, Statement.insert ⟨"app_"⟩ users ⟨[ann, bob']⟩ = .ok s ∧
        Statement.insert ⟨"app_"⟩ users ⟨[ann, bob]⟩ = .ok s) ∧
      Statement.insert ⟨"app_"⟩ users ⟨[ann, bob', cy]⟩ =
        .error (.recordFields 3 ["name"] ["name", "age"]) ∧
      ∃ table, Statement.insert ⟨"app_"⟩ users ⟨[.empty, .empty]⟩ =
        .ok ⟨.create, ⟨"CREATE " ++ table, []⟩⟩ := by
  intro users ann bob bob' cy
  have hreference : IsReference users.target := by decide
  refine ⟨⟨rfl, hreference⟩, ?_, ?_, ?_⟩
  · obtain ⟨_, -, -, hpair⟩ := insert_batch ⟨"app_"⟩ users ⟨[ann, bob']⟩ rfl hreference
    obtain ⟨hiff, -, hreorder, -⟩ := hpair ⟨ann, by simp, by decide⟩
    obtain ⟨s, hs⟩ := hiff.2 (by decide)
    have hperm : bob'.entries.Perm bob.entries := List.Perm.swap _ _ _
    have hreordered : Batch.Reordered ⟨[ann, bob']⟩ ⟨[ann, bob]⟩ :=
      ⟨rfl, .cons (List.Perm.refl _) (.cons hperm .nil)⟩
    exact ⟨s, hs, (hreorder _ hreordered s).1 hs⟩
  · obtain ⟨_, -, -, hthree⟩ := insert_batch ⟨"app_"⟩ users ⟨[ann, bob', cy]⟩ rfl hreference
    exact (hthree ⟨ann, by simp, by decide⟩).2.2.2 [ann, bob'] cy [] rfl (by decide) (by decide)
  · obtain ⟨table, -, hnone, -⟩ := insert_batch ⟨"app_"⟩ users ⟨[.empty, .empty]⟩ rfl hreference
    exact ⟨table, hnone (by decide)⟩

end SurrealQuery
