import SurrealQuery.Proofs.Insertion
import SurrealQuery.Proofs.Subquery
import SurrealQuery.Proofs.Words

/-!
# Verbs and the first word of a text

A statement carries a verb, and its text has a first word, from which a verb can be told as well.
Every statement starts with the keyword of its verb and a blank, whatever the caller's own text
after that. So both ways lead to the same verb, and that is the verb of the request (`compile_verb`).
-/

namespace SurrealQuery

/-! ## The first word -/

theorem Verb.not_isBlank_keyword (v : Verb) : ∀ c ∈ v.keyword.toList, ¬Text.isBlank c := by
  have hall : v.keyword.toList.all fun c => !Text.isBlank c := by cases v <;> rfl
  simpa using hall

/-- A verb is told from its keyword, whatever follows after a blank. -/
theorem Verb.ofText?_keyword (v : Verb) (rest : String) :
    Verb.ofText? (v.keyword ++ " " ++ rest) = some v := by
  have hne : v.keyword.toList ≠ [] := by cases v <;> decide
  have hchars : (v.keyword ++ " " ++ rest).toList = v.keyword.toList ++ ' ' :: rest.toList := by
    simp
  unfold Verb.ofText?
  rw [hchars, Text.head?_words hne v.not_isBlank_keyword (by decide)]
  cases v <;> rfl

/-! ## Templates that open with a verb -/

/-- The text starts with the keyword of a verb and a blank. -/
def Template.Opens (v : Verb) (t : Template) : Prop :=
  ∃ rest, t.text = v.keyword ++ " " ++ rest

namespace Template.Opens

variable {v : Verb} {t : Template}

theorem keyword (v : Verb) : (Template.raw (v.keyword ++ " ")).Opens v :=
  ⟨"", by rw [Template.text_raw, String.append_empty]⟩

theorem raw_append {text : String} (h : (Template.raw text).Opens v) (more : String) :
    (Template.raw (text ++ more)).Opens v := by
  obtain ⟨rest, hrest⟩ := h
  refine ⟨rest ++ more, ?_⟩
  rw [Template.text_raw] at hrest ⊢
  rw [hrest, String.append_assoc]

theorem append (h : t.Opens v) (u : Template) : (t ++ u).Opens v := by
  obtain ⟨rest, hrest⟩ := h
  refine ⟨rest ++ u.text, ?_⟩
  rw [Template.text_append, hrest, String.append_assoc]

theorem wrap {before : String} (h : (Template.raw before).Opens v) (t : Template)
    (after : String) : (Template.wrap before t after).Opens v := by
  rw [Template.wrap_eq]
  exact (h.append t).append _

theorem join (h : t.Opens v) (separator : String) (rest : List Template) :
    (Template.join separator (t :: rest)).Opens v :=
  h.append _

end Template.Opens

/-- What a query selects comes after the keyword. -/
theorem Clause.selection_opens (q : Query) : (Clause.selection q).Opens .select := by
  unfold Clause.selection
  split
  · exact (((Template.Opens.keyword .select).raw_append _).raw_append _).wrap _ _
  · exact ((Template.Opens.keyword .select).append _).append _

theorem Query.template_opens {settings : Settings} {q : Query} {t : Template}
    (h : q.template settings = .ok t) : t.Opens .select := by
  obtain ⟨table, ts, -, -, rfl⟩ := Query.template_eq_ok h
  exact (Clause.selection_opens q).join _ _

/-! ## Statements -/

/-- The statement has a verb, and its text opens with it. -/
def Statement.Opens (v : Verb) (s : Statement) : Prop :=
  s.verb = v ∧ s.template.Opens v

namespace Statement

variable {settings : Settings} {q : Query} {batch : Batch} {fields : Fields} {s : Statement}

theorem opens_select (h : select settings q = .ok s) : s.Opens .select := by
  obtain ⟨-, -, h⟩ := bind_eq_ok.1 h
  obtain ⟨t, ht, h⟩ := bind_eq_ok.1 h
  cases h
  exact ⟨rfl, Query.template_opens ht⟩

theorem opens_existence (h : existence settings q = .ok s) : s.Opens .select := by
  obtain ⟨-, -, h⟩ := bind_eq_ok.1 h
  obtain ⟨inner, -, h⟩ := bind_eq_ok.1 h
  cases h
  exact ⟨rfl, (((Template.Opens.keyword .select).raw_append _).raw_append _).wrap _ _⟩

theorem opens_insertion {keyword table : String} {t : Template}
    (hkeyword : (Template.raw (keyword ++ " INTO ")).Opens .insert)
    (h : Clause.insertion keyword table batch = .ok t) : t.Opens .insert := by
  obtain ⟨rows, -, h⟩ := bind_eq_ok.1 h
  cases h
  exact ((((hkeyword.raw_append _).raw_append _).raw_append _).raw_append _).append _

/-- A batch is inserted if some record has a field, and else a record is created. -/
theorem opens_insertWith {keyword : String}
    (hkeyword : (Template.raw (keyword ++ " INTO ")).Opens .insert)
    (h : insertWith keyword settings q batch = .ok s) :
    s.Opens (if batch.isEmpty then .create else .insert) := by
  obtain ⟨table, -, h⟩ := bind_eq_ok.1 h
  split at h
  · rename_i hempty
    cases h
    rw [if_pos hempty]
    exact ⟨rfl, (Template.Opens.keyword .create).raw_append table⟩
  · rename_i hempty
    obtain ⟨t, ht, h⟩ := bind_eq_ok.1 h
    cases h
    rw [if_neg hempty]
    exact ⟨rfl, opens_insertion hkeyword ht⟩

theorem opens_insert (h : insert settings q batch = .ok s) :
    s.Opens (if batch.isEmpty then .create else .insert) := by
  obtain ⟨-, -, h⟩ := bind_eq_ok.1 h
  exact opens_insertWith ⟨"INTO ", rfl⟩ h

theorem opens_insertOrIgnore (h : insertOrIgnore settings q batch = .ok s) :
    s.Opens (if batch.isEmpty then .create else .insert) := by
  obtain ⟨-, -, h⟩ := bind_eq_ok.1 h
  exact opens_insertWith ⟨"IGNORE INTO ", rfl⟩ h

theorem opens_insertUsing {columns : List Column} {source : Query}
    (h : insertUsing settings q columns source = .ok s) : s.Opens .insert := by
  obtain ⟨-, -, h⟩ := bind_eq_ok.1 h
  obtain ⟨-, -, h⟩ := bind_eq_ok.1 h
  obtain ⟨table, -, h⟩ := bind_eq_ok.1 h
  obtain ⟨inner, -, h⟩ := bind_eq_ok.1 h
  cases h
  have hkeyword : (Template.raw "INSERT INTO ").Opens .insert := ⟨"INTO ", rfl⟩
  exact ⟨rfl, (((hkeyword.raw_append _).raw_append _).wrap _ _).append _⟩

theorem opens_create (h : create settings q fields = .ok s) : s.Opens .create := by
  obtain ⟨-, -, h⟩ := bind_eq_ok.1 h
  obtain ⟨table, -, h⟩ := bind_eq_ok.1 h
  cases h
  exact ⟨rfl, ((Template.Opens.keyword .create).raw_append table).join _ _⟩

theorem opens_update (h : update settings q fields = .ok s) : s.Opens .update := by
  obtain ⟨-, -, h⟩ := bind_eq_ok.1 h
  obtain ⟨table, -, h⟩ := bind_eq_ok.1 h
  obtain ⟨filter, -, h⟩ := bind_eq_ok.1 h
  cases h
  exact ⟨rfl, ((Template.Opens.keyword .update).raw_append table).join _ _⟩

theorem opens_upsert {uniqueBy : List String} {onConflict : OnConflict}
    (h : upsert settings q batch uniqueBy onConflict = .ok s) : s.Opens .insert := by
  cases hfault : upsertFault? batch uniqueBy onConflict with
  | some e =>
    rw [upsert_of_fault hfault] at h
    cases h
  | none =>
    obtain ⟨-, set, rfl, -, -⟩ := upsertFault?_eq_none.1 hfault
    rw [upsert_of_no_fault hfault] at h
    obtain ⟨-, -, h⟩ := bind_eq_ok.1 h
    obtain ⟨table, -, h⟩ := bind_eq_ok.1 h
    obtain ⟨t, ht, h⟩ := bind_eq_ok.1 h
    cases h
    exact ⟨rfl, ((opens_insertion ⟨"INTO ", rfl⟩ ht).append _).append _⟩

theorem opens_delete (h : delete settings q = .ok s) : s.Opens .delete := by
  obtain ⟨-, -, h⟩ := bind_eq_ok.1 h
  obtain ⟨table, -, h⟩ := bind_eq_ok.1 h
  obtain ⟨filter, -, h⟩ := bind_eq_ok.1 h
  cases h
  refine ⟨rfl, Template.Opens.join (Template.Opens.raw_append ?_ table) _ _⟩
  split
  · exact .keyword .delete
  · exact ⟨"FROM ", rfl⟩

theorem opens_relate {edge target : String} (h : relate q edge target fields = .ok s) :
    s.Opens .relate := by
  obtain ⟨-, -, h⟩ := bind_eq_ok.1 h
  obtain ⟨source, -, h⟩ := bind_eq_ok.1 h
  obtain ⟨other, -, h⟩ := bind_eq_ok.1 h
  cases h
  have hkeyword := (Template.Opens.keyword .relate).raw_append source.toString
  exact ⟨rfl, ((((hkeyword.raw_append _).raw_append _).raw_append _).raw_append _).join _ _⟩

end Statement

/-! ## Requests -/

/-- The verb of a request. A batch is inserted if some record has a field, and else there is a
record to create. -/
def Request.verb : Request → Verb
  | .select _ | .existence _ => .select
  | .insert _ batch | .insertOrIgnore _ batch =>
    if ∃ record ∈ batch.records, record.keys ≠ [] then .insert else .create
  | .create _ _ => .create
  | .update _ _ => .update
  | .upsert _ _ _ _ => .insert
  | .delete _ => .delete
  | .relate _ _ _ _ => .relate

theorem Batch.verb_eq (batch : Batch) :
    (if batch.isEmpty then Verb.create else .insert) =
      if ∃ record ∈ batch.records, record.keys ≠ [] then .insert else .create := by
  by_cases h : ∃ record ∈ batch.records, record.keys ≠ []
  · rw [if_pos h, Batch.isEmpty_eq_false_iff.2 h]
    rfl
  · rw [if_neg h, if_pos]
    rwa [← Bool.not_eq_false, Batch.isEmpty_eq_false_iff]

theorem Request.opens_compile {settings : Settings} {r : Request} {s : Statement}
    (h : r.compile settings = .ok s) : s.Opens r.verb := by
  cases r with
  | select q => exact Statement.opens_select h
  | existence q => exact Statement.opens_existence h
  | insert q batch =>
    rw [Request.verb, ← Batch.verb_eq]
    exact Statement.opens_insert h
  | insertOrIgnore q batch =>
    rw [Request.verb, ← Batch.verb_eq]
    exact Statement.opens_insertOrIgnore h
  | create q fields => exact Statement.opens_create h
  | update q fields => exact Statement.opens_update h
  | upsert q batch uniqueBy onConflict => exact Statement.opens_upsert h
  | delete q => exact Statement.opens_delete h
  | relate q edge target fields => exact Statement.opens_relate h

theorem Statement.Opens.ofText? {v : Verb} {s : Statement} (h : s.Opens v) :
    Verb.ofText? s.template.text = some s.verb := by
  obtain ⟨rfl, rest, hrest⟩ := h
  rw [hrest, Verb.ofText?_keyword]

/-- Selections and checks for existence read, and all other requests write. -/
theorem Request.isWrite_verb_eq_false (r : Request) :
    r.verb.isWrite = false ↔ ∃ q, r = .select q ∨ r = .existence q := by
  cases r with
  | select q => exact ⟨fun _ => ⟨q, .inl rfl⟩, fun _ => rfl⟩
  | existence q => exact ⟨fun _ => ⟨q, .inr rfl⟩, fun _ => rfl⟩
  | insert q batch | insertOrIgnore q batch =>
    rw [Request.verb]
    split <;> simp [Verb.isWrite]
  | _ => simp [Request.verb, Verb.isWrite]

/-- **One verb by two ways.** A statement has the verb of its request, and the first word of its text
is the keyword of that verb. So a statement is taken for a write by its text exactly if it is by its
verb, and it is a read only if the request selects or checks for existence. An insertion from a query
is an insertion in both ways. -/
theorem compile_verb (settings : Settings) :
    (∀ (r : Request) (s : Statement), r.compile settings = .ok s →
      s.verb = r.verb ∧ Verb.ofText? s.template.text = some s.verb ∧
        (Verb.ofText? s.template.text).map Verb.isWrite = some s.verb.isWrite ∧
        (s.verb.isWrite = false ↔ ∃ q, r = .select q ∨ r = .existence q)) ∧
    ∀ (q : Query) (columns : List Column) (source : Query) (s : Statement),
      Statement.insertUsing settings q columns source = .ok s →
        s.verb = .insert ∧ Verb.ofText? s.template.text = some s.verb := by
  refine ⟨fun r s h => ?_, fun q columns source s h => ?_⟩
  · have hopens := Request.opens_compile h
    refine ⟨hopens.1, hopens.ofText?, ?_, ?_⟩
    · rw [hopens.ofText?]
      rfl
    · rw [hopens.1, Request.isWrite_verb_eq_false]
  · have hopens := Statement.opens_insertUsing h
    exact ⟨hopens.1, hopens.ofText?⟩

/-- A table with a name that reads like a statement. -/
def misleading : Query where
  target := "SELECT * FROM users"

theorem compile_verb_misleading :
    (∃ s, (Request.insertOrIgnore misleading
          ⟨[⟨[("DELETE", .literal .null)], by decide⟩]⟩).compile {} = .ok s ∧
        s.verb = .insert ∧ Verb.ofText? s.template.text = some s.verb) ∧
      (∃ s, (Request.insert misleading ⟨[.empty, .empty]⟩).compile {} = .ok s ∧
        s.verb = .create ∧ Verb.ofText? s.template.text = some s.verb) ∧
      ∃ s, Statement.insertUsing {} misleading [.raw "UPDATE"] misleading = .ok s ∧
        s.verb = .insert ∧ Verb.ofText? s.template.text = some s.verb := by
  obtain ⟨hcompile, husing⟩ := compile_verb {}
  refine ⟨⟨_, rfl, ?_⟩, ⟨_, rfl, ?_⟩, ⟨_, rfl, ?_⟩⟩
  · obtain ⟨hverb, htext, -⟩ := hcompile (.insertOrIgnore misleading
      ⟨[⟨[("DELETE", .literal .null)], by decide⟩]⟩) _ rfl
    exact ⟨hverb.trans rfl, htext⟩
  · obtain ⟨hverb, htext, -⟩ := hcompile (.insert misleading ⟨[.empty, .empty]⟩) _ rfl
    exact ⟨hverb.trans rfl, htext⟩
  · exact husing misleading [.raw "UPDATE"] misleading _ rfl

end SurrealQuery
