import Mathlib.Data.List.Basic
import SurrealQuery.Query.Build
import SurrealQuery.Proofs.References

/-!
# Addresses of records

A text addresses a record if it has one mark and something on both sides of it. Record ids and such
texts are in bijection, and everything that takes a text for a record takes these texts and no
others (`recordId_text_iff`).
-/

namespace SurrealQuery

/-! ## Texts with one mark -/

/-- A text with one mark, which neither starts nor ends it. -/
def HasOneMark (s : String) : Prop :=
  s.toList.count recordMark = 1 ∧ s.toList.head? ≠ some recordMark ∧
    s.toList.getLast? ≠ some recordMark

instance (s : String) : Decidable (HasOneMark s) :=
  inferInstanceAs (Decidable (_ ∧ _))

/-- A mark between two texts is the only one, with something on both sides, if and only if the texts
may stand there. -/
theorem hasOneMark_append {table key : String} :
    HasOneMark (table ++ ":" ++ key) ↔ IsRecordPart table ∧ IsRecordPart key := by
  have hchars : (table ++ ":" ++ key).toList = table.toList ++ recordMark :: key.toList := by
    simp [recordMark]
  have hcount : (table.toList ++ recordMark :: key.toList).count recordMark = 1 ↔
      recordMark ∉ table.toList ∧ recordMark ∉ key.toList := by
    rw [List.count_append, List.count_cons_self, ← List.count_eq_zero, ← List.count_eq_zero]
    omega
  have hempty (s : String) : s ≠ "" ↔ s.toList ≠ [] := String.toList_eq_nil_iff.not.symm
  rw [HasOneMark, hchars, hcount, IsRecordPart, IsRecordPart, hempty, hempty]
  generalize table.toList = cs
  generalize key.toList = ds
  constructor
  · rintro ⟨⟨hcs, hds⟩, hhead, hlast⟩
    refine ⟨⟨?_, hcs⟩, ?_, hds⟩
    · rintro rfl
      exact hhead rfl
    · rintro rfl
      exact hlast (List.getLast?_concat ..)
  · rintro ⟨⟨hne, hcs⟩, hne', hds⟩
    refine ⟨⟨hcs, hds⟩, ?_, ?_⟩
    · obtain ⟨c, cs, rfl⟩ := List.exists_cons_of_ne_nil hne
      rintro ⟨⟩
      exact hcs (List.mem_cons_self ..)
    · obtain ⟨d, ds, rfl⟩ := List.exists_cons_of_ne_nil hne'
      rw [List.getLast?_append_of_ne_nil _ (List.cons_ne_nil _ _), List.getLast?_cons_cons]
      exact fun h => hds (List.mem_of_getLast? h)

theorem hasOneMark_iff {s : String} : HasOneMark s ↔
    ∃ table key, IsRecordPart table ∧ IsRecordPart key ∧ s = table ++ ":" ++ key := by
  constructor
  · intro h
    have hmem : recordMark ∈ s.toList := List.count_pos_iff.1 (h.1 ▸ Nat.one_pos)
    obtain ⟨cs, ds, hsplit⟩ := List.append_of_mem hmem
    obtain rfl : s = String.ofList cs ++ ":" ++ String.ofList ds := by
      rw [← String.toList_inj, hsplit]
      simp [recordMark]
    obtain ⟨htable, hkey⟩ := hasOneMark_append.1 h
    exact ⟨_, _, htable, hkey, rfl⟩
  · rintro ⟨table, key, htable, hkey, rfl⟩
    exact hasOneMark_append.2 ⟨htable, hkey⟩

/-! ## Reading an address -/

namespace RecordId

variable {s : String} {id : RecordId}

theorem parse_toString (id : RecordId) : parse id.toString = .ok id := by
  rw [parse, parse?_toString]

theorem ofParts_of_isRecordPart {table key : String} (htable : IsRecordPart table)
    (hkey : IsRecordPart key) : ofParts table key = .ok ⟨table, key, htable, hkey⟩ := by
  have h := parse_toString ⟨table, key, htable, hkey⟩
  rwa [toString] at h

theorem parse_of_hasOneMark (h : HasOneMark s) : ∃ id, parse s = .ok id ∧ id.toString = s := by
  obtain ⟨table, key, htable, hkey, rfl⟩ := hasOneMark_iff.1 h
  exact ⟨_, ofParts_of_isRecordPart htable hkey, rfl⟩

theorem parse_of_not_hasOneMark (h : ¬HasOneMark s) : parse s = .error (.invalidRecord s) := by
  have hnone : parse? s = none := by
    rw [hasOneMark_iff, ← isSome_parse?_iff, Option.not_isSome_iff_eq_none] at h
    exact h
  rw [parse, hnone]

theorem read?_eq_some_iff {j : Json} : read? j = some id ↔ j = id.toJson := by
  constructor
  · intro h
    obtain ⟨s, hs, h⟩ := Option.bind_eq_some_iff.1 h
    cases j with
    | str t =>
      cases hs
      rw [toJson, toString_of_parse? h]
    | _ => cases hs
  · rintro rfl
    exact parse?_toString id

end RecordId

/-- A reference is refused if it has a mark and is no address, and as the address is. -/
theorem Settings.table_eq_error_iff {settings : Settings} {s : String} {e : CompileError} :
    settings.table s = .error e ↔ recordMark ∈ s.toList ∧ RecordId.parse s = .error e := by
  unfold Settings.table isRecordReference
  simp only [List.contains_iff_mem]
  by_cases hmark : recordMark ∈ s.toList
  · rw [if_pos hmark]
    cases RecordId.parse s with
    | error e' => simp [hmark]
    | ok id => simp [hmark]
  · rw [if_neg hmark]
    simp [hmark]

/-- **Record ids and their texts.** A text is read as a record id if it has one mark with something
on both sides, and then as the one with that text; any other text is refused as a whole. So it is
where the table and the key are given apart, where a record is selected, and where it is found by its
id. A reference to a table is refused if it has a mark and cannot be read. -/
theorem recordId_text_iff :
    (∀ s, (HasOneMark s → ∃ id, RecordId.parse s = .ok id ∧ id.toString = s) ∧
      (¬HasOneMark s → RecordId.parse s = .error (.invalidRecord s))) ∧
    (∀ id : RecordId, RecordId.parse id.toString = .ok id) ∧
    (∀ j id, RecordId.read? j = some id ↔ j = .str id.toString) ∧
    (∀ table key,
      (IsRecordPart table ∧ IsRecordPart key → ∃ id, RecordId.ofParts table key = .ok id ∧
        id.table = table ∧ id.toString = table ++ ":" ++ key) ∧
      (¬(IsRecordPart table ∧ IsRecordPart key) →
        RecordId.ofParts table key = .error (.invalidRecord (table ++ ":" ++ key)))) ∧
    (∀ s,
      (HasOneMark s → ∃ (id : RecordId) (q : Query), id.toString = s ∧
        Query.record s = .ok (.table s) ∧ Query.find s = .ok q ∧ q.target = id.table) ∧
      (¬HasOneMark s → Query.record s = .error (.invalidRecord s) ∧
        Query.find s = .error (.invalidRecord s))) ∧
    ∀ (settings : Settings) s e,
      settings.table s = .error e ↔ recordMark ∈ s.toList ∧ RecordId.parse s = .error e := by
  refine ⟨fun s => ⟨RecordId.parse_of_hasOneMark, RecordId.parse_of_not_hasOneMark⟩,
    RecordId.parse_toString, fun j id => RecordId.read?_eq_some_iff, fun table key => ?_,
    fun s => ?_, fun settings s e => Settings.table_eq_error_iff⟩
  · rw [← hasOneMark_append]
    refine ⟨fun h => ?_, RecordId.parse_of_not_hasOneMark⟩
    obtain ⟨htable, hkey⟩ := hasOneMark_append.1 h
    exact ⟨_, RecordId.ofParts_of_isRecordPart htable hkey, rfl, rfl⟩
  · unfold Query.record Query.find
    refine ⟨fun h => ?_, fun h => ?_⟩
    · obtain ⟨id, hid, rfl⟩ := RecordId.parse_of_hasOneMark h
      rw [hid]
      exact ⟨id, _, rfl, rfl, rfl, rfl⟩
    · rw [RecordId.parse_of_not_hasOneMark h]
      exact ⟨rfl, rfl⟩

theorem recordId_text_iff_person :
    HasOneMark "person:ana" ∧ (∃ id, RecordId.parse "person:ana" = .ok id) ∧
      ¬HasOneMark "person::ana" ∧ ¬(IsRecordPart "person" ∧ IsRecordPart ":ana") ∧
      RecordId.ofParts "person" ":ana" = .error (.invalidRecord "person::ana") ∧
      Query.find "person::ana" = .error (.invalidRecord "person::ana") ∧
      Settings.table ⟨"app_"⟩ "person::ana" = .error (.invalidRecord "person::ana") ∧
      ∃ name, Settings.table ⟨"app_"⟩ "person" = .ok name := by
  obtain ⟨hparse, -, -, hparts, hquery, htable⟩ := recordId_text_iff
  have hone : HasOneMark "person:ana" := by decide
  have htwo : ¬HasOneMark "person::ana" := by decide
  have hkey : ¬(IsRecordPart "person" ∧ IsRecordPart ":ana") := by decide
  obtain ⟨id, hid, -⟩ := (hparse "person:ana").1 hone
  refine ⟨hone, ⟨id, hid⟩, htwo, hkey, (hparts _ _).2 hkey, ((hquery _).2 htwo).2, ?_, _, rfl⟩
  exact (htable _ _ _).2 ⟨by decide, (hparse _).2 htwo⟩

end SurrealQuery
