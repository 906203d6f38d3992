import Mathlib.Data.List.TakeDrop
import SurrealQuery.RecordId

/-!
# Record ids and their text

A record id is read back from its text, and a text that is read as a record id is the text of that
id. So the texts that are read are those with one mark and something on both sides of it.
-/

namespace SurrealQuery.RecordId

theorem toList_toString (id : RecordId) :
    id.toString.toList = id.table.toList ++ recordMark :: id.key.toList := by
  simp [toString, recordMark]

theorem ne_mark_of_part {s : String} (h : IsRecordPart s) :
    ∀ c ∈ s.toList, (c != recordMark) = true := by
  intro c hc
  rw [bne_iff_ne]
  rintro rfl
  exact h.2 hc

/-- The text of a record id is read as that id. -/
theorem parse?_toString (id : RecordId) : parse? id.toString = some id := by
  obtain ⟨table, key, htable, hkey⟩ := id
  have hspan : (RecordId.toString ⟨table, key, htable, hkey⟩).toList.span (· != recordMark) =
      (table.toList, recordMark :: key.toList) := by
    rw [toList_toString, List.span_eq_takeWhile_dropWhile]
    have hpos := ne_mark_of_part htable
    rw [List.takeWhile_append_of_pos hpos, List.dropWhile_append_of_pos hpos]
    simp
  unfold parse?
  rw [hspan]
  simp only [String.ofList_toList]
  rw [dif_pos ⟨htable, hkey⟩]

/-- A text that is read as a record id is the text of it. -/
theorem toString_of_parse? {s : String} {id : RecordId} (h : parse? s = some id) :
    id.toString = s := by
  unfold parse? at h
  rw [List.span_eq_takeWhile_dropWhile] at h
  have hsplit : s.toList.takeWhile (· != recordMark) ++ s.toList.dropWhile (· != recordMark) =
      s.toList := List.takeWhile_append_dropWhile
  have hmark := List.head?_dropWhile_not (· != recordMark) s.toList
  revert h hsplit hmark
  generalize s.toList.takeWhile (· != recordMark) = table
  generalize s.toList.dropWhile (· != recordMark) = rest
  intro h hsplit hmark
  cases rest with
  | nil => cases h
  | cons mark key =>
    obtain rfl : mark = recordMark := by simpa using hmark
    dsimp only at h
    split at h
    · cases h
      rw [← String.toList_inj, toList_toString, String.toList_ofList, String.toList_ofList, hsplit]
    · cases h

/-- What is read as a record id has one mark, with something on both sides of it. -/
theorem isSome_parse?_iff {s : String} : (parse? s).isSome ↔
    ∃ table key, IsRecordPart table ∧ IsRecordPart key ∧ s = table ++ ":" ++ key := by
  constructor
  · intro h
    obtain ⟨id, hid⟩ := Option.isSome_iff_exists.1 h
    exact ⟨id.table, id.key, id.table_part, id.key_part, (toString_of_parse? hid).symm⟩
  · rintro ⟨table, key, htable, hkey, rfl⟩
    have h := parse?_toString ⟨table, key, htable, hkey⟩
    rw [toString] at h
    rw [h]
    rfl

theorem toString_of_parse {s : String} {id : RecordId} (h : parse s = .ok id) :
    id.toString = s := by
  unfold parse at h
  split at h
  · cases h
    exact toString_of_parse? ‹_›
  · cases h

end SurrealQuery.RecordId
