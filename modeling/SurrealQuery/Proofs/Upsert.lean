import SurrealQuery.Statement.Write

/-!
# The checks of an upsert

Before anything else an upsert looks at its keys, at the fields to update and at its records.
-/

namespace SurrealQuery.Statement

/-- The first of its checks that an upsert fails. -/
def upsertFault? (batch : Batch) (uniqueBy : List String) (onConflict : OnConflict) :
    Option CompileError :=
  if uniqueBy ≠ ["id"] then some (.upsertKeys uniqueBy)
  else match onConflict with
    | .columns _ => some .upsertUpdate
    | .set fields =>
      if fields.isEmpty then some .upsertUpdate
      else if batch.isEmpty then some .upsertRecords
      else none

variable {batch : Batch} {uniqueBy : List String} {onConflict : OnConflict}

theorem upsert_of_fault {e : CompileError} (h : upsertFault? batch uniqueBy onConflict = some e)
    (settings : Settings) (q : Query) :
    upsert settings q batch uniqueBy onConflict = .error e := by
  unfold upsertFault? at h
  unfold upsert
  split at h
  · rename_i hkeys
    cases h
    rw [if_pos hkeys]
    rfl
  · rename_i hkeys
    rw [if_neg hkeys]
    cases onConflict with
    | columns names => cases h; rfl
    | set fields =>
      dsimp only at h ⊢
      split at h
      · rename_i hfields
        cases h
        rw [if_pos hfields]
        rfl
      · rename_i hfields
        rw [if_neg hfields]
        split at h
        · rename_i hbatch
          cases h
          rw [if_pos hbatch]
          rfl
        · cases h

/-- The checks are passed by one set of keys, fields to update and records. -/
theorem upsertFault?_eq_none : upsertFault? batch uniqueBy onConflict = none ↔
    uniqueBy = ["id"] ∧ ∃ fields, onConflict = .set fields ∧ fields.isEmpty = false ∧
      batch.isEmpty = false := by
  unfold upsertFault?
  by_cases hkeys : uniqueBy = ["id"]
  · cases onConflict with
    | columns names => simp [hkeys]
    | set fields => cases hf : fields.isEmpty <;> cases hb : batch.isEmpty <;> simp [hkeys, hf]
  · simp [hkeys]

theorem upsert_of_no_fault {fields : Fields}
    (h : upsertFault? batch uniqueBy (.set fields) = none) (settings : Settings) (q : Query) :
    upsert settings q batch uniqueBy (.set fields) = (do
      q.check
      let table ← settings.table q.target
      let insertion ← Clause.insertion "INSERT" table batch
      return ⟨.insert, insertion ++ .raw " ON DUPLICATE KEY UPDATE " ++
        Clause.assignments fields⟩) := by
  obtain ⟨hkeys, fields', hset, hfields, hbatch⟩ := upsertFault?_eq_none.1 h
  cases hset
  unfold upsert
  rw [if_neg (not_not_intro hkeys)]
  dsimp only
  rw [hfields, hbatch]
  rfl

/-- No check of an upsert is about an unsupported feature. -/
theorem upsertFault?_ne_unsupported (feature : Feature) :
    upsertFault? batch uniqueBy onConflict ≠ some (.unsupported feature) := by
  unfold upsertFault?
  split
  · simp
  · cases onConflict with
    | columns names => simp
    | set fields =>
      dsimp only
      split
      · simp
      · split <;> simp

end SurrealQuery.Statement
