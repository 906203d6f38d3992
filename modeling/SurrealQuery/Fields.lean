import SurrealQuery.Expression

/-!
What a statement writes: fields with their operands, in the order in which the fields were first
given, and batches of such records.
-/

namespace SurrealQuery

/-- The fields of one record, each once. -/
structure Fields where
  entries : List (String × Operand) := []
  nodup : (entries.map Prod.fst).Nodup := by simp
deriving Repr

namespace Fields

def empty : Fields :=
  ⟨[], List.nodup_nil⟩

instance : Inhabited Fields := ⟨empty⟩

def keys (f : Fields) : List String :=
  f.entries.map Prod.fst

def operands (f : Fields) : List Operand :=
  f.entries.map Prod.snd

def isEmpty (f : Fields) : Bool :=
  f.entries.isEmpty

def size (f : Fields) : Nat :=
  f.entries.length

def get? (f : Fields) (key : String) : Option Operand :=
  f.entries.lookup key

/-- Replaces the operand of a field where it stands, or adds the field at the end. -/
def put (key : String) (operand : Operand) : List (String × Operand) → List (String × Operand)
  | [] => [(key, operand)]
  | (k, o) :: rest => if k = key then (key, operand) :: rest else (k, o) :: put key operand rest

/-- A field that is there keeps its place; a new one comes last. -/
theorem map_fst_put (key : String) (operand : Operand) (entries : List (String × Operand)) :
    (put key operand entries).map Prod.fst =
      if key ∈ entries.map Prod.fst then entries.map Prod.fst
      else entries.map Prod.fst ++ [key] := by
  induction entries with
  | nil => simp [put]
  | cons entry rest ih =>
    obtain ⟨k, o⟩ := entry
    by_cases h : k = key
    · simp [put, h]
    · by_cases hm : key ∈ rest.map Prod.fst <;> simp_all [put, Ne.symm h]

theorem nodup_put {key : String} {operand : Operand} {entries : List (String × Operand)}
    (h : (entries.map Prod.fst).Nodup) : ((put key operand entries).map Prod.fst).Nodup := by
  rw [map_fst_put]
  split
  · exact h
  · rename_i hk
    exact List.nodup_append.2 ⟨h, by simp, by
      intro a ha b hb
      simp only [List.mem_singleton] at hb
      subst hb
      rintro rfl
      exact hk ha⟩

/-- Gives a field its operand. -/
def set (f : Fields) (key : String) (operand : Operand) : Fields :=
  ⟨put key operand f.entries, nodup_put f.nodup⟩

theorem keys_set (f : Fields) (key : String) (operand : Operand) :
    (f.set key operand).keys = if key ∈ f.keys then f.keys else f.keys ++ [key] :=
  map_fst_put key operand f.entries

theorem lookup_put (key k : String) (operand : Operand) (entries : List (String × Operand)) :
    (put key operand entries).lookup k = if k = key then some operand else entries.lookup k := by
  induction entries with
  | nil => by_cases h : k = key <;> simp [put, List.lookup_cons, beq_eq_false_iff_ne.2, h]
  | cons entry rest ih =>
    obtain ⟨k', o⟩ := entry
    by_cases h : k' = key
    · subst h
      by_cases hk : k = k' <;> simp [put, List.lookup_cons, beq_eq_false_iff_ne.2, hk]
    · by_cases hk : k = k'
      · subst hk
        simp [put, h]
      · simp [put, List.lookup_cons, beq_eq_false_iff_ne.2 hk, h, ih]

/-- A field has the operand that it was given last. -/
theorem get?_set (f : Fields) (key k : String) (operand : Operand) :
    (f.set key operand).get? k = if k = key then some operand else f.get? k :=
  lookup_put key k operand f.entries

/-- Gives fields their operands, one after the other. -/
def setAll (f : Fields) (pairs : List (String × Operand)) : Fields :=
  pairs.foldl (fun f e => f.set e.1 e.2) f

def ofList (pairs : List (String × Operand)) : Fields :=
  empty.setAll pairs

def toJson (f : Fields) : Json :=
  .obj (f.entries.map fun (key, operand) => (key, operand.toJson))

/-- Sets the members of an object one after the other. -/
def setMembers? (f : Fields) : List (String × Json) → Option Fields
  | [] => some f
  | (key, j) :: rest => do
    let operand ← Operand.read? j
    setMembers? (f.set key operand) rest

def read? : Json → Option Fields
  | .obj members => setMembers? empty members
  | _ => none

end Fields

/-- Records to be written together. -/
structure Batch where
  records : List Fields := []
deriving Repr, Inhabited

namespace Batch

/-- Whether no record has a field. -/
def isEmpty (b : Batch) : Bool :=
  b.records.all Fields.isEmpty

def toJson (b : Batch) : Json :=
  Json.ofList Fields.toJson b.records

/-- Reads a batch; a single record is a batch of one. -/
def read? (j : Json) : Option Batch :=
  (Json.list? Fields.read? j).map (⟨·⟩) <|> (Fields.read? j).map (⟨[·]⟩)

end Batch

/-- What to do with a record that is there already: columns to take over, or fields to set. -/
inductive OnConflict where
  | columns (names : List String)
  | set (fields : Fields)
deriving Repr, Inhabited

namespace OnConflict

def toJson : OnConflict → Json
  | .columns names => Json.ofList Json.str names
  | .set fields => fields.toJson

def read? (j : Json) : Option OnConflict :=
  (Json.list? Json.str? j).map .columns <|> (Fields.read? j).map .set

end OnConflict

end SurrealQuery
