import SurrealQuery.Json.Reader
import SurrealQuery.Json.Printer

/-!
Values that a statement binds: plain data that carries the proof that the keys of its objects are in
order. There is a function for each kind of value, and induction goes by the kinds.
-/

namespace SurrealQuery

/-- Plain data, with the entries of objects in any order. -/
inductive Value.Data where
  | null
  | bool (b : Bool)
  | int (n : Int64)
  | float (x : Double)
  | text (s : String)
  | array (items : List Data)
  | object (entries : List (String × Data))
deriving Repr

/-- The keys of every object in the data stand in order, each once. -/
inductive Value.Data.IsOrdered : Data → Prop
  | null : IsOrdered .null
  | bool (b : Bool) : IsOrdered (.bool b)
  | int (n : Int64) : IsOrdered (.int n)
  | float (x : Double) : IsOrdered (.float x)
  | text (s : String) : IsOrdered (.text s)
  | array {items : List Data} (h : ∀ d ∈ items, IsOrdered d) : IsOrdered (.array items)
  | object {entries : List (String × Data)} (sorted : Sorted.IsSorted entries)
    (h : ∀ e ∈ entries, IsOrdered e.2) : IsOrdered (.object entries)

/-- A value: plain data with the keys of objects in order. -/
structure Value where
  data : Value.Data
  isOrdered : data.IsOrdered
deriving Repr

namespace Value

/-! ## Kinds of values -/

def null : Value := ⟨.null, .null⟩

def bool (b : Bool) : Value := ⟨.bool b, .bool b⟩

def int (n : Int64) : Value := ⟨.int n, .int n⟩

def float (x : Double) : Value := ⟨.float x, .float x⟩

def text (s : String) : Value := ⟨.text s, .text s⟩

def array (items : List Value) : Value :=
  ⟨.array (items.map data), .array (List.forall_mem_map.2 fun v _ => v.isOrdered)⟩

def object (entries : List (String × Value)) (sorted : Sorted.IsSorted entries) : Value :=
  ⟨.object (entries.map fun e => (e.1, e.2.data)),
    .object (sorted.map data) (List.forall_mem_map.2 fun e _ => e.2.isOrdered)⟩

/-- The object with the entries in the order of their keys; of several entries with one key the last
one stays. -/
def ofEntries (entries : List (String × Value)) : Value :=
  object (Sorted.ofList entries) (Sorted.isSorted_ofList entries)

instance : Inhabited Value := ⟨null⟩

theorem object_congr {entries others : List (String × Value)} {h : Sorted.IsSorted entries}
    {h' : Sorted.IsSorted others} (heq : entries = others) :
    object entries h = object others h' := by
  subst heq
  rfl

theorem exists_items {items : List Data} (h : ∀ d ∈ items, d.IsOrdered) :
    ∃ values : List Value, values.map data = items :=
  ⟨items.pmap mk h, by simp [List.map_pmap]⟩

theorem exists_entries {entries : List (String × Data)} (h : ∀ e ∈ entries, e.2.IsOrdered) :
    ∃ values : List (String × Value), values.map (fun e => (e.1, e.2.data)) = entries :=
  ⟨entries.pmap (fun e he => (e.1, ⟨e.2, he⟩)) h, by simp [List.map_pmap]⟩

/-- Induction by the kinds of values. -/
@[elab_as_elim, induction_eliminator]
theorem induction {motive : Value → Prop} (null : motive null) (bool : ∀ b, motive (bool b))
    (int : ∀ n, motive (int n)) (float : ∀ x, motive (float x)) (text : ∀ s, motive (text s))
    (array : ∀ items, (∀ v ∈ items, motive v) → motive (array items))
    (object : ∀ entries sorted, (∀ e ∈ entries, motive e.2) → motive (object entries sorted))
    (v : Value) : motive v := by
  obtain ⟨data, h⟩ := v
  induction h with
  | null => exact null
  | bool b => exact bool b
  | int n => exact int n
  | float x => exact float x
  | text s => exact text s
  | array h ih =>
    obtain ⟨items, rfl⟩ := exists_items h
    exact array items fun v hv => ih v.data (List.mem_map_of_mem hv)
  | object sorted h ih =>
    obtain ⟨entries, rfl⟩ := exists_entries h
    exact object entries (Sorted.isSorted_map.1 sorted) fun e he =>
      ih (e.1, e.2.data) (List.mem_map_of_mem he)

/-! ## Writing -/

namespace Data

mutual

def toJson : Data → Json
  | .null => .null
  | .bool b => .bool b
  | .int n => .num (.int n.toInt)
  | .float x => .num (.float x)
  | .text s => .str s
  | .array items => .arr (toJsonItems items)
  | .object entries => .obj (toJsonEntries entries)

def toJsonItems : List Data → List Json
  | [] => []
  | d :: rest => d.toJson :: toJsonItems rest

def toJsonEntries : List (String × Data) → List (String × Json)
  | [] => []
  | (k, d) :: rest => (k, d.toJson) :: toJsonEntries rest

end

end Data

def toJson (v : Value) : Json :=
  v.data.toJson

/-! ## Reading -/

/-- A number as a value: an integer if it fits 64 bits with a sign. -/
def ofNumber : Json.Number → Value
  | .int n =>
    if -0x8000000000000000 ≤ n ∧ n < 0x8000000000000000 then .int (Int64.ofInt n)
    else .float (Double.ofInt n)
  | .float x => .float x

mutual

/-- The value that a tree denotes. -/
def ofJson : Json → Value
  | .null | .unreadable => .null
  | .bool b => .bool b
  | .num n => ofNumber n
  | .str s => .text s
  | .arr items => .array (ofJsonItems items)
  | .obj members => .ofEntries (ofJsonMembers members)

def ofJsonItems : List Json → List Value
  | [] => []
  | j :: rest => ofJson j :: ofJsonItems rest

def ofJsonMembers : List (String × Json) → List (String × Value)
  | [] => []
  | (k, j) :: rest => (k, ofJson j) :: ofJsonMembers rest

end

def readNull? : Json → Option Value
  | .null => some .null
  | _ => none

/-- A number as a double, whichever way it is written. -/
def readFloat? : Json → Option Value
  | .num (.int n) => some (.float (Double.ofInt n))
  | .num (.float x) => some (.float x)
  | _ => none

mutual

/-- Reads a value by trying its kinds in turn, integers before doubles. -/
def read? (j : Json) : Option Value :=
  readNull? j <|> j.bool?.map .bool <|> j.int64?.map .int <|> readFloat? j <|>
    j.str?.map .text <|>
    match j with
    | .arr items => (readItems? items).map .array
    | .obj members => (readMembers? members).map .ofEntries
    | _ => none

def readItems? : List Json → Option (List Value)
  | [] => some []
  | j :: rest => do
    let v ← read? j
    let vs ← readItems? rest
    some (v :: vs)

def readMembers? : List (String × Json) → Option (List (String × Value))
  | [] => some []
  | (k, j) :: rest => do
    let v ← read? j
    let vs ← readMembers? rest
    some ((k, v) :: vs)

end

end Value

end SurrealQuery
