import SurrealQuery.Fields
import SurrealQuery.Proofs.Json.Decoding
import SurrealQuery.Proofs.RecordId

/-!
# Values and fields as JSON

What a statement is given is read back from what is written for it: values, operands, columns,
fields, batches and record ids. The keys of an object come back in place because every value has
them in order.
-/

namespace SurrealQuery

open Json (Decodes)

/-! ## Values -/

namespace Value

theorem Data.toJsonItems_eq_map (items : List Data) : toJsonItems items = items.map toJson := by
  induction items with
  | nil => rfl
  | cons d items ih => rw [toJsonItems, ih, List.map_cons]

theorem Data.toJsonEntries_eq_map (entries : List (String × Data)) :
    toJsonEntries entries = entries.map fun e => (e.1, e.2.toJson) := by
  induction entries with
  | nil => rfl
  | cons e entries ih => rw [toJsonEntries, ih, List.map_cons]

theorem toJson_array (items : List Value) : (array items).toJson = .arr (items.map toJson) := by
  rw [toJson, array, Data.toJson, Data.toJsonItems_eq_map, List.map_map]
  rfl

theorem toJson_object (entries : List (String × Value)) (sorted : Sorted.IsSorted entries) :
    (object entries sorted).toJson = .obj (entries.map fun e => (e.1, e.2.toJson)) := by
  rw [toJson, object, Data.toJson, Data.toJsonEntries_eq_map, List.map_map]
  rfl

theorem readItems?_eq_mapM (items : List Json) : readItems? items = items.mapM read? := by
  induction items with
  | nil => rfl
  | cons j items ih =>
    rw [readItems?, ih, List.mapM_cons]
    rfl

theorem readMembers?_toJson {entries : List (String × Value)}
    (h : ∀ e ∈ entries, read? e.2.toJson = some e.2) :
    readMembers? (entries.map fun e => (e.1, e.2.toJson)) = some entries := by
  induction entries with
  | nil => rfl
  | cons e entries ih =>
    rw [List.map_cons, readMembers?, h e (List.mem_cons_self ..),
      ih fun e he => h e (List.mem_cons_of_mem _ he)]
    rfl

/-- A value is read back, integers before doubles and objects with their keys in order. -/
theorem decodes (v : Value) : Decodes read? v.toJson v := by
  induction v with
  | null => exact ⟨rfl, .null⟩
  | bool b => exact ⟨rfl, .bool b⟩
  | int n =>
    obtain ⟨hread, hwritable⟩ := Json.decodes_int64 n
    refine ⟨?_, hwritable⟩
    show ((Json.num (.int n.toInt)).int64?.map Value.int <|> _) = _
    rw [hread]
    rfl
  | float x => exact ⟨rfl, .float x⟩
  | text s => exact ⟨rfl, .str s⟩
  | array items ih =>
    obtain ⟨hread, hwritable⟩ := Json.decodes_list ih
    rw [toJson_array]
    refine ⟨?_, hwritable⟩
    show (readItems? _).map Value.array = _
    rw [readItems?_eq_mapM]
    exact congrArg (Option.map Value.array) hread
  | object entries sorted ih =>
    rw [toJson_object]
    refine ⟨?_, .obj fun m hm => ?_⟩
    · show (readMembers? _).map ofEntries = _
      rw [readMembers?_toJson fun e he => (ih e he).read_eq]
      exact congrArg some (object_congr (Sorted.ofList_of_isSorted sorted))
    · obtain ⟨e, he, rfl⟩ := List.mem_map.1 hm
      exact (ih e he).writable

/-- Different values have different trees. -/
theorem toJson_injective : Function.Injective toJson := by
  intro v w h
  have hread := (decodes v).read_eq
  rw [h, (decodes w).read_eq] at hread
  exact (Option.some.inj hread).symm

/-- There is nothing to merge in a value. -/
theorem merged_toJson (v : Value) : v.toJson.merged = v.toJson := by
  induction v with
  | array items ih =>
    rw [toJson_array, Json.merged, Json.mergedItems_eq_map, List.map_map]
    exact congrArg Json.arr (List.map_congr_left ih)
  | object entries sorted ih =>
    have hmembers : (entries.map fun e => (e.1, e.2.toJson.merged)) =
        entries.map fun e => (e.1, e.2.toJson) :=
      List.map_congr_left fun e he => congrArg (Prod.mk e.1) (ih e he)
    rw [toJson_object, Json.merged, Json.mergedMembers_eq_map, List.map_map]
    exact congrArg Json.obj
      ((congrArg Sorted.ofList hmembers).trans (Sorted.ofList_of_isSorted (sorted.map toJson)))
  | _ => rfl

end Value

/-! ## Operands and columns -/

namespace Call

theorem decodes_arguments (c : Call) :
    Decodes (Json.list? Value.read?) (Json.ofList Value.toJson c.arguments) c.arguments :=
  Json.decodes_list fun v _ => v.decodes

theorem writable_toJson (c : Call) : c.toJson.Writable :=
  .cons (.str _) (.cons c.decodes_arguments.writable .nil)

/-- Operands and columns see a call after its keys were put in order. -/
theorem read?_merged (c : Call) : read? c.toJson.merged = some c := by
  have hitems : Json.mergedItems (c.arguments.map Value.toJson) = c.arguments.map Value.toJson := by
    rw [Json.mergedItems_eq_map, List.map_map]
    exact List.map_congr_left fun v _ => v.merged_toJson
  have hmerged : c.toJson.merged = .obj [
      ("bindings", Json.ofList Value.toJson c.arguments), ("expression", .str c.expression)] := by
    have hlt : "bindings" < "expression" := by decide
    show Json.obj (Sorted.ofList [_, ("bindings", Json.arr (Json.mergedItems _))]) = _
    rw [hitems]
    simp [Sorted.ofList, Sorted.insert, hlt, Json.merged, Json.ofList]
  have hfields : c.toJson.merged.fields? ["expression", "bindings"] false =
      some [some (.str c.expression), some (Json.ofList Value.toJson c.arguments)] := by
    have hnodup : ["bindings", "expression"].Nodup := by decide
    rw [hmerged, Json.fields?_of_nodup]
    · rfl
    · exact hnodup
    · simp
  unfold read?
  rw [hfields]
  dsimp only
  rw [(Json.decodes_str _).required, c.decodes_arguments.withDefault]
  rfl

end Call

namespace Operand

theorem decodes (o : Operand) : Decodes read? o.toJson o := by
  cases o with
  | literal v =>
    obtain ⟨hread, hwritable⟩ := v.decodes
    have hj : (Operand.literal v).toJson.Writable := .cons hwritable .nil
    have hmerged : (Operand.literal v).toJson.merged = .obj [("value", v.toJson)] := by
      show Json.obj [("value", v.toJson.merged)] = _
      rw [v.merged_toJson]
    refine ⟨?_, hj⟩
    unfold read?
    rw [if_pos hj.legible, hmerged]
    show (Value.read? v.toJson).map Operand.literal = _
    rw [hread]
    rfl
  | raw text =>
    have hj : (Operand.raw text).toJson.Writable := .cons (.str text) .nil
    refine ⟨?_, hj⟩
    unfold read?
    rw [if_pos hj.legible]
    rfl
  | call c =>
    have hj : (Operand.call c).toJson.Writable := .cons c.writable_toJson .nil
    refine ⟨?_, hj⟩
    unfold read?
    rw [if_pos hj.legible]
    show (Call.read? c.toJson.merged).map Operand.call = _
    rw [c.read?_merged]
    rfl

end Operand

namespace Column

theorem decodes (c : Column) : Decodes read? c.toJson c := by
  cases c with
  | name s => exact ⟨rfl, .str s⟩
  | raw text =>
    have hj : (Column.raw text).toJson.Writable := .cons (.str text) .nil
    refine ⟨?_, hj⟩
    unfold read?
    rw [if_pos hj.legible]
    rfl
  | call c =>
    have hj : (Column.call c).toJson.Writable := .cons c.writable_toJson .nil
    refine ⟨?_, hj⟩
    unfold read?
    rw [if_pos hj.legible]
    show (Call.read? c.toJson.merged).map Column.call = _
    rw [c.read?_merged]
    rfl

end Column

/-! ## Fields -/

namespace Fields

theorem put_of_not_mem {key : String} {entries : List (String × Operand)}
    (h : key ∉ entries.map Prod.fst) (operand : Operand) :
    put key operand entries = entries ++ [(key, operand)] := by
  induction entries with
  | nil => rfl
  | cons e entries ih =>
    rw [List.map_cons, List.mem_cons, not_or] at h
    rw [put, if_neg (Ne.symm h.1), ih h.2]
    rfl

theorem eq_of_entries {f g : Fields} (h : f.entries = g.entries) : f = g := by
  cases f
  cases g
  cases h
  rfl

/-- Members with new keys come after the fields that are there, in order. -/
theorem setMembers?_toJson {f g : Fields} {entries : List (String × Operand)}
    (hg : g.entries = f.entries ++ entries)
    (h : ∀ e ∈ entries, Operand.read? e.2.toJson = some e.2) :
    setMembers? f (entries.map fun (key, operand) => (key, operand.toJson)) = some g := by
  induction entries generalizing f with
  | nil => exact congrArg some (eq_of_entries (hg.trans (List.append_nil _)).symm)
  | cons e entries ih =>
    have hnew : e.1 ∉ f.entries.map Prod.fst := by
      have hnodup := g.nodup
      rw [hg, List.map_append, List.map_cons] at hnodup
      intro hmem
      exact (List.nodup_append.1 hnodup).2.2 _ hmem _ (List.mem_cons_self ..) rfl
    have hset : (f.set e.1 e.2).entries = f.entries ++ [e] := put_of_not_mem hnew e.2
    rw [List.map_cons, setMembers?, h e (List.mem_cons_self ..)]
    refine ih ?_ fun e he => h e (List.mem_cons_of_mem _ he)
    rw [hset, List.append_assoc]
    exact hg

theorem decodes (f : Fields) : Decodes read? f.toJson f := by
  refine ⟨?_, .obj fun m hm => ?_⟩
  · exact setMembers?_toJson rfl fun e _ => e.2.decodes.read_eq
  · obtain ⟨e, -, rfl⟩ := List.mem_map.1 hm
    exact e.2.decodes.writable

end Fields

namespace Batch

theorem decodes (b : Batch) : Decodes read? b.toJson b := by
  have hrecords : Decodes (Json.list? Fields.read?) b.toJson b.records :=
    Json.decodes_list fun f _ => f.decodes
  refine ⟨?_, hrecords.writable⟩
  unfold read?
  rw [hrecords.read_eq]
  rfl

end Batch

namespace OnConflict

/-- Columns are a list and fields are an object, so neither is taken for the other. -/
theorem decodes (u : OnConflict) : Decodes read? u.toJson u := by
  cases u with
  | columns names =>
    have hnames : Decodes (Json.list? Json.str?) (Json.ofList Json.str names) names :=
      Json.decodes_list fun s _ => Json.decodes_str s
    refine ⟨?_, hnames.writable⟩
    show ((Json.list? Json.str? (Json.ofList Json.str names)).map OnConflict.columns <|> _) = _
    rw [hnames.read_eq]
    rfl
  | set fields =>
    obtain ⟨hread, hwritable⟩ := fields.decodes
    refine ⟨?_, hwritable⟩
    show (Fields.read? fields.toJson).map OnConflict.set = _
    rw [hread]
    rfl

end OnConflict

theorem RecordId.decodes (id : RecordId) : Decodes RecordId.read? id.toJson id :=
  ⟨id.parse?_toString, .str _⟩

end SurrealQuery
