import SurrealQuery.Json.Reader
import SurrealQuery.Proofs.Json.Text

/-!
# Decoding

One law for each reader: a reader gives back what was written for it (`Decodes`), so that it does so
from the text as well (`Decodes.decode`).
-/

namespace SurrealQuery

/-! ## Lists in order -/

namespace Sorted

variable {α : Type}

theorem insert_of_lt {k : String} {entries : List (String × α)} (h : ∀ e ∈ entries, e.1 < k)
    (a : α) : insert k a entries = entries ++ [(k, a)] := by
  induction entries with
  | nil => rfl
  | cons e entries ih =>
    have hlt : e.1 < k := h e (List.mem_cons_self ..)
    have hnot : ¬k < e.1 := String.lt_asymm hlt
    have hne : k ≠ e.1 := fun heq => String.lt_irrefl k (heq ▸ hlt)
    rw [insert, if_neg hnot, if_neg hne, ih fun e he => h e (List.mem_cons_of_mem _ he)]
    rfl

theorem foldl_insert {sorted entries : List (String × α)} (h : IsSorted (sorted ++ entries)) :
    entries.foldl (fun sorted entry => insert entry.1 entry.2 sorted) sorted =
      sorted ++ entries := by
  induction entries generalizing sorted with
  | nil => rw [List.foldl_nil, List.append_nil]
  | cons e entries ih =>
    have hlt : ∀ e' ∈ sorted, e'.1 < e.1 := fun e' he' =>
      (List.pairwise_append.1 h).2.2 e' he' e (List.mem_cons_self ..)
    rw [List.foldl_cons, insert_of_lt hlt, ih, List.append_assoc]
    · rfl
    · rw [List.append_assoc]
      exact h

/-- A list in order is as it is sorted. -/
theorem ofList_of_isSorted {entries : List (String × α)} (h : IsSorted entries) :
    ofList entries = entries :=
  foldl_insert h

end Sorted

namespace Json

variable {α : Type} {read : Json → Option α} {toJson : α → Json}

/-- A tree that can be written, and that a reader reads as a given value. -/
structure Decodes (read : Json → Option α) (j : Json) (a : α) : Prop where
  read_eq : read j = some a
  writable : j.Writable

theorem Decodes.decode {j : Json} {a : α} (h : Decodes read j a) (hdepth : j.depth ≤ nestingLimit) :
    Json.decode read j.render = some a := by
  unfold Json.decode
  rw [h.writable.parse_render hdepth]
  exact h.read_eq

theorem Decodes.required {j : Json} {a : α} (h : Decodes read j a) :
    Json.required read (some j) = some a :=
  h.read_eq

theorem Decodes.withDefault {j : Json} {a : α} (h : Decodes read j a) (default : α) :
    Json.withDefault default read (some j) = some a :=
  h.read_eq

/-! ## Plain values -/

theorem decodes_bool (b : Bool) : Decodes bool? (.bool b) b :=
  ⟨rfl, .bool b⟩

theorem decodes_str (s : String) : Decodes str? (.str s) s :=
  ⟨rfl, .str s⟩

theorem decodes_uint64 (n : UInt64) : Decodes uint64? (ofNat n.toNat) n := by
  have hlt : n.toNat < 0x10000000000000000 := n.toNat_lt
  refine ⟨?_, .int (by omega) (by omega)⟩
  unfold uint64? ofNat int?
  rw [Option.bind_eq_bind, Option.bind_some, if_pos (by omega), Int.toNat_natCast,
    UInt64.ofNat_toNat]

theorem decodes_int64 (n : Int64) : Decodes int64? (.num (.int n.toInt)) n := by
  have hlow : -0x8000000000000000 ≤ n.toInt := n.le_toInt
  have hhigh : n.toInt < 0x8000000000000000 := n.toInt_lt
  refine ⟨?_, .int hlow (by omega)⟩
  unfold int64? int?
  rw [Option.bind_eq_bind, Option.bind_some, if_pos ⟨hlow, hhigh⟩, Int64.ofInt_toInt]

theorem decodes_list {as : List α} (h : ∀ a ∈ as, Decodes read (toJson a) a) :
    Decodes (list? read) (ofList toJson as) as := by
  refine ⟨?_, .arr fun j hj => ?_⟩
  · show (as.map toJson).mapM read = _
    induction as with
    | nil => rfl
    | cons a as ih =>
      rw [List.map_cons, List.mapM_cons, (h a (List.mem_cons_self ..)).read_eq,
        ih fun a ha => h a (List.mem_cons_of_mem _ ha)]
      rfl
  · obtain ⟨a, ha, rfl⟩ := List.mem_map.1 hj
    exact (h a ha).writable

/-- An optional value is told from `null`, which nothing else is written as. -/
theorem decodes_nullable (hnull : read .null = none) {o : Option α}
    (h : ∀ a ∈ o, Decodes read (toJson a) a) :
    Decodes (nullable? read) (ofOption toJson o) o := by
  cases o with
  | none => exact ⟨rfl, .null⟩
  | some a =>
    have ha : Decodes read (toJson a) a := h a rfl
    refine ⟨?_, ha.writable⟩
    show nullable? read (toJson a) = _
    unfold nullable?
    split
    · rename_i heq
      rw [heq] at ha
      cases hnull.symm.trans ha.read_eq
    · rw [ha.read_eq]
      rfl

theorem decodes_word {origin : Origin} {words : List (String × α)} {s : String} {a : α}
    (h : words.lookup s = some a) : Decodes (word? origin words) (.str s) a :=
  ⟨h, .str s⟩

/-! ## Records -/

theorem Writable.nil : (Json.obj []).Writable :=
  .obj (List.forall_mem_nil _)

theorem Writable.cons {k : String} {j : Json} {members : List (String × Json)} (hj : j.Writable)
    (hmembers : (Json.obj members).Writable) : (Json.obj ((k, j) :: members)).Writable := by
  cases hmembers with
  | obj h => exact .obj (List.forall_mem_cons.2 ⟨hj, h⟩)

/-- A record with each field once, wherever it stands. -/
theorem fields?_of_nodup {names : List String} {members : List (String × Json)}
    (hnodup : (members.map Prod.fst).Nodup) (hnames : ∀ m ∈ members, m.1 ∈ names) (isOpen : Bool) :
    fields? names isOpen (.obj members) = some (names.map (members.lookup ·)) := by
  have honce : names.all (fun name => members.countP (·.1 == name) ≤ 1) = true := by
    rw [List.all_eq_true]
    intro name _
    have hcount := List.nodup_iff_count.1 hnodup name
    rw [List.count_eq_countP, List.countP_map] at hcount
    exact decide_eq_true hcount
  have hknown : members.all (names.contains ·.1) = true := by
    rw [List.all_eq_true]
    intro m hm
    exact List.contains_iff_mem.2 (hnames m hm)
  unfold fields?
  dsimp only
  rw [honce, hknown, Bool.or_true, Bool.and_true, if_pos rfl]

theorem lookup_of_nodup {members : List (String × Json)} (h : (members.map Prod.fst).Nodup) :
    (members.map Prod.fst).map (members.lookup ·) = members.map fun m => some m.2 := by
  induction members with
  | nil => rfl
  | cons m members ih =>
    obtain ⟨hm, hmembers⟩ := List.nodup_cons.1 h
    have hrest : (members.map Prod.fst).map ((m :: members).lookup ·) =
        (members.map Prod.fst).map (members.lookup ·) := by
      refine List.map_congr_left fun k hk => ?_
      have hne : (k == m.1) = false := beq_eq_false_iff_ne.2 fun heq => hm (heq ▸ hk)
      rw [List.lookup_cons, hne]
    rw [List.map_cons, List.map_cons, hrest, ih hmembers, List.lookup_cons, beq_self_eq_true]
    rfl

/-- A record that was written with all its fields, in order. -/
theorem fields?_obj (names : List String) {members : List (String × Json)}
    (hnames : members.map Prod.fst = names) (hnodup : names.Nodup) (isOpen : Bool) :
    fields? names isOpen (.obj members) = some (members.map fun m => some m.2) := by
  subst hnames
  rw [fields?_of_nodup hnodup (fun m hm => List.mem_map_of_mem hm), lookup_of_nodup hnodup]

/-- A key that stands in front and nowhere else. -/
theorem takeKey_cons {key : String} {members : List (String × Json)}
    (h : key ∉ members.map Prod.fst) (j : Json) :
    takeKey key ((key, j) :: members) = ([j], members) := by
  have hother : ∀ m ∈ members, m.1 ≠ key := by
    rintro m hm rfl
    exact h (List.mem_map_of_mem hm)
  have hnone : members.filter (·.1 == key) = [] :=
    List.filter_eq_nil_iff.2 fun m hm => by simpa using hother m hm
  have hall : members.filter (·.1 != key) = members :=
    List.filter_eq_self.2 fun m hm => by simpa using hother m hm
  simp [takeKey, hnone, hall]

theorem legibleItems_eq_all (items : List Json) : legibleItems items = items.all legible := by
  induction items with
  | nil => rfl
  | cons j items ih => rw [legibleItems, ih, List.all_cons]

theorem legibleMembers_eq_all (members : List (String × Json)) :
    legibleMembers members = members.all (·.2.legible) := by
  induction members with
  | nil => rfl
  | cons m members ih => rw [legibleMembers, ih, List.all_cons]

/-- Whatever can be written denotes something. -/
theorem Writable.legible {j : Json} (h : j.Writable) : j.legible = true := by
  induction h with
  | arr _ ih => rw [Json.legible, legibleItems_eq_all, List.all_eq_true.2 ih]
  | obj _ ih => rw [Json.legible, legibleMembers_eq_all, List.all_eq_true.2 ih]
  | _ => rfl

/-- A tag that was written in front of the fields. -/
theorem tagged?_obj {origin : Origin} {tag variant : String} {variants : List String}
    {members : List (String × Json)} (htag : tag ∉ members.map Prod.fst)
    (hvariant : variant ∈ variants) (hwritable : (Json.obj members).Writable) :
    tagged? origin tag variants (.obj ((tag, .str variant) :: members)) =
      some (variant, .obj members) := by
  have hlegible : (Json.obj ((tag, .str variant) :: members)).legible = true :=
    Writable.legible (.cons (.str variant) hwritable)
  unfold tagged?
  rw [if_pos hlegible]
  dsimp only
  rw [takeKey_cons htag]
  simp [variant?, hvariant]

/-! ## Merged trees -/

theorem mergedItems_eq_map (items : List Json) : mergedItems items = items.map merged := by
  induction items with
  | nil => rfl
  | cons j items ih => rw [mergedItems, ih, List.map_cons]

theorem mergedMembers_eq_map (members : List (String × Json)) :
    mergedMembers members = members.map fun m => (m.1, m.2.merged) := by
  induction members with
  | nil => rfl
  | cons m members ih => rw [mergedMembers, ih, List.map_cons]

end Json

end SurrealQuery
