/-!
Association lists kept in the order of their keys, each key once.
-/

namespace SurrealQuery.Sorted

variable {α β : Type}

/-- The entries stand in the order of their keys, each key once. -/
def IsSorted (entries : List (String × α)) : Prop :=
  entries.Pairwise fun a b => a.1 < b.1

/-- Order goes by the keys alone. -/
theorem isSorted_map {entries : List (String × α)} {f : α → β} :
    IsSorted (entries.map fun e => (e.1, f e.2)) ↔ IsSorted entries :=
  List.pairwise_map

theorem IsSorted.map {entries : List (String × α)} (h : IsSorted entries) (f : α → β) :
    IsSorted (entries.map fun e => (e.1, f e.2)) :=
  isSorted_map.2 h

/-- Puts a key in its place, with a new value if the key is there already. -/
def insert (k : String) (a : α) : List (String × α) → List (String × α)
  | [] => [(k, a)]
  | (k', a') :: rest =>
    if k < k' then (k, a) :: (k', a') :: rest
    else if k = k' then (k, a) :: rest
    else (k', a') :: insert k a rest

theorem mem_insert {k : String} {a : α} {entries : List (String × α)} {e : String × α}
    (h : e ∈ insert k a entries) : e = (k, a) ∨ e ∈ entries := by
  induction entries with
  | nil => exact .inl (List.mem_singleton.1 h)
  | cons e₀ rest ih =>
    rw [insert] at h
    split at h
    · exact List.mem_cons.1 h
    · split at h
      · exact (List.mem_cons.1 h).imp_right (List.mem_cons_of_mem _)
      · rcases List.mem_cons.1 h with rfl | h
        · exact .inr (List.mem_cons_self ..)
        · exact (ih h).imp_right (List.mem_cons_of_mem _)

theorem IsSorted.insert {entries : List (String × α)} (h : IsSorted entries) (k : String) (a : α) :
    IsSorted (insert k a entries) := by
  induction entries with
  | nil => exact List.pairwise_singleton _ _
  | cons e rest ih =>
    obtain ⟨hfirst, hrest⟩ := List.pairwise_cons.1 h
    rw [Sorted.insert]
    split
    · rename_i hlt
      refine List.pairwise_cons.2 ⟨fun e' he' => ?_, h⟩
      rcases List.mem_cons.1 he' with rfl | he'
      · exact hlt
      · exact String.lt_trans hlt (hfirst e' he')
    · rename_i hnlt
      split
      · rename_i heq
        subst heq
        exact List.pairwise_cons.2 ⟨hfirst, hrest⟩
      · rename_i hne
        have hlt : e.1 < k := Decidable.byContradiction fun hngt =>
          hne (String.le_antisymm (String.not_lt.1 hngt) (String.not_lt.1 hnlt))
        refine List.pairwise_cons.2 ⟨fun e' he' => ?_, ih hrest⟩
        rcases mem_insert he' with rfl | he'
        · exact hlt
        · exact hfirst e' he'

/-- Sorts a list by key; of several entries with one key the last one stays. -/
def ofList (entries : List (String × α)) : List (String × α) :=
  entries.foldl (fun sorted entry => insert entry.1 entry.2 sorted) []

theorem isSorted_ofList (entries : List (String × α)) : IsSorted (ofList entries) :=
  List.foldlRecOn entries _ .nil fun _ h e _ => h.insert e.1 e.2

end SurrealQuery.Sorted
