import SurrealQuery.Proofs.Inlining
import SurrealQuery.Proofs.Place
import SurrealQuery.Proofs.Quoting

/-!
# The object of a new record

The fields of one new record are written as an object with placeholders for its values. With the
texts of the values filled in it is a JSON object, and what is read from it are the fields, in order
(`content_reads_back`). So the statement that writes a record tells which record it is.
-/

namespace SurrealQuery

/-! ## Reading without a limit of its own -/

/-- Reads a text with room for a number of containers in each other. -/
def Json.parseWithin (room : Nat) (text : String) : Option Json := do
  let cs := text.toList
  let (j, rest) ← parseValue (2 * cs.length + 2) room cs
  if (skipBlanks rest).isEmpty then some j else none

theorem Json.parse_eq_parseWithin (text : String) :
    Json.parse text = Json.parseWithin Json.nestingLimit text :=
  rfl

/-- The object with the given members. -/
def Json.ofMembers (members : List (String × Value)) : Json :=
  .obj (members.map (Prod.map id Value.toJson))

theorem Json.ofMembers_injective : Function.Injective Json.ofMembers := by
  intro members members' h
  injection h with h
  exact (Function.injective_id.prodMap Value.toJson_injective).list_map h

/-- The text of the value of a binding. -/
def Binding.json (b : Binding) : String :=
  b.value.toJson.render

/-! ## The members of an object -/

namespace Clause

/-- The object of some fields. -/
def object (f : Fields) : Template :=
  .wrap "\x7b " (.join ", " (f.entries.map fun e =>
    .raw (Json.quote e.1 ++ " : ") ++ e.2.template)) " \x7d"

theorem content_eq_object {f : Fields} (h : f.isEmpty = false) :
    content f = [.raw "CONTENT " ++ object f] := by
  have htext (s : String) :
      "CONTENT \x7b " ++ s ++ " \x7d" = "CONTENT " ++ ("\x7b " ++ s ++ " \x7d") := by
    rw [← String.append_assoc, ← String.append_assoc]
    rfl
  rw [content_of_not_isEmpty h]
  unfold object Template.wrap
  rw [htext]
  rfl

theorem isBlank_space : ∀ c ∈ [' '], Json.isBlank c :=
  List.forall_mem_singleton.2 rfl

/-- A blank in front of every member and of the end, and on both sides of a colon. -/
def memberLayout : Json.MemberLayout where
  line := [' ']
  gap := [' ']
  space := [' ']
  close := [' ']
  value := Json.toChars
  isBlank_line := isBlank_space
  isBlank_gap := isBlank_space
  isBlank_space := isBlank_space
  isBlank_close := isBlank_space

/-- The text of a member. -/
def memberText (m : String × Json) : String :=
  Json.quote m.1 ++ " : " ++ m.2.render

theorem toList_memberText (m : String × Json) (rest : List Char) :
    (memberText m).toList ++ rest = memberLayout.member m.1 m.2 rest := by
  unfold memberText Json.quote Json.render
  simp only [String.toList_append, String.toList_ofList, List.append_assoc]
  rfl

theorem toList_commaTail_memberText (members : List (String × Json)) :
    (Text.commaTail (members.map memberText)).toList ++ [' ', '\x7d'] =
      memberLayout.tail members := by
  induction members with
  | nil => rfl
  | cons m members ih =>
    rw [List.map_cons, Text.commaTail, String.toList_append, String.toList_append,
      List.append_assoc, List.append_assoc, ih, toList_memberText]
    rfl

theorem reads_memberLayout {j : Json} (h : j.Writable) {room : Nat} (hdepth : j.depth ≤ room) :
    memberLayout.Reads room j := by
  intro fuel rest hfuel hrest
  have hread : j.ReadsBack .oneLine := h.readsBack
  have hvalue : memberLayout.value j = Json.Layout.oneLine.chars 0 j :=
    (Json.Layout.chars_oneLine 0 j).symm
  rw [hvalue] at hfuel ⊢
  exact hread hfuel hdepth hrest

/-- Members in this layout are read back, with room for the values and the object. -/
theorem parseWithin_members {members : List (String × Json)} (hne : members ≠ [])
    (h : ∀ m ∈ members, m.2.Writable) {room : Nat} (hdepth : (Json.obj members).depth ≤ room) :
    Json.parseWithin room ("\x7b " ++ Text.commaList (members.map memberText) ++ " \x7d") =
      some (.obj members) := by
  cases members with
  | nil => exact absurd rfl hne
  | cons m members =>
    obtain ⟨k, j⟩ := m
    obtain ⟨room, rfl⟩ : ∃ n, room = n + 1 := ⟨room - 1, by rw [Json.depth] at hdepth; omega⟩
    rw [Json.depth, Nat.add_le_add_iff_right] at hdepth
    have hchars :
        ("\x7b " ++ Text.commaList (((k, j) :: members).map memberText) ++ " \x7d").toList =
          memberLayout.object k j members := by
      rw [List.map_cons, Text.commaList, String.toList_append, String.toList_append,
        String.toList_append, List.append_assoc, List.append_assoc]
      exact congrArg (['\x7b', ' '] ++ ·)
        ((congrArg _ (toList_commaTail_memberText members)).trans (toList_memberText (k, j) _))
    have hreads : ∀ m ∈ (k, j) :: members, memberLayout.Reads room m.2 := fun m hm =>
      reads_memberLayout (h m hm) ((Json.depth_le_depthMembers hm).trans hdepth)
    have hread : Json.parseValue (2 * (memberLayout.object k j members).length + 2) (room + 1)
        (memberLayout.object k j members ++ []) = some (.obj ((k, j) :: members), []) :=
      memberLayout.parseValue_object hreads (Nat.le_add_right ..)
    rw [List.append_nil] at hread
    unfold Json.parseWithin
    rw [hchars]
    dsimp only
    rw [hread]
    rfl

end Clause

/-! ## Filling in the values -/

/-- One field or more, all of them literals under keys without placeholders. -/
structure Fields.IsRecord (f : Fields) : Prop where
  nonempty : f.isEmpty = false
  literal : f.IsLiteral
  plain : ∀ key ∈ f.keys, IsPlain key

theorem Fields.IsLiteral.exists_members {f : Fields} (h : f.IsLiteral) :
    ∃ members : List (String × Value), f.entries = members.map (Prod.map id .literal) := by
  obtain ⟨values, hvalues⟩ := Operand.IsLiteral.exists_values h
  refine ⟨f.keys.zip values, ?_⟩
  rw [← List.zip_map_right]
  exact List.zip_of_prod rfl hvalues

theorem Fields.IsRecord.complete {f : Fields} (h : f.IsRecord) : ∀ c ∈ f.parts, c.Complete := by
  intro c hc
  obtain ⟨⟨key, operand⟩, he, hc⟩ := List.mem_flatMap.1 hc
  rcases List.mem_cons.1 hc with rfl | hc
  · exact h.plain key (List.mem_map_of_mem he)
  · have hliteral : operand.IsLiteral := h.literal operand (List.mem_map_of_mem he)
    rw [hliteral.parts_eq] at hc
    cases hc

namespace Clause

variable {f g : Fields} {members : List (String × Value)}

theorem fill_object (ρ : Binding → String) (h : f.IsRecord)
    (hmembers : f.entries = members.map (Prod.map id .literal)) :
    (object f).fill ρ = "\x7b " ++ Text.commaList (members.map fun m =>
      Json.quote m.1 ++ " : " ++ ρ ⟨m.2, .query⟩) ++ " \x7d" := by
  have hentries := (respects_filled ρ).entries (fun key => Json.quote key ++ " : ") h.complete
    (fun _ h => (isPlain_jsonQuote h).append_glue (by decide))
    fun _ => closes_append _ (by decide)
  -- To fill in the object is to write it for the fields with their values inlined.
  have hfilled : Filled ρ (object f) (object (f.rewrite (inlining ρ))) :=
    (respects_filled ρ).wrap ((respects_filled ρ).fixed (by decide)) hentries (by decide)
      (by decide)
  have htext : (object f).fill ρ = (object (f.rewrite (inlining ρ))).text := by
    rw [hfilled.2]
    rfl
  rw [htext]
  unfold object
  rw [Template.text_wrap, Template.text_join_comma, Fields.entries_rewrite, hmembers, List.map_map,
    List.map_map, List.map_map]
  rfl

theorem bindings_object (hmembers : f.entries = members.map (Prod.map id .literal)) :
    (object f).bindings = members.map fun m => ⟨m.2, .query⟩ := by
  unfold object
  rw [Template.bindings_wrap, Template.bindings_join, hmembers, List.flatMap_map, List.flatMap_map]
  exact List.map_eq_flatMap.symm

/-- The object is read back, filled in with the texts of the values. -/
theorem parseWithin_fill_object (h : f.IsRecord)
    (hmembers : f.entries = members.map (Prod.map id .literal)) {room : Nat}
    (hdepth : (Json.ofMembers members).depth ≤ room) :
    Json.parseWithin room ((object f).fill Binding.json) = some (Json.ofMembers members) := by
  have htexts : (members.map fun m => Json.quote m.1 ++ " : " ++ Binding.json ⟨m.2, .query⟩) =
      (members.map (Prod.map id Value.toJson)).map memberText := by
    rw [List.map_map]
    rfl
  rw [fill_object Binding.json h hmembers, htexts]
  apply parseWithin_members _ _ hdepth
  · intro hnil
    have hnonempty := h.nonempty
    unfold Fields.isEmpty at hnonempty
    rw [hmembers, List.map_eq_nil_iff.1 hnil] at hnonempty
    cases hnonempty
  · intro m hm
    obtain ⟨m, -, rfl⟩ := List.mem_map.1 hm
    exact m.2.decodes.writable

/-- One object is the object of one record. -/
theorem object_injective (hf : f.IsRecord) (hg : g.IsRecord) (h : object f = object g) : f = g := by
  obtain ⟨members, hmembers⟩ := hf.literal.exists_members
  obtain ⟨members', hmembers'⟩ := hg.literal.exists_members
  -- The filled text is the same for both, and room for the deeper of them reads it as either.
  have hread := parseWithin_fill_object hf hmembers
    (Nat.le_max_left _ (Json.ofMembers members').depth)
  rw [h, parseWithin_fill_object hg hmembers' (Nat.le_max_right _ _)] at hread
  obtain rfl : members' = members := Json.ofMembers_injective (Option.some.inj hread)
  exact Fields.eq_of_entries (hmembers.trans hmembers'.symm)

end Clause

/-! ## Statements with an object -/

namespace Template

variable {s t u : Template}

theorem eq_of_text (htext : s.text = t.text) (hbindings : s.bindings = t.bindings) : s = t := by
  cases s
  cases t
  cases htext
  cases hbindings
  rfl

theorem append_left_cancel (h : s ++ t = s ++ u) : t = u := by
  apply eq_of_text
  · exact (String.append_right_inj _).1 (congrArg text h)
  · exact List.append_cancel_left (congrArg bindings h)

theorem append_right_cancel (h : s ++ u = t ++ u) : s = t := by
  apply eq_of_text
  · exact (String.append_left_inj _).1 (congrArg text h)
  · exact List.append_cancel_right (congrArg bindings h)

end Template

namespace Statement

variable {f g : Fields}

/-- A statement tells the record that it has between two texts that are the same for all. -/
theorem record_of_join_eq (hf : f.IsRecord) (hg : g.IsRecord) {head : String}
    {rest : List Template}
    (h : Template.join " " (.raw head :: (Clause.content f ++ rest)) =
      .join " " (.raw head :: (Clause.content g ++ rest))) : f = g := by
  rw [Clause.content_eq_object hf.nonempty, Clause.content_eq_object hg.nonempty,
    List.singleton_append, List.singleton_append, Template.join, Template.join, Template.joinTail,
    Template.joinTail] at h
  have hobject := Template.append_right_cancel (Template.append_left_cancel h)
  exact Clause.object_injective hf hg
    (Template.append_left_cancel (Template.append_left_cancel hobject))

/-- Whether a record can be created is not up to its fields. -/
theorem create_of_ok {settings : Settings} {q : Query} {s : Statement}
    (hs : create settings q f = .ok s) :
    ∃ head, ∀ fields, create settings q fields = .ok ⟨.create, .join " "
      (.raw head :: (Clause.content fields ++ Clause.options q.options))⟩ := by
  obtain ⟨⟨⟩, hcheck, hs⟩ := bind_eq_ok.1 hs
  obtain ⟨table, htable, -⟩ := bind_eq_ok.1 hs
  refine ⟨"CREATE " ++ table, fun fields => ?_⟩
  unfold create
  rw [hcheck, htable]
  rfl

theorem relate_of_ok {q : Query} {edge target : String} {s : Statement}
    (hs : relate q edge target f = .ok s) :
    ∃ head, ∀ fields, relate q edge target fields = .ok ⟨.relate, .join " "
      (.raw head :: (Clause.content fields ++ Clause.options q.options))⟩ := by
  obtain ⟨⟨⟩, hcheck, hs⟩ := bind_eq_ok.1 hs
  obtain ⟨source, hsource, hs⟩ := bind_eq_ok.1 hs
  obtain ⟨other, hother, -⟩ := bind_eq_ok.1 hs
  refine ⟨"RELATE " ++ source.toString ++ "->" ++ edge ++ "->" ++ other.toString,
    fun fields => ?_⟩
  unfold relate
  rw [hcheck, hsource, hother]
  rfl

/-- Two records have different statements, where all else is the same. -/
theorem exists_other {compile : Fields → Except CompileError Statement} {verb : Verb}
    {head : String} {rest : List Template} {s : Statement} (hf : f.IsRecord) (hg : g.IsRecord)
    (hne : f ≠ g) (hs : compile f = .ok s)
    (hcompile : ∀ fields, compile fields =
      .ok ⟨verb, .join " " (.raw head :: (Clause.content fields ++ rest))⟩) :
    ∃ s', compile g = .ok s' ∧
      ¬(s.template.text = s'.template.text ∧ s.template.bindings = s'.template.bindings) := by
  rw [hcompile] at hs
  cases hs
  refine ⟨_, hcompile g, ?_⟩
  rintro ⟨htext, hbindings⟩
  exact hne (record_of_join_eq hf hg (Template.eq_of_text htext hbindings))

end Statement

/-- **The object of a new record is the record.** Let the fields be literals under keys without
placeholders. What is written for them, with the text of the n-th value in the place of the n-th
placeholder, is read as a JSON object whose members are the fields in order, given room for the
values. So where one such record is created or put on an edge, another one is too, with another text
or other bindings. -/
theorem content_reads_back (f : Fields) (hf : f.IsRecord) :
    ∃ (object : Template) (members : List (String × Value)),
      Clause.content f = [.raw "CONTENT " ++ object] ∧
      f.entries = members.map (Prod.map id .literal) ∧
      object.bindings = members.map (fun m => ⟨m.2, .query⟩) ∧
      (∀ room, (Json.ofMembers members).depth ≤ room →
        Json.parseWithin room (object.fill Binding.json) = some (Json.ofMembers members)) ∧
      ∀ g : Fields, g.IsRecord → f ≠ g →
        (∀ settings q s, Statement.create settings q f = .ok s →
          ∃ s', Statement.create settings q g = .ok s' ∧
            ¬(s.template.text = s'.template.text ∧ s.template.bindings = s'.template.bindings)) ∧
        ∀ q edge target s, Statement.relate q edge target f = .ok s →
          ∃ s', Statement.relate q edge target g = .ok s' ∧
            ¬(s.template.text = s'.template.text ∧ s.template.bindings = s'.template.bindings) := by
  obtain ⟨members, hmembers⟩ := hf.literal.exists_members
  refine ⟨Clause.object f, members, Clause.content_eq_object hf.nonempty, hmembers,
    Clause.bindings_object hmembers, ?_, ?_⟩
  · intro room hdepth
    exact Clause.parseWithin_fill_object hf hmembers hdepth
  · intro g hg hne
    constructor
    · intro settings q s hs
      obtain ⟨head, hcreate⟩ := Statement.create_of_ok hs
      exact Statement.exists_other hf hg hne hs hcreate
    · intro q edge target s hs
      obtain ⟨head, hrelate⟩ := Statement.relate_of_ok hs
      exact Statement.exists_other hf hg hne hs hrelate

/-- A record with a field of any other name than its last. -/
def labelledNote (key : String) (h : key ≠ "n") : Fields where
  entries := [(key, .literal (.array [.int 1, .text "$?"])), ("n", .literal .null)]
  nodup := by simp [h]

theorem content_reads_back_quotes :
    let note := labelledNote "\"\\\n\x7b : " (by decide)
    let other := labelledNote "\\\"\n\x7b : " (by decide)
    note.IsRecord ∧ other.IsRecord ∧
      (∃ object, Clause.content note = [.raw "CONTENT " ++ object] ∧
        Json.parse (object.fill Binding.json) =
          some (.obj [("\"\\\n\x7b : ", .arr [.num (.int 1), .str "$?"]), ("n", .null)])) ∧
      ∃ s s', Statement.create {} { target := "notes" } note = .ok s ∧
        Statement.create {} { target := "notes" } other = .ok s' ∧
        ¬(s.template.text = s'.template.text ∧ s.template.bindings = s'.template.bindings) := by
  intro note other
  have hnote : note.IsRecord := ⟨rfl, by decide, by decide⟩
  have hother : other.IsRecord := ⟨rfl, by decide, by decide⟩
  obtain ⟨object, members, hcontent, hmembers, -, hparse, hne⟩ := content_reads_back note hnote
  refine ⟨hnote, hother, ⟨object, hcontent, ?_⟩, ?_⟩
  · have hliteral : Function.Injective (Prod.map id Operand.literal : String × Value → _) :=
      Function.injective_id.prodMap fun _ _ => Operand.literal.inj
    obtain rfl : [("\"\\\n\x7b : ", .array [.int 1, .text "$?"]), ("n", .null)] = members :=
      hliteral.list_map hmembers
    rw [Json.parse_eq_parseWithin, hparse _ (by decide)]
    rfl
  · have hkeys : note ≠ other := fun h => absurd (congrArg Fields.keys h) (by decide)
    obtain ⟨s', hs', hdiffer⟩ := (hne other hother hkeys).1 {} { target := "notes" } _ rfl
    exact ⟨_, s', rfl, hs', hdiffer⟩

end SurrealQuery
