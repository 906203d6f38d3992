import SurrealQuery.Json.Parser
import SurrealQuery.Json.Printer
import SurrealQuery.Proofs.Double.Text

/-!
# Trees in text

A tree is read from its text (`parse_render`), if all its integers have 64 bits and its containers
are not nested too deep. The text may be on one line or have an item a line: a `Layout` says which
blanks stand between the tokens, and reading skips them. So no two trees have the same lines
(`renderPretty_inj`).
-/

namespace SurrealQuery.Json

/-! ## String literals -/

namespace Quoted

/-- What is read for a character of a literal. -/
def item (c : Char) : Item :=
  if c.toNat < 0x20 ∧ c ≠ '\n' ∧ c ≠ '\r' ∧ c ≠ '\t' ∧ c ≠ Char.ofNat 8 ∧ c ≠ Char.ofNat 12 then
    .unit c.toNat
  else .char c

theorem hexUnit?_hexDigit : ∀ n < 0x20,
    hexUnit? '0' '0' (hexDigit (n / 16)) (hexDigit (n % 16)) = some n := by
  decide

theorem scan_plain {c : Char} (hcontrol : ¬c.toNat < 0x20) (hquote : c ≠ '"') (hslash : c ≠ '\\')
    (rest : List Char) :
    scan (c :: rest) = (scan rest).map fun (items, rest) => (.char c :: items, rest) := by
  rw [scan.eq_def]
  split
  · rename_i h
    cases h
  · rename_i h
    exact absurd (List.cons.inj h).1 hquote
  · rename_i h
    exact absurd (List.cons.inj h).1 hslash
  · rename_i h
    exact absurd (List.cons.inj h).1 hslash
  · rename_i h
    cases h
    rw [if_neg (not_or.2 ⟨hcontrol, hslash⟩)]
    cases scan rest <;> rfl

theorem scan_letter {c e : Char} (he : e ≠ 'u') (hc : unescape? e = some c) (rest : List Char) :
    scan ('\\' :: e :: rest) = (scan rest).map fun (items, rest) => (.char c :: items, rest) := by
  rw [scan.eq_4 e rest fun _ _ _ _ _ h => absurd h he, hc]
  cases scan rest <;> rfl

theorem scan_unit {c : Char} (hcontrol : c.toNat < 0x20) (rest : List Char) :
    scan ('\\' :: 'u' :: '0' :: '0' :: hexDigit (c.toNat / 16) :: hexDigit (c.toNat % 16) :: rest) =
      (scan rest).map fun (items, rest) => (.unit c.toNat :: items, rest) := by
  show (hexUnit? _ _ _ _).bind _ = _
  rw [hexUnit?_hexDigit c.toNat hcontrol]
  cases scan rest <;> rfl

theorem scan_escape (c : Char) (rest : List Char) :
    scan (escape c ++ rest) = (scan rest).map fun (items, rest) => (item c :: items, rest) := by
  by_cases hletter : c = '"' ∨ c = '\\' ∨ c = '\n' ∨ c = '\r' ∨ c = '\t' ∨ c = Char.ofNat 8 ∨
      c = Char.ofNat 12
  · rcases hletter with rfl | rfl | rfl | rfl | rfl | rfl | rfl <;>
      exact scan_letter (by decide) rfl rest
  · simp only [not_or] at hletter
    obtain ⟨hquote, hslash, hline, hreturn, htab, hback, hfeed⟩ := hletter
    unfold escape item
    simp only [hquote, hslash, hline, hreturn, htab, hback, hfeed, if_false, ne_eq,
      not_false_eq_true, and_true]
    split
    · exact scan_unit ‹_› rest
    · exact scan_plain ‹_› hquote hslash rest

theorem scan_flatMap_escape (cs rest : List Char) :
    scan (cs.flatMap escape ++ '"' :: rest) = some (cs.map item, rest) := by
  induction cs with
  | nil => rfl
  | cons c cs ih => rw [List.flatMap_cons, List.append_assoc, scan_escape, ih]; rfl

theorem spell_map_item (cs : List Char) : spell (cs.map item) = some cs := by
  induction cs with
  | nil => rfl
  | cons c cs ih =>
    rw [List.map_cons, item]
    split
    · rename_i hc
      have hlow : ¬(0xD800 ≤ c.toNat ∧ c.toNat < 0xDC00) := by omega
      have hhigh : ¬(0xDC00 ≤ c.toNat ∧ c.toNat < 0xE000) := by omega
      unfold spell
      rw [if_neg hlow, if_neg hhigh, ih, Char.ofNat_toNat]
      rfl
    · unfold spell
      rw [ih]
      rfl

end Quoted

/-- A text is read from its literal. -/
theorem parseString_encode (s : String) (rest : List Char) :
    parseString (s.toList.flatMap Quoted.escape ++ '"' :: rest) = some (some s, rest) := by
  unfold parseString
  rw [Quoted.scan_flatMap_escape]
  show some (Option.map _ (Quoted.spell _), rest) = _
  rw [Quoted.spell_map_item]
  simp

/-! ## Blanks -/

def isBlank (c : Char) : Bool :=
  c = ' ' ∨ c = '\t' ∨ c = '\n' ∨ c = '\r'

theorem skipBlanks_cons {c : Char} (hc : ¬isBlank c) (cs : List Char) :
    skipBlanks (c :: cs) = c :: cs := by
  unfold skipBlanks
  exact List.dropWhile_cons_of_neg hc

section Skipping

variable {bs : List Char} (hbs : ∀ c ∈ bs, isBlank c) (fuel room : Nat) (cs : List Char)
include hbs

theorem skipBlanks_append : skipBlanks (bs ++ cs) = skipBlanks cs := by
  unfold skipBlanks
  exact List.dropWhile_append_of_pos hbs

theorem parseValue_append : parseValue fuel room (bs ++ cs) = parseValue fuel room cs := by
  cases fuel with
  | zero => rfl
  | succ fuel => rw [parseValue, parseValue, skipBlanks_append hbs]

theorem parseItems_append : parseItems fuel room (bs ++ cs) = parseItems fuel room cs := by
  cases fuel with
  | zero => rfl
  | succ fuel => rw [parseItems, parseItems, parseValue_append hbs]

theorem parseMembers_append : parseMembers fuel room (bs ++ cs) = parseMembers fuel room cs := by
  cases fuel with
  | zero => rfl
  | succ fuel => rw [parseMembers, parseMembers, skipBlanks_append hbs]

end Skipping

/-! ## Trees that can be written -/

/-- Trees with a text of their own: every part denotes something, and every integer has 64 bits. -/
inductive Writable : Json → Prop
  | null : Writable .null
  | bool (b : Bool) : Writable (.bool b)
  | int {n : Int} (hlow : -0x8000000000000000 ≤ n) (hhigh : n < 0x10000000000000000) :
    Writable (.num (.int n))
  | float (x : Double) : Writable (.num (.float x))
  | str (s : String) : Writable (.str s)
  | arr {items : List Json} (h : ∀ j ∈ items, Writable j) : Writable (.arr items)
  | obj {members : List (String × Json)} (h : ∀ m ∈ members, Writable m.2) : Writable (.obj members)

/-- A number that can be written is read as it is. -/
theorem scan_number {n : Number} (h : Writable (.num n)) {rest : List Char}
    (hrest : Numeral.Ends rest) :
    ∃ numeral, Numeral.scan (n.toChars ++ rest) = some (numeral, rest) ∧
      numeral.number? = some n := by
  cases h with
  | int hlow hhigh => exact ⟨_, Numeral.scan_intChars _ hrest, Numeral.number?_ofInt hlow hhigh⟩
  | float x => exact x.scan_double hrest

theorem not_isBlank {c : Char} (hc : c = '-' ∨ c.isDigit) : ¬isBlank c := by
  unfold isBlank
  rw [decide_eq_true_iff]
  rintro (rfl | rfl | rfl | rfl) <;> exact absurd hc (by decide)

theorem exists_number (n : Number) : ∃ c cs, n.toChars = c :: cs ∧ (c = '-' ∨ c.isDigit) := by
  cases n with
  | int n => exact Numeral.exists_intChars n
  | float x => exact x.exists_toChars

/-! ## Layouts -/

theorem toChars_arr_cons (j : Json) (items : List Json) :
    (Json.arr (j :: items)).toChars = '[' :: (j.toChars ++ restItems items) :=
  rfl

theorem toChars_obj_cons (k : String) (j : Json) (members : List (String × Json)) :
    (Json.obj ((k, j) :: members)).toChars =
      '\x7b' :: (Quoted.encode k.toList ++ ':' :: (j.toChars ++ restMembers members)) :=
  rfl

/-- Where blanks stand in the text of a tree: in front of an item and of the end of its container,
by level, and behind the colon of a member. -/
structure Layout where
  line : Nat → List Char
  space : List Char
  isBlank_line (level : Nat) : ∀ c ∈ line level, isBlank c
  isBlank_space : ∀ c ∈ space, isBlank c

namespace Layout

mutual

/-- The text of a tree in a layout. -/
def chars (l : Layout) (level : Nat) : Json → List Char
  | .arr (j :: rest) =>
    '[' :: (l.line (level + 1) ++ (l.chars (level + 1) j ++ l.items level rest))
  | .obj ((k, j) :: rest) =>
    '\x7b' :: (l.line (level + 1) ++ (Quoted.encode k.toList ++
      ':' :: (l.space ++ (l.chars (level + 1) j ++ l.members level rest))))
  | j => j.toChars

/-- The items after the first, up to the end of their array. -/
def items (l : Layout) (level : Nat) : List Json → List Char
  | [] => l.line level ++ [']']
  | j :: rest => ',' :: (l.line (level + 1) ++ (l.chars (level + 1) j ++ l.items level rest))

/-- The members after the first, up to the end of their object. -/
def members (l : Layout) (level : Nat) : List (String × Json) → List Char
  | [] => l.line level ++ ['\x7d']
  | (k, j) :: rest =>
    ',' :: (l.line (level + 1) ++ (Quoted.encode k.toList ++
      ':' :: (l.space ++ (l.chars (level + 1) j ++ l.members level rest))))

end

def oneLine : Layout where
  line _ := []
  space := []
  isBlank_line _ := List.forall_mem_nil _
  isBlank_space := List.forall_mem_nil _

/-- An item a line. -/
def indented : Layout where
  line := newLine
  space := [' ']
  isBlank_line level := by
    refine List.forall_mem_cons.2 ⟨rfl, fun c hc => ?_⟩
    rw [List.eq_of_mem_replicate hc]
    rfl
  isBlank_space := List.forall_mem_singleton.2 rfl

mutual

theorem chars_oneLine (level : Nat) : ∀ j : Json, oneLine.chars level j = j.toChars
  | .arr (j :: rest) => by
    rw [chars, toChars_arr_cons, chars_oneLine (level + 1) j, items_oneLine level rest]
    rfl
  | .obj ((k, j) :: rest) => by
    rw [chars, toChars_obj_cons, chars_oneLine (level + 1) j, members_oneLine level rest]
    rfl
  | .arr [] | .obj [] | .null | .bool _ | .num _ | .str _ | .unreadable => rfl

theorem items_oneLine (level : Nat) : ∀ rest : List Json, oneLine.items level rest = restItems rest
  | [] => rfl
  | j :: rest => by
    rw [items, restItems, chars_oneLine (level + 1) j, items_oneLine level rest]
    rfl

theorem members_oneLine (level : Nat) :
    ∀ rest : List (String × Json), oneLine.members level rest = restMembers rest
  | [] => rfl
  | (k, j) :: rest => by
    rw [members, restMembers, chars_oneLine (level + 1) j, members_oneLine level rest]
    rfl

end

mutual

theorem chars_indented (level : Nat) : ∀ j : Json, indented.chars level j = j.prettyChars level
  | .arr (j :: rest) => by
    rw [chars, prettyChars, chars_indented (level + 1) j, items_indented level rest]
    rfl
  | .obj ((k, j) :: rest) => by
    rw [chars, prettyChars, chars_indented (level + 1) j, members_indented level rest]
    rfl
  | .arr [] | .obj [] | .null | .bool _ | .num _ | .str _ | .unreadable => rfl

theorem items_indented (level : Nat) :
    ∀ rest : List Json, indented.items level rest = prettyItems level rest
  | [] => rfl
  | j :: rest => by
    rw [items, prettyItems, chars_indented (level + 1) j, items_indented level rest]
    rfl

theorem members_indented (level : Nat) :
    ∀ rest : List (String × Json), indented.members level rest = prettyMembers level rest
  | [] => rfl
  | (k, j) :: rest => by
    rw [members, prettyMembers, chars_indented (level + 1) j, members_indented level rest]
    rfl

end

variable (l : Layout) (level : Nat)

theorem chars_num (n : Number) : l.chars level (.num n) = n.toChars :=
  rfl

theorem chars_arr_cons (j : Json) (items : List Json) :
    l.chars level (.arr (j :: items)) =
      '[' :: (l.line (level + 1) ++ (l.chars (level + 1) j ++ l.items level items)) :=
  rfl

/-- The first character of a tree tells it from a blank and from the end of an array. -/
theorem exists_chars (j : Json) :
    ∃ c cs, l.chars level j = c :: cs ∧ ¬isBlank c ∧ c ≠ ']' := by
  cases j with
  | null => exact ⟨_, _, rfl, by decide, by decide⟩
  | bool b => cases b <;> exact ⟨_, _, rfl, by decide, by decide⟩
  | num n =>
    obtain ⟨c, cs, hcs, hc⟩ := exists_number n
    refine ⟨c, cs, by rw [chars_num, hcs], not_isBlank hc, ?_⟩
    rintro rfl
    exact absurd hc (by decide)
  | str s => exact ⟨_, _, rfl, by decide, by decide⟩
  | arr items => cases items <;> exact ⟨_, _, rfl, by decide, by decide⟩
  | obj members => cases members <;> exact ⟨_, _, rfl, by decide, by decide⟩
  | unreadable => exact ⟨_, _, rfl, by decide, by decide⟩

end Layout

/-! ## One value -/

variable {fuel room : Nat} {rest : List Char}

theorem parseValue_number {n : Number} (h : Writable (.num n)) (hrest : Numeral.Ends rest) :
    parseValue (fuel + 1) room (n.toChars ++ rest) = some (.num n, rest) := by
  obtain ⟨numeral, hscan, hnumber⟩ := scan_number h hrest
  obtain ⟨c, cs, hcs, hc⟩ := exists_number n
  rw [hcs, List.cons_append] at hscan ⊢
  rw [parseValue, skipBlanks_cons (not_isBlank hc)]
  split
  case h_7 =>
    rw [hscan]
    show some (numeral.number?.elim _ _, rest) = _
    rw [hnumber]
    rfl
  all_goals
    rename_i h
    obtain ⟨rfl, -⟩ := List.cons.inj h
    exact absurd hc (by decide)

theorem parseValue_string (s : String) :
    parseValue (fuel + 1) room (Quoted.encode s.toList ++ rest) = some (.str s, rest) := by
  have hstring := parseString_encode s rest
  unfold Quoted.encode
  rw [List.cons_append, List.append_assoc, parseValue, skipBlanks_cons (by decide)]
  show (parseString _).bind _ = _
  rw [List.singleton_append, hstring]
  rfl

theorem parseValue_items {bs : List Char} (hbs : ∀ c ∈ bs, isBlank c) {c : Char}
    (hblank : ¬isBlank c) (hclose : c ≠ ']') (cs : List Char) :
    parseValue (fuel + 1) room ('[' :: (bs ++ c :: cs)) =
      (parseItems fuel (room - 1) (c :: cs)).map fun (items, rest) =>
        (arrayOf room items, rest) := by
  rw [parseValue, skipBlanks_cons (by decide)]
  split
  case h_5 =>
    rename_i h
    cases h
    rw [skipBlanks_append hbs, skipBlanks_cons hblank]
    split
    · rename_i h
      exact absurd (List.cons.inj h).1 hclose
    · cases parseItems fuel (room - 1) (c :: cs) <;> rfl
  case h_7 =>
    rename_i h _
    exact absurd rfl (h _)
  all_goals
    rename_i h
    cases h

theorem parseValue_members {bs : List Char} (hbs : ∀ c ∈ bs, isBlank c) (cs : List Char) :
    parseValue (fuel + 1) room ('\x7b' :: (bs ++ '"' :: cs)) =
      (parseMembers fuel (room - 1) ('"' :: cs)).map fun (members, rest) =>
        (objectOf room members, rest) := by
  rw [parseValue, skipBlanks_cons (by decide)]
  split
  case h_6 =>
    rename_i h
    cases h
    rw [skipBlanks_append hbs, skipBlanks_cons (by decide)]
    show (parseMembers fuel (room - 1) ('"' :: cs)).bind _ = _
    cases parseMembers fuel (room - 1) ('"' :: cs) <;> rfl
  case h_7 =>
    rename_i h
    exact absurd rfl (h _)
  all_goals
    rename_i h
    cases h

/-- What it takes to read a tree from its text in a layout, whatever follows. -/
def ReadsBack (l : Layout) (j : Json) : Prop :=
  ∀ {level fuel room : Nat} {rest : List Char}, 2 * (l.chars level j).length ≤ fuel →
    j.depth ≤ room → Numeral.Ends rest →
      parseValue fuel room (l.chars level j ++ rest) = some (j, rest)

/-! ## Items and members -/

theorem ends_cons {c : Char} (hc : c = ',' ∨ c = ']' ∨ c = '\x7d') : Numeral.Ends (c :: rest) := by
  rintro _ ⟨⟩
  rcases hc with rfl | rfl | rfl <;> decide

theorem ends_append {bs : List Char} (hbs : ∀ c ∈ bs, isBlank c) (hrest : Numeral.Ends rest) :
    Numeral.Ends (bs ++ rest) := by
  cases bs with
  | nil => exact hrest
  | cons c bs =>
    have hc : isBlank c := hbs c (List.mem_cons_self ..)
    unfold isBlank at hc
    rw [decide_eq_true_iff] at hc
    rintro _ ⟨⟩
    rcases hc with rfl | rfl | rfl | rfl <;> decide

variable {l : Layout} {level : Nat}

/-- The items of an array, from the first one to the end of the array. -/
theorem parseItems_chars {j : Json} {items : List Json} (h : ∀ i ∈ j :: items, i.ReadsBack l)
    (hfuel : 2 * (l.chars (level + 1) j ++ l.items level items).length ≤ fuel)
    (hdepth : ∀ i ∈ j :: items, i.depth ≤ room) :
    parseItems fuel room (l.chars (level + 1) j ++ (l.items level items ++ rest)) =
      some (j :: items, rest) := by
  induction items generalizing j fuel with
  | nil =>
    rw [Layout.items, List.length_append, List.length_append, List.length_singleton] at hfuel
    obtain ⟨fuel, rfl⟩ : ∃ n, fuel = n + 1 := ⟨fuel - 1, by omega⟩
    have hread : j.ReadsBack l := h j (List.mem_cons_self ..)
    have hj : parseValue fuel room (l.chars (level + 1) j ++ (l.line level ++ ']' :: rest)) =
        some (j, l.line level ++ ']' :: rest) :=
      hread (by omega) (hdepth j (List.mem_cons_self ..))
        (ends_append (l.isBlank_line level) (ends_cons (by decide)))
    rw [Layout.items, List.append_assoc, List.singleton_append, parseItems, hj]
    dsimp only [Option.bind_eq_bind, Option.bind_some]
    rw [skipBlanks_append (l.isBlank_line level), skipBlanks_cons (by decide)]
    rfl
  | cons i items ih =>
    rw [Layout.items, List.length_append, List.length_cons, List.length_append] at hfuel
    obtain ⟨fuel, rfl⟩ : ∃ n, fuel = n + 1 := ⟨fuel - 1, by omega⟩
    have hread : j.ReadsBack l := h j (List.mem_cons_self ..)
    have hj (next : List Char) : parseValue fuel room (l.chars (level + 1) j ++ ',' :: next) =
        some (j, ',' :: next) :=
      hread (by omega) (hdepth j (List.mem_cons_self ..)) (ends_cons (by decide))
    have hitems : parseItems fuel room (l.chars (level + 1) i ++ (l.items level items ++ rest)) =
        some (i :: items, rest) :=
      ih (fun _ hi => h _ (List.mem_cons_of_mem _ hi)) (by omega)
        fun _ hi => hdepth _ (List.mem_cons_of_mem _ hi)
    rw [Layout.items, List.cons_append, List.append_assoc, List.append_assoc, parseItems, hj]
    show (parseItems _ _ _).bind _ = _
    rw [parseItems_append (l.isBlank_line (level + 1)), hitems]
    rfl

/-- How the members of one object stand in a text: the blanks in front of a member, on both sides of
its colon and in front of the end of the object, and the texts of the values. -/
structure MemberLayout where
  line : List Char
  gap : List Char
  space : List Char
  close : List Char
  value : Json → List Char
  isBlank_line : ∀ c ∈ line, isBlank c
  isBlank_gap : ∀ c ∈ gap, isBlank c
  isBlank_space : ∀ c ∈ space, isBlank c
  isBlank_close : ∀ c ∈ close, isBlank c

namespace MemberLayout

/-- One member, with what comes after it. -/
def member (m : MemberLayout) (k : String) (j : Json) (rest : List Char) : List Char :=
  Quoted.encode k.toList ++ (m.gap ++ ':' :: (m.space ++ (m.value j ++ rest)))

/-- The members after the first, up to the end of their object. -/
def tail (m : MemberLayout) : List (String × Json) → List Char
  | [] => m.close ++ ['\x7d']
  | (k, j) :: rest => ',' :: (m.line ++ m.member k j (m.tail rest))

/-- An object that has members. -/
def object (m : MemberLayout) (k : String) (j : Json) (rest : List (String × Json)) : List Char :=
  '\x7b' :: (m.line ++ m.member k j (m.tail rest))

/-- What it takes to read the value of a member, whatever follows. -/
def Reads (m : MemberLayout) (room : Nat) (j : Json) : Prop :=
  ∀ {fuel : Nat} {rest : List Char}, 2 * (m.value j).length ≤ fuel → Numeral.Ends rest →
    parseValue fuel room (m.value j ++ rest) = some (j, rest)

variable (m : MemberLayout) {k : String} {j : Json} {members : List (String × Json)}

theorem member_append (k : String) (j : Json) (cs : List Char) :
    m.member k j cs ++ rest = m.member k j (cs ++ rest) := by
  unfold member
  rw [List.append_assoc, List.append_assoc, List.cons_append, List.append_assoc, List.append_assoc]

theorem length_member (k : String) (j : Json) (cs : List Char) :
    (m.value j).length + cs.length < (m.member k j cs).length := by
  unfold member
  rw [List.length_append, List.length_append, List.length_cons, List.length_append,
    List.length_append]
  omega

/-- One member, up to what stands between it and the next. -/
theorem parseMembers_member {next : List Char}
    (hj : parseValue fuel room (m.value j ++ next) = some (j, next)) :
    parseMembers (fuel + 1) room (m.member k j next) =
      match skipBlanks next with
      | ',' :: rest => do
        let (members, rest) ← parseMembers fuel room rest
        some ((some k, j) :: members, rest)
      | '\x7d' :: rest => some ([(some k, j)], rest)
      | _ => none := by
  unfold member Quoted.encode
  rw [List.cons_append, List.append_assoc, List.singleton_append, parseMembers,
    skipBlanks_cons (by decide)]
  show (parseString _).bind _ = _
  rw [parseString_encode, Option.bind_some]
  dsimp only
  rw [skipBlanks_append m.isBlank_gap, skipBlanks_cons (by decide)]
  show (parseValue _ _ _).bind _ = _
  rw [parseValue_append m.isBlank_space, hj]
  rfl

/-- The members of an object, from the first one to the end of the object. -/
theorem parseMembers_members (h : ∀ i ∈ (k, j) :: members, m.Reads room i.2)
    (hfuel : 2 * (m.member k j (m.tail members)).length ≤ fuel) :
    parseMembers fuel room (m.member k j (m.tail members ++ rest)) =
      some (((k, j) :: members).map fun i => (some i.1, i.2), rest) := by
  induction members generalizing k j fuel with
  | nil =>
    have hlength := m.length_member k j (m.tail [])
    obtain ⟨fuel, rfl⟩ : ∃ n, fuel = n + 1 := ⟨fuel - 1, by omega⟩
    have hread : m.Reads room j := h (k, j) (List.mem_cons_self ..)
    have hj : parseValue fuel room (m.value j ++ (m.close ++ '\x7d' :: rest)) =
        some (j, m.close ++ '\x7d' :: rest) :=
      hread (by omega) (ends_append m.isBlank_close (ends_cons (by decide)))
    rw [tail, List.append_assoc, List.singleton_append, m.parseMembers_member hj,
      skipBlanks_append m.isBlank_close, skipBlanks_cons (by decide)]
    rfl
  | cons i members ih =>
    obtain ⟨k', i⟩ := i
    have hlength := m.length_member k j (m.tail ((k', i) :: members))
    rw [tail, List.length_cons, List.length_append] at hlength
    rw [tail] at hfuel
    obtain ⟨fuel, rfl⟩ : ∃ n, fuel = n + 1 := ⟨fuel - 1, by omega⟩
    have hread : m.Reads room j := h (k, j) (List.mem_cons_self ..)
    have hj (next : List Char) :
        parseValue fuel room (m.value j ++ ',' :: next) = some (j, ',' :: next) :=
      hread (by omega) (ends_cons (by decide))
    have hmembers : parseMembers fuel room (m.member k' i (m.tail members ++ rest)) =
        some (((k', i) :: members).map fun i => (some i.1, i.2), rest) :=
      ih (fun _ hi => h _ (List.mem_cons_of_mem _ hi)) (by omega)
    rw [tail, List.cons_append, List.append_assoc, member_append, m.parseMembers_member (hj _)]
    show (parseMembers _ _ _).bind _ = _
    rw [parseMembers_append m.isBlank_line, hmembers]
    rfl

end MemberLayout

/-- The members of an object on a level of a layout. -/
def Layout.memberLayout (l : Layout) (level : Nat) : MemberLayout where
  line := l.line (level + 1)
  gap := []
  space := l.space
  close := l.line level
  value := l.chars (level + 1)
  isBlank_line := l.isBlank_line (level + 1)
  isBlank_gap := List.forall_mem_nil _
  isBlank_space := l.isBlank_space
  isBlank_close := l.isBlank_line level

theorem Layout.members_eq (l : Layout) (level : Nat) (members : List (String × Json)) :
    l.members level members = (l.memberLayout level).tail members := by
  induction members with
  | nil => rfl
  | cons i members ih =>
    rw [Layout.members, ih]
    rfl

theorem Layout.chars_obj_cons (l : Layout) (level : Nat) (k : String) (j : Json)
    (members : List (String × Json)) :
    l.chars level (.obj ((k, j) :: members)) = (l.memberLayout level).object k j members := by
  rw [Layout.chars, Layout.members_eq]
  rfl

/-! ## Whole trees -/

theorem depth_le_depthItems {items : List Json} {j : Json} (h : j ∈ items) :
    j.depth ≤ depthItems items := by
  induction h with
  | head => exact Nat.le_max_left ..
  | tail _ _ ih => exact ih.trans (Nat.le_max_right ..)

theorem depth_le_depthMembers {members : List (String × Json)} {m : String × Json}
    (h : m ∈ members) : m.2.depth ≤ depthMembers members := by
  induction h with
  | head => exact Nat.le_max_left ..
  | tail _ _ ih => exact ih.trans (Nat.le_max_right ..)

theorem depth_le_of_mem {k : String} {j : Json} {members : List (String × Json)} {n : Nat}
    (h : (k, j) ∈ members) (hdepth : depthMembers members ≤ n) : j.depth ≤ n :=
  (depth_le_depthMembers h).trans hdepth

theorem readKeys_map (members : List (String × Json)) :
    readKeys (members.map fun m => (some m.1, m.2)) = some members := by
  induction members with
  | nil => rfl
  | cons m members ih =>
    show (readKeys (members.map _)).map _ = _
    rw [ih]
    rfl

theorem exists_fuel {j : Json} (hfuel : 2 * (l.chars level j).length ≤ fuel) :
    ∃ n, fuel = n + 1 := by
  obtain ⟨c, cs, hcs, -⟩ := l.exists_chars level j
  rw [hcs, List.length_cons] at hfuel
  exact ⟨fuel - 1, by omega⟩

theorem readsBack_arr {items : List Json} (h : ∀ j ∈ items, j.ReadsBack l) :
    (Json.arr items).ReadsBack l := by
  intro level fuel room rest hfuel hdepth _
  obtain ⟨fuel, rfl⟩ := exists_fuel hfuel
  obtain ⟨room, rfl⟩ : ∃ n, room = n + 1 := ⟨room - 1, by rw [depth] at hdepth; omega⟩
  cases items with
  | nil => rfl
  | cons j items =>
    rw [Layout.chars_arr_cons, List.length_cons, List.length_append] at hfuel
    rw [depth, Nat.add_le_add_iff_right] at hdepth
    have hitems : parseItems fuel room
        (l.chars (level + 1) j ++ (l.items level items ++ rest)) = some (j :: items, rest) :=
      parseItems_chars h (by omega) fun i hi => (depth_le_depthItems hi).trans hdepth
    obtain ⟨c, cs, hcs, hblank, hclose⟩ := l.exists_chars (level + 1) j
    rw [Layout.chars_arr_cons, List.cons_append, List.append_assoc, List.append_assoc]
    rw [hcs, List.cons_append] at hitems ⊢
    rw [parseValue_items (l.isBlank_line (level + 1)) hblank hclose, Nat.add_sub_cancel, hitems]
    rfl

theorem MemberLayout.parseValue_object (m : MemberLayout) {k : String} {j : Json}
    {members : List (String × Json)} (h : ∀ i ∈ (k, j) :: members, m.Reads room i.2)
    (hfuel : 2 * (m.object k j members).length ≤ fuel) :
    parseValue fuel (room + 1) (m.object k j members ++ rest) =
      some (.obj ((k, j) :: members), rest) := by
  unfold object at hfuel ⊢
  rw [List.length_cons, List.length_append] at hfuel
  obtain ⟨fuel, rfl⟩ : ∃ n, fuel = n + 1 := ⟨fuel - 1, by omega⟩
  have hmembers : parseMembers fuel room (m.member k j (m.tail members ++ rest)) =
      some (((k, j) :: members).map fun i => (some i.1, i.2), rest) :=
    m.parseMembers_members h (by omega)
  rw [List.cons_append, List.append_assoc, member_append]
  unfold member Quoted.encode at hmembers ⊢
  rw [List.cons_append] at hmembers ⊢
  rw [parseValue_members m.isBlank_line, Nat.add_sub_cancel, hmembers]
  show some ((readKeys _).elim _ _, rest) = _
  rw [readKeys_map]
  rfl

theorem readsBack_obj {members : List (String × Json)} (h : ∀ m ∈ members, m.2.ReadsBack l) :
    (Json.obj members).ReadsBack l := by
  intro level fuel room rest hfuel hdepth _
  obtain ⟨room, rfl⟩ : ∃ n, room = n + 1 := ⟨room - 1, by rw [depth] at hdepth; omega⟩
  cases members with
  | nil =>
    obtain ⟨fuel, rfl⟩ := exists_fuel hfuel
    rfl
  | cons m members =>
    obtain ⟨k, j⟩ := m
    rw [depth, Nat.add_le_add_iff_right] at hdepth
    rw [Layout.chars_obj_cons] at hfuel ⊢
    refine MemberLayout.parseValue_object _ (fun i hi => ?_) hfuel
    exact fun hfuel hrest => h i hi hfuel ((depth_le_depthMembers hi).trans hdepth) hrest

/-- A tree that can be written is read from its text, whatever the layout. -/
theorem Writable.readsBack {j : Json} (h : j.Writable) : j.ReadsBack l := by
  induction h with
  | null =>
    intro level fuel room rest hfuel _ _
    obtain ⟨fuel, rfl⟩ := exists_fuel hfuel
    rfl
  | bool b =>
    intro level fuel room rest hfuel _ _
    obtain ⟨fuel, rfl⟩ := exists_fuel hfuel
    cases b <;> rfl
  | int hlow hhigh =>
    intro level fuel room rest hfuel _ hrest
    obtain ⟨fuel, rfl⟩ := exists_fuel hfuel
    exact parseValue_number (.int hlow hhigh) hrest
  | float x =>
    intro level fuel room rest hfuel _ hrest
    obtain ⟨fuel, rfl⟩ := exists_fuel hfuel
    exact parseValue_number (.float x) hrest
  | str s =>
    intro level fuel room rest hfuel _ _
    obtain ⟨fuel, rfl⟩ := exists_fuel hfuel
    exact parseValue_string s
  | arr _ ih => exact readsBack_arr ih
  | obj _ ih => exact readsBack_obj ih

/-- With room for its containers, a tree is what is read from its whole text. -/
theorem Writable.parseValue_chars (l : Layout) {j : Json} (h : j.Writable) {room : Nat}
    (hdepth : j.depth ≤ room) :
    parseValue (2 * (l.chars 0 j).length + 2) room (l.chars 0 j) = some (j, []) := by
  have hread : parseValue (2 * (l.chars 0 j).length + 2) room (l.chars 0 j ++ []) = some (j, []) :=
    h.readsBack (by omega) hdepth (by rintro _ ⟨⟩)
  rwa [List.append_nil] at hread

/-- What is written for a tree is the text of the tree and of no other. -/
theorem Writable.parse_render {j : Json} (h : j.Writable) (hdepth : j.depth ≤ nestingLimit) :
    parse j.render = some j := by
  have hread := h.parseValue_chars .oneLine hdepth
  rw [Layout.chars_oneLine] at hread
  unfold parse render
  rw [String.toList_ofList]
  dsimp only
  rw [hread]
  rfl

/-- Trees with the same lines are the same, however deep they are. -/
theorem Writable.renderPretty_inj {i j : Json} (hi : i.Writable) (hj : j.Writable) :
    i.renderPretty = j.renderPretty ↔ i = j := by
  refine ⟨fun h => ?_, congrArg renderPretty⟩
  have hchars : Layout.indented.chars 0 i = Layout.indented.chars 0 j := by
    rw [Layout.chars_indented, Layout.chars_indented]
    exact String.ofList_injective h
  have hread := hi.parseValue_chars .indented (Nat.le_max_left i.depth j.depth)
  rw [hchars, hj.parseValue_chars .indented (Nat.le_max_right i.depth j.depth)] at hread
  injection hread with hread
  exact (Prod.mk.inj hread).1.symm

end SurrealQuery.Json
