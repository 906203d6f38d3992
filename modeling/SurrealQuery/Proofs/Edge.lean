import Mathlib.Data.List.Infix
import SurrealQuery.Proofs.Outcome
import SurrealQuery.Proofs.RecordId
import SurrealQuery.Request

/-!
# Edges in text

An edge between two records is written as record, edge and record with arrows between them. Cutting
the text at its arrows gives these three parts back if and only if neither record has an arrow of its
own (`relate_betweenArrows_iff`). A record id may have one, and then two edges can have the same text
(`relate_same_text`).
-/

namespace SurrealQuery

/-! ## Cutting at arrows -/

namespace Text

def arrow : List Char := ['-', '>']

/-- Cuts a text at every arrow. -/
def betweenArrows : List Char → List (List Char)
  | '-' :: '>' :: rest => [] :: betweenArrows rest
  | c :: rest => (betweenArrows rest).modifyHead (c :: ·)
  | [] => [[]]

/-- A text with an arrow in it. -/
def HasArrow (cs : List Char) : Prop :=
  arrow <:+: cs

instance : DecidablePred HasArrow :=
  fun cs => inferInstanceAs (Decidable (arrow <:+: cs))

/-- A text is taken apart at its arrows. -/
theorem arrow_induction {motive : List Char → Prop} (nil : motive [])
    (arrow : ∀ cs, motive cs → motive ('-' :: '>' :: cs))
    (char : ∀ c cs, (c = '-' → cs.head? ≠ some '>') → motive cs → motive (c :: cs))
    (cs : List Char) : motive cs := by
  fun_induction betweenArrows cs with
  | case1 cs ih => exact arrow cs ih
  | case2 c cs hne ih =>
    refine char c cs ?_ ih
    rintro rfl hhead
    obtain ⟨d, rest, rfl⟩ := List.exists_cons_of_ne_nil (l := cs) (by rintro rfl; cases hhead)
    obtain rfl : d = '>' := by simpa using hhead
    exact hne rest rfl rfl
  | case3 => exact nil

theorem betweenArrows_cons {c : Char} {cs : List Char} (h : c = '-' → cs.head? ≠ some '>') :
    betweenArrows (c :: cs) = (betweenArrows cs).modifyHead (c :: ·) := by
  rw [betweenArrows]
  rintro rest rfl rfl
  exact h rfl rfl

theorem exists_betweenArrows (cs : List Char) : ∃ p ps, betweenArrows cs = p :: ps := by
  induction cs using arrow_induction with
  | nil => exact ⟨[], [], rfl⟩
  | arrow cs ih => exact ⟨[], betweenArrows cs, rfl⟩
  | char c cs hc ih =>
    obtain ⟨p, ps, hps⟩ := ih
    exact ⟨c :: p, ps, by rw [betweenArrows_cons hc, hps]; rfl⟩

/-- Each side of an arrow is cut on its own: no arrow begins before another one ends. -/
theorem betweenArrows_append (cs ds : List Char) :
    betweenArrows (cs ++ arrow ++ ds) = betweenArrows cs ++ betweenArrows ds := by
  induction cs using arrow_induction with
  | nil => rfl
  | arrow cs ih =>
    rw [List.cons_append, List.cons_append, List.cons_append, List.cons_append, betweenArrows,
      betweenArrows, ih, List.cons_append]
  | char c cs hc ih =>
    have hc' : c = '-' → (cs ++ arrow ++ ds).head? ≠ some '>' := by
      intro hdash
      cases cs with
      | nil => simp [arrow]
      | cons d cs => exact hc hdash
    obtain ⟨p, ps, hps⟩ := exists_betweenArrows cs
    rw [List.cons_append, List.cons_append, betweenArrows_cons hc', ih, betweenArrows_cons hc, hps]
    rfl

theorem hasArrow_append (cs ds : List Char) : HasArrow (cs ++ arrow ++ ds) :=
  ⟨cs, ds, rfl⟩

theorem HasArrow.cons {cs : List Char} (h : HasArrow cs) (c : Char) : HasArrow (c :: cs) :=
  h.trans (List.suffix_cons c cs).isInfix

/-- A text without arrow is not cut. -/
theorem betweenArrows_of_not_hasArrow {cs : List Char} (h : ¬HasArrow cs) :
    betweenArrows cs = [cs] := by
  induction cs using arrow_induction with
  | nil => rfl
  | arrow cs ih => exact absurd (hasArrow_append [] cs) h
  | char c cs hc ih =>
    rw [betweenArrows_cons hc, ih fun harrow => h (harrow.cons c)]
    rfl

/-- A text is cut wherever it has an arrow. -/
theorem betweenArrows_eq_singleton_iff {cs p : List Char} :
    betweenArrows cs = [p] ↔ ¬HasArrow cs ∧ cs = p := by
  constructor
  · intro h
    have hno : ¬HasArrow cs := by
      rintro ⟨before, after, rfl⟩
      obtain ⟨p₁, ps₁, h₁⟩ := exists_betweenArrows before
      obtain ⟨p₂, ps₂, h₂⟩ := exists_betweenArrows after
      have hlength := congrArg List.length h
      rw [betweenArrows_append, h₁, h₂, List.length_append, List.length_cons, List.length_cons,
        List.length_singleton] at hlength
      omega
    rw [betweenArrows_of_not_hasArrow hno] at h
    exact ⟨hno, (List.cons.inj h).1⟩
  · rintro ⟨hno, rfl⟩
    exact betweenArrows_of_not_hasArrow hno

/-- Three texts with arrows between them. -/
def path (first second third : List Char) : List Char :=
  first ++ arrow ++ (second ++ arrow ++ third)

/-- A path is cut into three parts where none of its texts is cut, and nowhere else. -/
theorem betweenArrows_path_eq_iff {first second third a b c : List Char}
    (hsecond : ¬HasArrow second) :
    betweenArrows (path first second third) = [a, b, c] ↔
      (¬HasArrow first ∧ first = a) ∧ second = b ∧ ¬HasArrow third ∧ third = c := by
  rw [path, betweenArrows_append, betweenArrows_append, betweenArrows_of_not_hasArrow hsecond,
    ← betweenArrows_eq_singleton_iff, ← betweenArrows_eq_singleton_iff]
  obtain ⟨p, ps, hfirst⟩ := exists_betweenArrows first
  obtain ⟨r, rs, hthird⟩ := exists_betweenArrows third
  rw [hfirst, hthird]
  constructor
  · intro h
    have hlength := congrArg List.length h
    simp only [List.length_append, List.length_cons, List.length_nil] at hlength
    obtain rfl : ps = [] := List.eq_nil_of_length_eq_zero (by omega)
    obtain rfl : rs = [] := List.eq_nil_of_length_eq_zero (by omega)
    simp_all
  · rintro ⟨h₁, rfl, h₃⟩
    rw [h₁, h₃]
    rfl

end Text

/-! ## Edges -/

open Text (HasArrow betweenArrows)

/-- An edge without fields and options is its two records and its name, with arrows between them. -/
theorem Statement.relate_bare {q : Query} {edge target : String} {s : Statement}
    (hoptions : q.options = {}) (h : Statement.relate q edge target .empty = .ok s) :
    ∃ path : String, s = ⟨.relate, .raw ("RELATE " ++ path)⟩ ∧
      path.toList = Text.path q.target.toList edge.toList target.toList := by
  obtain ⟨-, -, h⟩ := bind_eq_ok.1 h
  obtain ⟨source, hsource, h⟩ := bind_eq_ok.1 h
  obtain ⟨other, hother, h⟩ := bind_eq_ok.1 h
  have hnothing : Clause.content .empty ++ Clause.options {} = [] := rfl
  have halone (t : Template) : Template.join " " [t] = t := Template.append_raw_empty t
  rw [hoptions, hnothing, halone, RecordId.toString_of_parse hsource,
    RecordId.toString_of_parse hother] at h
  refine ⟨q.target ++ "->" ++ edge ++ "->" ++ target, ?_, ?_⟩
  · cases h
    simp only [String.append_assoc]
  · simp [Text.path, Text.arrow]

/-- **Edges and their arrows.** Let an edge have no fields and no options, and a name without arrow.
Cutting its text after the keyword at the arrows gives the first record, the name and the second
record back, if and only if neither record has an arrow in it. Such an edge has its text to itself:
no other edge whose name has no arrow is written alike. -/
theorem relate_betweenArrows_iff (settings : Settings) {q : Query} {edge target : String}
    {s : Statement} (hoptions : q.options = {}) (hedge : ¬HasArrow edge.toList)
    (hok : (Request.relate q edge target .empty).compile settings = .ok s) :
    ∃ path : String, s.template.text = "RELATE " ++ path ∧
      (betweenArrows path.toList = [q.target.toList, edge.toList, target.toList] ↔
        ¬HasArrow q.target.toList ∧ ¬HasArrow target.toList) ∧
      (¬HasArrow q.target.toList → ¬HasArrow target.toList →
        ∀ (settings' : Settings) (q' : Query) (edge' target' : String) (s' : Statement),
          q'.options = {} → ¬HasArrow edge'.toList →
          (Request.relate q' edge' target' .empty).compile settings' = .ok s' →
          s'.template.text = s.template.text →
          q'.target = q.target ∧ edge' = edge ∧ target' = target) := by
  obtain ⟨path, rfl, hpath⟩ := Statement.relate_bare hoptions hok
  refine ⟨path, rfl, ?_, ?_⟩
  · rw [hpath, Text.betweenArrows_path_eq_iff hedge]
    simp
  · intro hsource htarget settings' q' edge' target' s' hoptions' hedge' hok' htext
    obtain ⟨path', rfl, hpath'⟩ := Statement.relate_bare hoptions' hok'
    have hsame : path'.toList = path.toList := by
      have hchars := congrArg String.toList htext
      rwa [Template.text_raw, Template.text_raw, String.toList_append, String.toList_append,
        List.append_cancel_left_eq] at hchars
    have hparts : betweenArrows path'.toList = [q.target.toList, edge.toList, target.toList] := by
      rw [hsame, hpath, Text.betweenArrows_path_eq_iff hedge]
      exact ⟨⟨hsource, rfl⟩, rfl, htarget, rfl⟩
    rw [hpath', Text.betweenArrows_path_eq_iff hedge'] at hparts
    obtain ⟨⟨-, hq⟩, he, -, ht⟩ := hparts
    exact ⟨String.toList_inj.1 hq, String.toList_inj.1 he, String.toList_inj.1 ht⟩

theorem relate_betweenArrows_iff_dashes :
    ¬HasArrow "users:a-".toList ∧ ¬HasArrow ">-knows-".toList ∧ ¬HasArrow ">:b".toList ∧
      (Request.relate { target := "users:a-" } ">-knows-" ">:b" .empty).compile {} =
        .ok ⟨.relate, .raw "RELATE users:a-->>-knows-->>:b"⟩ ∧
      betweenArrows "users:a-->>-knows-->>:b".toList =
        ["users:a-".toList, ">-knows-".toList, ">:b".toList] := by
  have hsource : ¬HasArrow "users:a-".toList := by decide
  have hedge : ¬HasArrow ">-knows-".toList := by decide
  have htarget : ¬HasArrow ">:b".toList := by decide
  have hok : (Request.relate { target := "users:a-" } ">-knows-" ">:b" .empty).compile {} =
      .ok ⟨.relate, .raw "RELATE users:a-->>-knows-->>:b"⟩ := rfl
  refine ⟨hsource, hedge, htarget, hok, ?_⟩
  obtain ⟨path, htext, hiff, -⟩ := relate_betweenArrows_iff {} rfl hedge hok
  obtain rfl : path = "users:a-->>-knows-->>:b" := by
    have hchars : "RELATE ".toList ++ "users:a-->>-knows-->>:b".toList =
        "RELATE ".toList ++ path.toList := by
      rw [← String.toList_append, ← String.toList_append, ← htext]
      rfl
    exact String.toList_inj.1 (List.append_cancel_left hchars).symm
  exact hiff.2 ⟨hsource, htarget⟩

/-- Two edges between different records, and with different names, that have the same text. -/
theorem relate_same_text :
    (Request.relate { target := "users:ann->follows" } "knows" "users:bob" .empty).compile {} =
        .ok ⟨.relate, .raw "RELATE users:ann->follows->knows->users:bob"⟩ ∧
      (Request.relate { target := "users:ann" } "follows" "knows->users:bob" .empty).compile {} =
        .ok ⟨.relate, .raw "RELATE users:ann->follows->knows->users:bob"⟩ ∧
      ¬HasArrow "knows".toList ∧ ¬HasArrow "follows".toList ∧
      betweenArrows "users:ann->follows->knows->users:bob".toList =
        ["users:ann".toList, "follows".toList, "knows".toList, "users:bob".toList] := by
  exact ⟨rfl, rfl, by decide, by decide, rfl⟩

end SurrealQuery
