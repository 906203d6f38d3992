import SurrealQuery.Proofs.Condition
import SurrealQuery.Proofs.Operator
import SurrealQuery.Proofs.Outcome
import SurrealQuery.Proofs.Reading

/-!
# Conditions and their clause

Conditions have a canonical form: groups that hold nothing are left out, the first connective of a
list says nothing, an operator is what its word stands for, and membership in an empty list is a
constant. The clause of conditions can be read back into that form, so that two lists of conditions
have the same clause if and only if they have the same form (`conditions_eq_iff_canonical`).
-/

namespace SurrealQuery

/-! ## Canonical forms -/

/-- What a condition comes to. -/
inductive Criterion where
  | constant (holds : Bool)
  | plain (predicate : Predicate)
  | group (criteria : List (Connective × Criterion))

/-- Leaves the connective of the first item out of account. -/
def forgetFirst {α : Type} : List (Connective × α) → List (Connective × α)
  | [] => []
  | (_, a) :: rest => (.and, a) :: rest

mutual

/-- What the conditions of a list come to, those that hold nothing left out. -/
def criteria : List Condition → List (Connective × Criterion)
  | [] => []
  | ⟨connective, predicate⟩ :: rest =>
    predicate.criterion?.toList.map (connective, ·) ++ criteria rest

def Predicate.criterion? : Predicate → Option Criterion
  | .group conditions =>
    match forgetFirst (criteria conditions) with
    | [] => none
    | criteria => some (.group criteria)
  | .member _ [] negated | .integerMember _ [] negated => some (.constant negated)
  | .compare column operator operand =>
    some (.plain (.compare column (Operator.resolve operator) operand))
  | .compareColumns first operator second =>
    some (.plain (.compareColumns first (Operator.resolve operator) second))
  | .date unit column operator operand =>
    some (.plain (.date unit column (Operator.resolve operator) operand))
  | predicate => some (.plain predicate)

end

/-- The canonical form of conditions. -/
def canonical (conditions : List Condition) : List (Connective × Criterion) :=
  forgetFirst (criteria conditions)

/-! ## Conditions that can be read back -/

/-- A name without point and without alias. -/
def Column.IsBare : Column → Prop
  | .name s => '.' ∉ s.toList ∧ (Identifier.splitAlias s.toList).2 = none
  | _ => False

instance : DecidablePred Column.IsBare
  | .name _ => inferInstanceAs (Decidable (_ ∧ _))
  | .raw _ | .call _ => inferInstanceAs (Decidable False)

def Operand.IsLiteral : Operand → Prop
  | .literal _ => True
  | _ => False

instance : DecidablePred Operand.IsLiteral
  | .literal _ => inferInstanceAs (Decidable True)
  | .raw _ | .call _ => inferInstanceAs (Decidable False)

/-- A predicate about columns that are bare names and about literals, with a known operator. -/
def Predicate.IsSimple : Predicate → Prop
  | .compare column operator operand | .date _ column operator operand =>
    column.IsBare ∧ Operator.resolve operator ∈ Operator.all ∧ operand.IsLiteral
  | .member column operands _ => column.IsBare ∧ ∀ operand ∈ operands, operand.IsLiteral
  | .integerMember column _ _ | .null column _ => column.IsBare
  | .between column low high _ => column.IsBare ∧ low.IsLiteral ∧ high.IsLiteral
  | .betweenColumns column low high _ => column.IsBare ∧ low.IsBare ∧ high.IsBare
  | .compareColumns first operator second =>
    first.IsBare ∧ Operator.resolve operator ∈ Operator.all ∧ second.IsBare
  | .group _ => True
  | .nonempty .. | .bitwise .. | .raw .. => False

instance : DecidablePred Predicate.IsSimple
  | .compare .. | .date .. | .between .. | .betweenColumns .. | .compareColumns .. =>
    inferInstanceAs (Decidable (_ ∧ _ ∧ _))
  | .member .. => inferInstanceAs (Decidable (_ ∧ _))
  | .integerMember column _ _ | .null column _ => inferInstanceAs (Decidable column.IsBare)
  | .group _ => inferInstanceAs (Decidable True)
  | .nonempty .. | .bitwise .. | .raw .. => inferInstanceAs (Decidable False)

/-! ## Readers -/

namespace Reader

/-- Placeholders or integers, at most `n` of them. -/
def members (n : Nat) (column : Column) (negated : Bool) : Reader Predicate := dispatch fun
  | some '$' => do
    let values ← commaList value n
    return .member column (values.map .literal) negated
  | _ => do
    let integers ← commaList integer n
    return .integerMember column integers negated

/-- The list after a word for membership. -/
def membership (n : Nat) (column : Column) (negated : Bool) : Reader Criterion := do
  text "["
  let predicate ← members n column negated
  text "]"
  return .plain predicate

/-- The bounds after a word for a range. -/
def bounds (column : Column) (negated : Bool) : Reader Criterion := dispatch fun
  | some '$' => do
    let low ← value
    text " AND "
    let high ← value
    return .plain (.between column (.literal low) (.literal high) negated)
  | _ => do
    let low ← Reader.column
    text " AND "
    let high ← Reader.column
    return .plain (.betweenColumns column low high negated)

/-- What follows a column and a word or operator. -/
def relation (n : Nat) (column : Column) (verb : String) : Reader Criterion :=
  if verb = "IS" then
    dispatch fun
      | some 'n' => do
        text "null"
        return .plain (.null column false)
      | _ => do
        text "NOT null"
        return .plain (.null column true)
  else if verb = "CONTAINS" then membership n column false
  else if verb = "CONTAINSNONE" then membership n column true
  else if verb = "INSIDE" then bounds column false
  else if verb = "NOTINSIDE" then bounds column true
  else
    dispatch fun
      | some '$' => do
        let value ← value
        return .plain (.compare column verb (.literal value))
      | _ => do
        let second ← Reader.column
        return .plain (.compareColumns column verb second)

/-- The name of a part of a date, up to a quote. -/
def unit : Reader DateUnit := do
  let name ← word '\''
  match DateUnit.words.lookup name with
  | some unit => return unit
  | none => failure

/-- The comparison of a part of a date. -/
def date : Reader Criterion := do
  text "time::group("
  let column ← column
  text ", '"
  let unit ← unit
  text "') "
  let operator ← word ' '
  text " "
  let value ← value
  return .plain (.date unit column operator (.literal value))

/-- A criterion, given a reader for what is inside of a group. -/
def criterion (n : Nat) (inner : Reader (List (Connective × Criterion))) : Reader Criterion :=
  dispatch fun
    | some '0' => do
      text "0 = 1"
      return .constant false
    | some '1' => do
      text "1 = 1"
      return .constant true
    | some '(' => do
      text "("
      let criteria ← inner
      text ")"
      return .group criteria
    | some 't' => date
    | _ => do
      let column ← column
      text " "
      let verb ← word ' '
      text " "
      relation n column verb

/-- A criterion after its connective, if there is a connective. -/
def linked (criterion : Reader Criterion) : Reader (Option (Connective × Criterion)) :=
  dispatch fun
    | some ' ' => do
      text " "
      let keyword ← word ' '
      text " "
      let criterion ← criterion
      return some (if keyword = "AND" then .and else .or, criterion)
    | _ => return none

/-- Criteria with connectives between them. Groups nest at most `n` deep. -/
def criteria : Nat → Reader (List (Connective × Criterion))
  | 0 => failure
  | n + 1 => do
    let first ← criterion n (criteria n)
    let rest ← many (linked (criterion n (criteria n))) n
    return (.and, first) :: rest

end Reader

namespace Reads

variable {t : Template} {n : Nat} {inner : Reader (List (Connective × Criterion))}
  {criterion : Criterion}

theorem bare {c : Column} (h : c.IsBare) : Reads Reader.column AfterName c c.template := by
  cases c with
  | name s =>
    rw [Column.template, Identifier.column_eq_quote h.1 h.2]
    exact column s
  | _ => cases h

theorem first?_template {c : Column} (h : c.IsBare) :
    c.template.first? = some '*' ∨ c.template.first? = some '`' := by
  cases c with
  | name s =>
    rw [Column.template, Identifier.column_eq_quote h.1 h.2, Identifier.quote]
    split
    · rename_i hs
      subst hs
      exact .inl (by decide)
    · exact .inr (by simp [Template.first?])
  | _ => cases h

theorem literal {o : Operand} (h : o.IsLiteral) :
    ∃ v, o = .literal v ∧ Reads Reader.value Anything v o.template := by
  cases o with
  | literal v => exact ⟨v, rfl, value v⟩
  | _ => cases h

/-- A column with a word or an operator after it. -/
theorem subject {c : Column} (hc : c.IsBare) (verb : String) (hverb : ' ' ∉ verb.toList)
    (h : Reads (Reader.relation n c verb) AfterName criterion t) :
    Reads (Reader.criterion n inner) AfterName criterion
      (c.template ++ (.raw (" " ++ verb ++ " ") ++ t)) := by
  have hread : Reads (do
      let column ← Reader.column
      Reader.text " "
      let verb ← Reader.word ' '
      Reader.text " "
      Reader.relation n column verb) AfterName criterion
      (c.template ++ (.raw " " ++ (.raw verb ++ (.raw " " ++ t)))) := by
    refine (bare hc).bind ((text " ").bind ((word hverb).bind ((text " ").bind h ?_) ?_) ?_) ?_
    · exact fun _ _ => trivial
    · exact fun cs _ => Template.head?_of_first? (Template.first?_append (by decide) _) cs
    · exact fun _ _ => trivial
    · exact fun cs _ =>
        afterName_of_first? (Template.first?_append (c := ' ') (by decide) _) (by decide) cs
  rw [Template.raw_append, Template.raw_append, Template.append_assoc, Template.append_assoc]
  rcases first?_template hc with hd | hd
  · exact dispatch (Template.first?_append hd _) hread
  · exact dispatch (Template.first?_append hd _) hread

/-- An operator is one word, and none of the words that other predicates have. -/
theorem mem_all {operator : String} (h : operator ∈ Operator.all) :
    ' ' ∉ operator.toList ∧
      operator ∉ ["IS", "CONTAINS", "CONTAINSNONE", "INSIDE", "NOTINSIDE"] := by
  revert operator
  decide

theorem relation_of_mem_all {c : Column} {operator : String} (h : operator ∈ Operator.all) :
    Reader.relation n c operator = Reader.dispatch fun
      | some '$' => do
        let value ← Reader.value
        return .plain (.compare c operator (.literal value))
      | _ => do
        let second ← Reader.column
        return .plain (.compareColumns c operator second) := by
  have hother := (mem_all h).2
  simp only [List.mem_cons, not_or] at hother
  obtain ⟨h₁, h₂, h₃, h₄, h₅, -⟩ := hother
  rw [Reader.relation, if_neg h₁, if_neg h₂, if_neg h₃, if_neg h₄, if_neg h₅]

theorem compare {c : Column} {operator : String} (hc : c.IsBare) (h : operator ∈ Operator.all)
    (v : Value) : Reads (Reader.criterion n inner) AfterName
      (.plain (.compare c operator (.literal v)))
      (c.template ++ (.raw (" " ++ operator ++ " ") ++ .literal v)) := by
  refine subject hc operator (mem_all h).1 ?_
  rw [relation_of_mem_all h]
  refine dispatch (c := '$') (by simp [Template.first?, Template.literal, Template.placeholder]) ?_
  exact ((value v).map _).mono fun _ _ => trivial

/-- A bare name is not taken for a placeholder. -/
theorem dispatch_bare {α : Type} {P : List Char → Prop} {c : Column} {t : Template} (hc : c.IsBare)
    {r : Option Char → Reader α} {other : Reader α} {a : α} (hstar : r (some '*') = other)
    (hquote : r (some '`') = other) (h : Reads other P a (c.template ++ t)) :
    Reads (Reader.dispatch r) P a (c.template ++ t) := by
  rcases first?_template hc with hd | hd
  · exact dispatch (Template.first?_append hd _) (hstar ▸ h)
  · exact dispatch (Template.first?_append hd _) (hquote ▸ h)

theorem compareColumns {first second : Column} {operator : String} (hfirst : first.IsBare)
    (h : operator ∈ Operator.all) (hsecond : second.IsBare) :
    Reads (Reader.criterion n inner) AfterName (.plain (.compareColumns first operator second))
      (first.template ++ (.raw (" " ++ operator ++ " ") ++ second.template)) := by
  refine subject hfirst operator (mem_all h).1 ?_
  rw [relation_of_mem_all h, ← Template.append_raw_empty second.template]
  refine dispatch_bare hsecond rfl rfl ?_
  rw [Template.append_raw_empty]
  exact (bare hsecond).map _

theorem null {c : Column} (hc : c.IsBare) (negated : Bool) :
    Reads (Reader.criterion n inner) AfterName (.plain (.null c negated))
      (c.template ++ .raw (if negated then " IS NOT null" else " IS null")) := by
  have hword (t : Template) (h : Reads (Reader.relation n c "IS") AfterName
      (.plain (.null c negated)) t) : Reads (Reader.criterion n inner) AfterName
      (.plain (.null c negated)) (c.template ++ (.raw " IS " ++ t)) :=
    subject hc "IS" (by decide) h
  cases negated with
  | false =>
    refine hword (.raw "null") ?_
    rw [Reader.relation, if_pos rfl]
    refine dispatch (c := 'n') (by decide) ?_
    exact ((text "null").map _).mono fun _ _ => trivial
  | true =>
    refine hword (.raw "NOT null") ?_
    rw [Reader.relation, if_pos rfl]
    refine dispatch (c := 'N') (by decide) ?_
    exact ((text "NOT null").map _).mono fun _ _ => trivial

/-- Values in a list. -/
theorem member {c : Column} {negated : Bool} {values : List Value} (hne : values ≠ [])
    (hn : values.length ≤ n) : Reads (Reader.members n c negated) (fun cs => cs.head? = some ']')
      (.member c (values.map .literal) negated)
      (.join ", " (values.map Template.literal)) := by
  have hlist : Reads (Reader.commaList Reader.value n) (fun cs => cs.head? = some ']') values
      (.join ", " (values.map Template.literal)) := by
    have hvalues : List.Forall₂ (Reads Reader.value Anything) values
        (values.map Template.literal) :=
      List.forall₂_map_right_iff.2 (List.forall₂_same.2 fun v _ => value v)
    exact commaList hvalues hne (fun _ => trivial) (fun _ => trivial) hn
  cases values with
  | nil => exact absurd rfl hne
  | cons v rest =>
    refine dispatch (c := '$') (Template.first?_append ?_ _) (hlist.map _)
    simp [Template.first?, Template.literal, Template.placeholder]

theorem integerMember {c : Column} {negated : Bool} {integers : List Int64} (hne : integers ≠ [])
    (hn : integers.length ≤ n) :
    Reads (Reader.members n c negated) (fun cs => cs.head? = some ']')
      (.integerMember c integers negated)
      (.join ", " (integers.map fun n => .raw (String.ofList (Json.intChars n.toInt)))) := by
  have hends (d : Char) (hd : d = ',' ∨ d = ']') (cs : List Char) :
      Json.Numeral.Ends (d :: cs) := by
    intro e he
    cases he
    rcases hd with rfl | rfl <;> decide
  have hlist : Reads (Reader.commaList Reader.integer n) (fun cs => cs.head? = some ']') integers
      (.join ", " (integers.map fun n => .raw (String.ofList (Json.intChars n.toInt)))) := by
    refine commaList ?_ hne (hends _ (.inl rfl)) (hends _ (.inr rfl)) hn
    exact List.forall₂_map_right_iff.2 (List.forall₂_same.2 fun n _ => integer n)
  cases integers with
  | nil => exact absurd rfl hne
  | cons k rest =>
    obtain ⟨d, ds, hchars, hd⟩ := Json.Numeral.exists_intChars k.toInt
    have hfirst : (Template.raw (String.ofList (Json.intChars k.toInt))).first? = some d := by
      simp [Template.first?, hchars]
    refine dispatch (Template.first?_append hfirst _) ?_
    split
    · rename_i heq
      cases heq
      rcases hd with hd | hd <;> exact absurd hd (by decide)
    · exact hlist.map _

/-- Membership in a list that is not empty. -/
theorem membership {c : Column} (hc : c.IsBare) {negated : Bool} {p : Predicate}
    (h : Reads (Reader.members n c negated) (fun cs => cs.head? = some ']') p t) :
    Reads (Reader.criterion n inner) AfterName (.plain p)
      (Clause.membership c negated false t) := by
  have hlist : Reads (Reader.membership n c negated) AfterName (.plain p)
      (.raw "[" ++ (t ++ .raw "]")) := by
    refine (text "[").bind (h.bind (((text "]").map _).mono fun _ _ => trivial) ?_) ?_
    · exact fun cs _ => Template.head?_of_first? (by decide) cs
    · exact fun _ _ => trivial
  have hword (verb : String) (hverb : ' ' ∉ verb.toList)
      (hrelation : Reader.relation n c verb = Reader.membership n c negated) :
      Reads (Reader.criterion n inner) AfterName (.plain p)
        (c.template ++ (.raw (" " ++ verb ++ " [") ++ (t ++ .raw "]"))) := by
    have hsplit : " " ++ verb ++ " [" = " " ++ verb ++ " " ++ "[" :=
      String.toList_inj.1 (by simp)
    rw [hsplit, Template.raw_append, Template.append_assoc]
    exact subject hc verb hverb (hrelation ▸ hlist)
  unfold Clause.membership
  rw [if_neg (by decide), Template.append_assoc, Template.append_assoc]
  cases negated with
  | false => exact hword "CONTAINS" (by decide) rfl
  | true => exact hword "CONTAINSNONE" (by decide) rfl

/-- A column within bounds. -/
theorem range {c : Column} (hc : c.IsBare) {negated : Bool} {low high : Template}
    (h : Reads (Reader.bounds c negated) AfterName criterion (low ++ (.raw " AND " ++ high))) :
    Reads (Reader.criterion n inner) AfterName criterion (Clause.range c negated low high) := by
  unfold Clause.range
  rw [Template.append_assoc, Template.append_assoc, Template.append_assoc]
  cases negated with
  | false => exact subject hc "INSIDE" (by decide) h
  | true => exact subject hc "NOTINSIDE" (by decide) h

theorem between {c : Column} (hc : c.IsBare) (low high : Value) (negated : Bool) :
    Reads (Reader.criterion n inner) AfterName
      (.plain (.between c (.literal low) (.literal high) negated))
      (Clause.range c negated (.literal low) (.literal high)) := by
  refine range hc (dispatch (c := '$') (Template.first?_append ?_ _) ?_)
  · simp [Template.first?, Template.literal, Template.placeholder]
  · refine (value low).bind ((text " AND ").bind (((value high).map _).mono ?_) ?_) ?_ <;>
      exact fun _ _ => trivial

theorem betweenColumns {c low high : Column} (hc : c.IsBare) (hlow : low.IsBare)
    (hhigh : high.IsBare) (negated : Bool) :
    Reads (Reader.criterion n inner) AfterName (.plain (.betweenColumns c low high negated))
      (Clause.range c negated low.template high.template) := by
  refine range hc (dispatch_bare hlow rfl rfl ?_)
  refine (bare hlow).bind ((text " AND ").bind ((bare hhigh).map _) fun _ _ => trivial) ?_
  exact fun cs _ =>
    afterName_of_first? (Template.first?_append (c := ' ') (by decide) _) (by decide) cs

theorem unit (u : DateUnit) :
    Reads Reader.unit (fun cs => cs.head? = some '\'') u (.raw u.name) := by
  have hname : '\'' ∉ u.name.toList ∧ DateUnit.words.lookup u.name = some u := by
    cases u <;> decide
  refine (word hname.1).bind_nothing fun input => ?_
  rw [hname.2]
  rfl

theorem date {c : Column} (hc : c.IsBare) (u : DateUnit) {operator : String}
    (h : operator ∈ Operator.all) (v : Value) :
    Reads (Reader.criterion n inner) AfterName (.plain (.date u c operator (.literal v)))
      (.wrap "time::group(" c.template (", '" ++ u.name ++ "')") ++
        (.raw (" " ++ operator ++ " ") ++ .literal v)) := by
  have hsplit : Template.wrap "time::group(" c.template (", '" ++ u.name ++ "')") ++
      (.raw (" " ++ operator ++ " ") ++ .literal v) =
      .raw "time::group(" ++ (c.template ++ (.raw ", '" ++ (.raw u.name ++ (.raw "') " ++
        (.raw operator ++ (.raw " " ++ .literal v)))))) := by
    show Template.mk _ _ = Template.mk _ _
    congr 1
    exact String.toList_inj.1 (by simp)
  rw [hsplit]
  refine dispatch (c := 't') (Template.first?_append (by decide) _) ?_
  show Reads Reader.date _ _ _
  refine (text "time::group(").bind ((bare hc).bind ((text ", '").bind ?_ ?_) fun cs _ => ?_) ?_
  · refine (unit u).bind ((text "') ").bind ?_ fun _ _ => trivial) fun cs _ => ?_
    · refine (word (mem_all h).1).bind ((text " ").bind ?_ fun _ _ => trivial) fun cs _ => ?_
      · exact ((value v).map _).mono fun _ _ => trivial
      · exact Template.head?_of_first? (Template.first?_append (by decide) _) cs
    · exact Template.head?_of_first? (Template.first?_append (by decide) _) cs
  · exact fun _ _ => trivial
  · exact afterName_of_first? (Template.first?_append (c := ',') (by decide) _) (by decide) cs
  · exact fun _ _ => trivial

theorem constant (holds : Bool) : Reads (Reader.criterion n inner) AfterName (.constant holds)
    (.raw (if holds then "1 = 1" else "0 = 1")) := by
  cases holds with
  | false =>
    refine dispatch (c := '0') (by decide) ?_
    exact ((text "0 = 1").map _).mono fun _ _ => trivial
  | true =>
    refine dispatch (c := '1') (by decide) ?_
    exact ((text "1 = 1").map _).mono fun _ _ => trivial

end Reads

/-! ## Writing criteria -/

/-- The template of a predicate, empty if it has none. -/
def Predicate.template (settings : Settings) (p : Predicate) : Template :=
  match p.template? settings with
  | .ok (some t) => t
  | _ => .raw ""

mutual

def Criterion.template (settings : Settings) : Criterion → Template
  | .constant holds => .raw (if holds then "1 = 1" else "0 = 1")
  | .plain predicate => predicate.template settings
  | .group criteria =>
    .wrap "(" ((Clause.connected (criteriaTemplates settings criteria)).getD (.raw "")) ")"

def criteriaTemplates (settings : Settings) :
    List (Connective × Criterion) → List (Connective × Template)
  | [] => []
  | (connective, criterion) :: rest =>
    (connective, criterion.template settings) :: criteriaTemplates settings rest

end

/-- A criterion that is read back from its template. Its text bounds what is to be read. -/
def Criterion.IsSpelled (settings : Settings) (c : Criterion) : Prop :=
  ∀ n, (c.template settings).text.toList.length ≤ n →
    Reads (Reader.criterion n (Reader.criteria n)) AfterName c (c.template settings)

theorem Template.length_le_joinTail (ts : List Template) :
    ts.length ≤ (Template.joinTail ", " ts).text.toList.length := by
  induction ts with
  | nil => exact Nat.zero_le _
  | cons t rest ih =>
    have hcomma : (Template.raw ", ").text.toList.length = 2 := by decide
    rw [Template.joinTail, Template.text_append, Template.text_append, String.toList_append,
      String.toList_append, List.length_append, List.length_append, List.length_cons, hcomma]
    omega

/-- The items of a list are fewer than the characters of the clause for membership in it. -/
theorem length_le_membership (c : Column) (negated : Bool) (ts : List Template) :
    ts.length ≤ (Clause.membership c negated false (.join ", " ts)).text.toList.length := by
  have hlist : ts.length ≤ (Template.join ", " ts).text.toList.length + 1 := by
    cases ts with
    | nil => exact Nat.zero_le _
    | cons t rest =>
      have := Template.length_le_joinTail rest
      rw [Template.join, Template.text_append, String.toList_append, List.length_append,
        List.length_cons]
      omega
  have hclose : (Template.raw "]").text.toList.length = 1 := by decide
  unfold Clause.membership
  rw [if_neg (by decide)]
  simp only [Template.text_append, String.toList_append, List.length_append, hclose]
  omega

section Leaves

variable {settings : Settings}

/-- A predicate that comes to a criterion with the same template, which is read back from it. -/
def Predicate.Spells (settings : Settings) (p : Predicate) : Prop :=
  p.template? settings = .ok (p.criterion?.map (Criterion.template settings)) ∧
    ∀ c, p.criterion? = some c → c.IsSpelled settings

/-- A predicate that stays as it is, but for its operator. -/
theorem Predicate.Spells.plain {p q : Predicate} {t : Template}
    (hcriterion : p.criterion? = some (.plain q)) (hp : p.template? settings = .ok (some t))
    (hq : q.template? settings = .ok (some t))
    (h : ∀ n, t.text.toList.length ≤ n →
      Reads (Reader.criterion n (Reader.criteria n)) AfterName (.plain q) t) :
    p.Spells settings := by
  have ht : (Criterion.plain q).template settings = t := by
    rw [Criterion.template, Predicate.template, hq]
  refine ⟨?_, fun c hc => ?_⟩
  · rw [hp, hcriterion, Option.map_some, ht]
  · rw [hcriterion] at hc
    cases hc
    unfold Criterion.IsSpelled
    rw [ht]
    exact h

theorem Predicate.Spells.constant {p : Predicate} {holds : Bool}
    (hcriterion : p.criterion? = some (.constant holds))
    (hp : p.template? settings = .ok (some (.raw (if holds then "1 = 1" else "0 = 1")))) :
    p.Spells settings := by
  refine ⟨?_, fun c hc => ?_⟩
  · rw [hp, hcriterion, Option.map_some, Criterion.template]
  · rw [hcriterion] at hc
    cases hc
    intro n _
    rw [Criterion.template]
    exact Reads.constant holds

theorem Operand.IsLiteral.exists_values {operands : List Operand}
    (h : ∀ operand ∈ operands, operand.IsLiteral) :
    ∃ values : List Value, operands = values.map .literal := by
  induction operands with
  | nil => exact ⟨[], rfl⟩
  | cons operand rest ih =>
    rw [List.forall_mem_cons] at h
    obtain ⟨values, rfl⟩ := ih h.2
    obtain ⟨v, rfl, -⟩ := Reads.literal h.1
    exact ⟨v :: values, rfl⟩

theorem Predicate.IsSimple.spells_member {c : Column} {operands : List Operand} {negated : Bool}
    (h : (Predicate.member c operands negated).IsSimple) :
    (Predicate.member c operands negated).Spells settings := by
  obtain ⟨hc, hoperands⟩ := h
  obtain ⟨values, rfl⟩ := Operand.IsLiteral.exists_values hoperands
  have hlist : Clause.operands (values.map .literal) = .join ", " (values.map .literal) := by
    rw [Clause.operands, List.map_map]
    rfl
  cases values with
  | nil => exact .constant rfl (by cases negated <;> rfl)
  | cons v rest =>
    refine .plain rfl rfl rfl fun n hn => ?_
    rw [hlist] at hn ⊢
    have hlength := Nat.le_trans (length_le_membership c negated _) hn
    rw [List.length_map] at hlength
    exact .membership hc (.member (List.cons_ne_nil _ _) hlength)

theorem Text.raw_commaList (ss : List String) :
    Template.raw (Text.commaList ss) = .join ", " (ss.map .raw) := by
  have htail (ss : List String) :
      Template.raw (Text.commaTail ss) = .joinTail ", " (ss.map .raw) := by
    induction ss with
    | nil => rfl
    | cons s rest ih =>
      rw [Text.commaTail, Template.raw_append, Template.raw_append, ih, List.map_cons,
        Template.joinTail]
  cases ss with
  | nil => rfl
  | cons s rest => rw [Text.commaList, Template.raw_append, htail, List.map_cons, Template.join]

theorem Predicate.IsSimple.spells_integerMember {c : Column} {integers : List Int64}
    {negated : Bool} (h : (Predicate.integerMember c integers negated).IsSimple) :
    (Predicate.integerMember c integers negated).Spells settings := by
  have hlist : Template.raw (Text.commaList (integers.map fun n =>
      String.ofList (Json.intChars n.toInt))) =
      .join ", " (integers.map fun n => .raw (String.ofList (Json.intChars n.toInt))) := by
    rw [Text.raw_commaList, List.map_map]
    rfl
  cases integers with
  | nil => exact .constant rfl (by cases negated <;> rfl)
  | cons k rest =>
    refine .plain rfl rfl rfl fun n hn => ?_
    rw [hlist] at hn ⊢
    have hlength := Nat.le_trans (length_le_membership c negated _) hn
    rw [List.length_map] at hlength
    exact .membership h (.integerMember (List.cons_ne_nil _ _) hlength)

theorem Predicate.IsSimple.spells {p : Predicate} (h : p.IsSimple)
    (hgroup : ∀ conditions, p ≠ .group conditions) : p.Spells settings := by
  -- Resolving an operator once more changes nothing.
  have hresolve {operator : String} (h : Operator.resolve operator ∈ Operator.all)
      (left right : Template) :
      (Except.ok (some (Clause.comparison left (Operator.resolve operator) right)) :
        Except CompileError (Option Template)) =
      .ok (some (Clause.comparison left operator right)) := by
    rw [Clause.comparison, Clause.comparison, Operator.resolve_of_mem_all h]
  have hcomparison (left right : Template) (operator : String) :
      Clause.comparison left operator right =
        left ++ (.raw (" " ++ Operator.resolve operator ++ " ") ++ right) :=
    Template.append_assoc ..
  cases p with
  | compare c operator operand =>
    obtain ⟨hc, hoperator, hoperand⟩ := h
    obtain ⟨v, rfl, -⟩ := Reads.literal hoperand
    refine .plain rfl rfl (hresolve hoperator ..) fun n _ => ?_
    rw [hcomparison]
    exact .compare hc hoperator v
  | compareColumns first operator second =>
    obtain ⟨hfirst, hoperator, hsecond⟩ := h
    refine .plain rfl rfl (hresolve hoperator ..) fun n _ => ?_
    rw [hcomparison]
    exact .compareColumns hfirst hoperator hsecond
  | date unit c operator operand =>
    obtain ⟨hc, hoperator, hoperand⟩ := h
    obtain ⟨v, rfl, -⟩ := Reads.literal hoperand
    refine .plain rfl rfl (hresolve hoperator ..) fun n _ => ?_
    rw [hcomparison]
    exact .date hc unit hoperator v
  | member c operands negated => exact h.spells_member
  | integerMember c integers negated => exact h.spells_integerMember
  | null c negated => exact .plain rfl rfl rfl fun n _ => .null h negated
  | between c low high negated =>
    obtain ⟨hc, hlow, hhigh⟩ := h
    obtain ⟨v, rfl, -⟩ := Reads.literal hlow
    obtain ⟨w, rfl, -⟩ := Reads.literal hhigh
    exact .plain rfl rfl rfl fun n _ => .between hc v w negated
  | betweenColumns c low high negated =>
    exact .plain rfl rfl rfl fun n _ => .betweenColumns h.1 h.2.1 h.2.2 negated
  | group conditions => exact absurd rfl (hgroup conditions)
  | nonempty | bitwise | raw => cases h

end Leaves

/-! ## Lists of criteria -/

section Lists

variable {settings : Settings}

/-- The end of a text, or of a group. -/
def AtEnd (cs : List Char) : Prop := ∀ c, cs.head? = some c → c = ')'

theorem AtEnd.afterName {cs : List Char} (h : AtEnd cs) : AfterName cs := by
  intro hcs
  exact absurd (h _ hcs) (by decide)

/-- A criterion after its connective. -/
def linkTemplate (settings : Settings) (entry : Connective × Criterion) : Template :=
  .raw (" " ++ entry.1.keyword ++ " ") ++ entry.2.template settings

theorem connectedTail_criteriaTemplates (entries : List (Connective × Criterion)) :
    Clause.connectedTail (criteriaTemplates settings entries) =
      (entries.map (linkTemplate settings)).foldr (· ++ ·) (.raw "") := by
  induction entries with
  | nil => rfl
  | cons entry rest ih =>
    rw [criteriaTemplates, Clause.connectedTail, ih, List.map_cons, List.foldr_cons, linkTemplate]

/-- The text of connected criteria is as long as their number, and as each of them. -/
theorem length_le_connectedTail (settings : Settings) (entries : List (Connective × Criterion)) :
    entries.length ≤
        (Clause.connectedTail (criteriaTemplates settings entries)).text.toList.length ∧
      ∀ entry ∈ entries, (entry.2.template settings).text.toList.length ≤
        (Clause.connectedTail (criteriaTemplates settings entries)).text.toList.length := by
  rw [connectedTail_criteriaTemplates]
  induction entries with
  | nil => exact ⟨Nat.zero_le _, fun _ h => by cases h⟩
  | cons entry rest ih =>
    have hkeyword : 1 ≤ (" " ++ entry.1.keyword ++ " ").toList.length := by
      cases entry.1 <;> decide
    rw [List.map_cons, List.foldr_cons, Template.text_append, String.toList_append,
      List.length_append, linkTemplate, Template.text_append, Template.text_raw,
      String.toList_append, List.length_append, List.length_cons, List.forall_mem_cons]
    refine ⟨by omega, by omega, fun entry hentry => ?_⟩
    have := ih.2 entry hentry
    omega

theorem Reads.linked {r : Reader Criterion} {entry : Connective × Criterion}
    (h : Reads r AfterName entry.2 (entry.2.template settings)) :
    Reads (Reader.linked r) AfterName (some entry) (linkTemplate settings entry) := by
  obtain ⟨connective, c⟩ := entry
  have hkeyword : ' ' ∉ connective.keyword.toList ∧
      (if connective.keyword = "AND" then Connective.and else .or) = connective := by
    cases connective <;> decide
  unfold linkTemplate
  rw [Template.raw_append, Template.raw_append, Template.append_assoc, Template.append_assoc]
  refine .dispatch (c := ' ') (Template.first?_append (by decide) _) ?_
  refine (Reads.text " ").bind ((Reads.word hkeyword.1).bind ((Reads.text " ").bind ?_ ?_)
    fun cs _ => ?_) ?_
  · rw [hkeyword.2]
    exact h.map _
  · exact fun _ _ => trivial
  · exact Template.head?_of_first? (Template.first?_append (by decide) _) cs
  · exact fun _ _ => trivial

theorem afterName_linkTemplate (entries : List (Connective × Criterion)) :
    ∀ t ∈ entries.map (linkTemplate settings), ∀ cs, AfterName (t.text.toList ++ cs) := by
  rw [List.forall_mem_map]
  intro entry _ cs
  refine afterName_of_first? (c := ' ') (Template.first?_append ?_ _) (by decide) cs
  cases entry.1 <;> decide

theorem Reads.links {r : Reader Criterion} {entries : List (Connective × Criterion)}
    (h : ∀ entry ∈ entries, Reads r AfterName entry.2 (entry.2.template settings)) {n : Nat}
    (hn : entries.length ≤ n) :
    Reads (Reader.many (Reader.linked r) n) AtEnd entries
      (Clause.connectedTail (criteriaTemplates settings entries)) := by
  have hitems : List.Forall₂
      (fun entry t => Reads (Reader.linked r) AfterName (some entry) t) entries
      (entries.map (linkTemplate settings)) := by
    rw [List.forall₂_map_right_iff, List.forall₂_same]
    exact fun entry hentry => (h entry hentry).linked
  have hend : Reads (Reader.linked r) AtEnd none (.raw "") := by
    intro cs bs hcs
    cases cs with
    | nil => rfl
    | cons c cs =>
      cases hcs c rfl
      rfl
  rw [connectedTail_criteriaTemplates]
  exact Reads.many hitems (afterName_linkTemplate entries) hend (fun _ => AtEnd.afterName) hn

/-- Criteria that are read back one by one are read back as a list, without the connective of the
first. -/
theorem Reads.criteria {entries : List (Connective × Criterion)}
    (h : ∀ entry ∈ entries, entry.2.IsSpelled settings) {w : Template}
    (hw : Clause.connected (criteriaTemplates settings entries) = some w) {n : Nat}
    (hn : w.text.toList.length < n) :
    Reads (Reader.criteria n) AtEnd (forgetFirst entries) w := by
  cases entries with
  | nil => cases hw
  | cons entry rest =>
    obtain ⟨connective, first⟩ := entry
    cases n with
    | zero => exact absurd hn (Nat.not_lt_zero _)
    | succ n =>
      rw [criteriaTemplates] at hw
      cases hw
      rw [List.forall_mem_cons] at h
      rw [Template.text_append, String.toList_append, List.length_append] at hn
      obtain ⟨hfewer, hshorter⟩ := length_le_connectedTail settings rest
      have hfirst : Reads _ AfterName first _ := h.1 n (by dsimp only; omega)
      have hrest : ∀ entry ∈ rest, Reads _ AfterName entry.2 _ := fun entry hentry =>
        h.2 entry hentry n (by have := hshorter entry hentry; omega)
      refine hfirst.bind ((Reads.links hrest (by omega)).map _) fun cs hcs => ?_
      rw [connectedTail_criteriaTemplates]
      exact Reads.start_foldr (afterName_linkTemplate rest) (fun _ => AtEnd.afterName) cs hcs

/-- Conditions whose templates are those of criteria that are read back. -/
def SpellsAll (settings : Settings) (conditions : List Condition) : Prop :=
  conditionTemplates settings conditions = .ok (criteriaTemplates settings (criteria conditions)) ∧
    ∀ entry ∈ criteria conditions, entry.2.IsSpelled settings

theorem Predicate.Spells.group {conditions : List Condition} (h : SpellsAll settings conditions) :
    (Predicate.group conditions).Spells settings := by
  obtain ⟨htemplates, hspelled⟩ := h
  unfold Predicate.Spells
  rw [Predicate.template?, Predicate.criterion?, htemplates]
  cases hentries : criteria conditions with
  | nil =>
    refine ⟨?_, nofun⟩
    rw [criteriaTemplates]
    rfl
  | cons entry rest =>
    obtain ⟨connective, first⟩ := entry
    rw [hentries] at hspelled
    have hw : Clause.connected (criteriaTemplates settings ((connective, first) :: rest)) =
        some (first.template settings ++ Clause.connectedTail (criteriaTemplates settings rest)) := by
      rw [criteriaTemplates, Clause.connected]
    have hgroup : (Criterion.group (forgetFirst ((connective, first) :: rest))).template settings =
        .wrap "(" (first.template settings ++
          Clause.connectedTail (criteriaTemplates settings rest)) ")" := by
      rw [Criterion.template, forgetFirst, criteriaTemplates, Clause.connected]
      rfl
    refine ⟨?_, fun c hc n hn => ?_⟩
    · show Except.ok (Option.map _ (Clause.connected _)) = Except.ok (some (Criterion.template _ _))
      rw [hw, hgroup]
      rfl
    · cases hc
      rw [hgroup] at hn ⊢
      rw [Template.wrap_eq, Template.append_assoc] at hn ⊢
      have hlength : 1 ≤ "(".toList.length := by decide
      rw [Template.text_append, Template.text_append, String.toList_append, String.toList_append,
        List.length_append, List.length_append, Template.text_raw] at hn
      have hinner := Reads.criteria hspelled hw (n := n) (by omega)
      refine .dispatch (c := '(') (Template.first?_append (by decide) _) ?_
      refine (Reads.text "(").bind (hinner.bind (((Reads.text ")").map _).mono ?_) ?_) ?_
      · exact fun _ _ => trivial
      · intro cs _ c hc
        rw [Template.head?_of_first? (c := ')') (by decide)] at hc
        exact (Option.some.inj hc).symm
      · exact fun _ _ => trivial

/-- Conditions of simple predicates, at any depth. -/
theorem spellsAll (settings : Settings) (conditions : List Condition)
    (h : ∀ p ∈ conditionPredicates conditions, p.IsSimple) : SpellsAll settings conditions := by
  induction conditions using conditions_induction with
  | nil =>
    refine ⟨?_, nofun⟩
    rw [conditionTemplates, criteria, criteriaTemplates]
  | cons connective predicate rest inner ih =>
    rw [conditionPredicates_cons, List.forall_mem_cons, List.forall_mem_append] at h
    obtain ⟨hpredicate, hinner, hrest⟩ := h
    have hspells : predicate.Spells settings := by
      cases predicate with
      | group conditions => exact .group (inner hinner)
      | _ => exact hpredicate.spells nofun
    obtain ⟨htemplate, hspelled⟩ := hspells
    obtain ⟨htemplates, hothers⟩ := ih hrest
    unfold SpellsAll
    rw [conditionTemplates, criteria, htemplate, htemplates]
    cases hc : predicate.criterion? with
    | none => exact ⟨rfl, hothers⟩
    | some c =>
      refine ⟨?_, ?_⟩
      · show Except.ok ((connective, c.template settings) :: _) = _
        rw [Option.toList_some, List.map_singleton, List.singleton_append, criteriaTemplates]
        rfl
      · rw [Option.toList_some, List.map_singleton, List.singleton_append, List.forall_mem_cons]
        exact ⟨hspelled c hc, hothers⟩

end Lists

/-! ## The clause of conditions -/

/-- The clause depends on the canonical form alone. -/
theorem connected_forgetFirst (settings : Settings) (entries : List (Connective × Criterion)) :
    Clause.connected (criteriaTemplates settings (forgetFirst entries)) =
      Clause.connected (criteriaTemplates settings entries) := by
  cases entries with
  | nil => rfl
  | cons entry rest => rw [forgetFirst, criteriaTemplates, criteriaTemplates]; rfl

theorem Clause.filter_inj {s t : Option Template} (h : Clause.filter s = Clause.filter t) :
    s = t := by
  have hinj : Function.Injective (Clause.after "WHERE") := by
    intro s t h
    obtain ⟨text, bindings⟩ := s
    obtain ⟨text', bindings'⟩ := t
    obtain ⟨htext, hbindings⟩ := Template.mk.inj h
    have hchars := congrArg String.toList htext
    rw [String.toList_append, String.toList_append, List.append_cancel_left_eq,
      String.toList_inj] at hchars
    rw [Template.mk.injEq]
    exact ⟨hchars, hbindings⟩
  cases s <;> cases t
  · rfl
  · cases h
  · cases h
  · exact congrArg some (hinj (List.cons.inj h).1)

theorem Clause.conditions_of_spellsAll {settings : Settings} {conditions : List Condition}
    (h : SpellsAll settings conditions) : Clause.conditions settings conditions =
      .ok (Clause.filter (Clause.connected (criteriaTemplates settings (canonical conditions)))) := by
  rw [Clause.conditions, h.1, canonical, connected_forgetFirst]
  rfl

/-- The canonical form is read back from the clause. -/
theorem canonical_eq_of_connected_eq {settings : Settings} {as bs : List Condition}
    (ha : SpellsAll settings as) (hb : SpellsAll settings bs)
    (h : Clause.connected (criteriaTemplates settings (canonical as)) =
      Clause.connected (criteriaTemplates settings (canonical bs))) :
    canonical as = canonical bs := by
  unfold canonical at *
  rw [connected_forgetFirst, connected_forgetFirst] at h
  cases hw : Clause.connected (criteriaTemplates settings (criteria as)) with
  | none =>
    have hnil {entries : List (Connective × Criterion)}
        (h : Clause.connected (criteriaTemplates settings entries) = none) : entries = [] := by
      cases entries with
      | nil => rfl
      | cons entry rest => rw [criteriaTemplates] at h; cases h
    rw [hnil hw, hnil (h.symm.trans hw)]
  | some w =>
    have hread := Reads.criteria ha.2 hw (Nat.lt_succ_self _)
    have hread' := Reads.criteria hb.2 (h.symm.trans hw) (Nat.lt_succ_self _)
    exact hread.inj hread' nofun

/-- **Compiling conditions loses no meaning.** Conditions of simple predicates, at any depth, have a
clause. Two lists of them have the same clause, text and bindings, if and only if they have the same
canonical form. -/
theorem conditions_eq_iff_canonical (settings : Settings) {as bs : List Condition}
    (ha : ∀ p ∈ conditionPredicates as, p.IsSimple)
    (hb : ∀ p ∈ conditionPredicates bs, p.IsSimple) :
    (∃ ts, Clause.conditions settings as = .ok ts) ∧
      (Clause.conditions settings as = Clause.conditions settings bs ↔
        canonical as = canonical bs) := by
  have hspells := spellsAll settings as ha
  have hspells' := spellsAll settings bs hb
  rw [Clause.conditions_of_spellsAll hspells, Clause.conditions_of_spellsAll hspells']
  refine ⟨⟨_, rfl⟩, fun h => ?_, fun h => by rw [h]⟩
  exact canonical_eq_of_connected_eq hspells hspells' (Clause.filter_inj (Except.ok.inj h))

/-- Conditions with a group that holds nothing, a name that could be taken for a group, and an
operator in words. -/
def wordy : List Condition := [
  ⟨.or, .group [⟨.and, .group []⟩]⟩,
  ⟨.or, .compare (.name "a`b) AND ($?") "Is  Not" (.literal (.int 3))⟩,
  ⟨.and, .group [⟨.or, .member (.name "tags") [] true⟩, ⟨.and, .null (.name "age") false⟩]⟩]

/-- The same conditions in as few words as possible. -/
def terse : List Condition := [
  ⟨.and, .compare (.name "a`b) AND ($?") "!=" (.literal (.int 3))⟩,
  ⟨.and, .group [⟨.and, .integerMember (.name "*") [] true⟩, ⟨.and, .null (.name "age") false⟩]⟩]

theorem conditions_eq_iff_canonical_wordy :
    (∀ p ∈ conditionPredicates wordy, p.IsSimple) ∧
      (∀ p ∈ conditionPredicates terse, p.IsSimple) ∧
      Clause.conditions ⟨"app_"⟩ wordy = Clause.conditions ⟨"app_"⟩ terse ∧
      Clause.conditions ⟨"app_"⟩ terse ≠ Clause.conditions ⟨"app_"⟩ (terse.take 1) := by
  have hwordy : ∀ p ∈ conditionPredicates wordy, p.IsSimple := by decide +kernel
  have hterse : ∀ p ∈ conditionPredicates terse, p.IsSimple := by decide +kernel
  have hshort : ∀ p ∈ conditionPredicates (terse.take 1), p.IsSimple := by decide +kernel
  refine ⟨hwordy, hterse, ?_, fun h => ?_⟩
  · exact (conditions_eq_iff_canonical ⟨"app_"⟩ hwordy hterse).2.2 rfl
  · have := (conditions_eq_iff_canonical ⟨"app_"⟩ hterse hshort).2.1 h
    cases this

end SurrealQuery
