import SurrealQuery.Proofs.Congruence.Statement

/-!
# Placeholders stand for bindings in order

Filling in a template replaces its placeholders from left to right by texts for its bindings.
Inlining puts the same texts into a request before it is compiled. `compile_inlining`: it comes to
the same, if no text that is given without values has a placeholder and all others have as many
placeholders as values.
-/

namespace SurrealQuery

open Template (countPlaceholders)

variable (ρ : Binding → String)

/-! ## Filling in -/

/-- Replaces the placeholders of a text, the first one by the text for the first binding. -/
def fillChars : List Char → List Binding → List Char
  | '$' :: '?' :: cs, b :: bs => (ρ b).toList ++ fillChars cs bs
  | c :: cs, bs => c :: fillChars cs bs
  | [], _ => []

/-- The text of a template with its bindings filled in. -/
def Template.fill (t : Template) : String :=
  String.ofList (fillChars ρ t.text.toList t.bindings)

/-- A statement with its bindings filled in. -/
def Statement.fill (s : Statement) : Statement :=
  ⟨s.verb, .raw (s.template.fill ρ)⟩

/-- As many placeholders as bindings. -/
def Template.Complete (t : Template) : Prop :=
  t.placeholders = t.bindings.length

instance (t : Template) : Decidable t.Complete :=
  inferInstanceAs (Decidable (_ = _))

/-- As many placeholders as values. -/
def Call.Complete (c : Call) : Prop :=
  countPlaceholders c.expression.toList = c.arguments.length

instance (c : Call) : Decidable c.Complete :=
  inferInstanceAs (Decidable (_ = _))

theorem fillChars_cons {c : Char} {cs : List Char} (h : c = '$' → cs.head? ≠ some '?')
    (bs : List Binding) : fillChars ρ (c :: cs) bs = c :: fillChars ρ cs bs := by
  rw [fillChars]
  rintro b rest bs rfl rfl rfl
  exact h rfl rfl

/-- Without bindings a text stays as it is. -/
theorem fillChars_nil (cs : List Char) : fillChars ρ cs [] = cs := by
  induction cs with
  | nil => rfl
  | cons c cs ih =>
    rw [fillChars, ih]
    rintro rest b bs ⟨⟩

/-- A text that uses up its bindings leaves the others to what follows it. -/
theorem fillChars_append {cs ds : List Char} {bs bs' : List Binding}
    (hcount : countPlaceholders cs = bs.length)
    (h : cs.getLast? = some '$' → ds.head? ≠ some '?') :
    fillChars ρ (cs ++ ds) (bs ++ bs') = fillChars ρ cs bs ++ fillChars ρ ds bs' := by
  induction cs using placeholder_induction generalizing bs with
  | nil =>
    cases bs with
    | nil => rfl
    | cons b bs => cases hcount
  | mark cs ih =>
    cases bs with
    | nil => cases hcount
    | cons b bs =>
      -- The placeholder takes the first binding, and the rest of the text uses up the others.
      have hcs := ih (Nat.succ.inj hcount)
        fun hl => h (getLast?_eq_of_cons (getLast?_eq_of_cons hl))
      rw [List.cons_append, List.cons_append, List.cons_append, fillChars, fillChars, hcs,
        List.append_assoc]
  | char c cs hc ih =>
    rw [countPlaceholders_cons hc] at hcount
    rw [List.cons_append, fillChars_cons ρ (head?_append_ne hc h), fillChars_cons ρ hc,
      ih hcount fun hl => h (getLast?_eq_of_cons hl), List.cons_append]

theorem Template.fill_append {s t : Template} (hs : s.Complete) (h : Apart s.text t.text) :
    (s ++ t).fill ρ = s.fill ρ ++ t.fill ρ := by
  have hchars : fillChars ρ (s.text.toList ++ t.text.toList) (s.bindings ++ t.bindings) =
      fillChars ρ s.text.toList s.bindings ++ fillChars ρ t.text.toList t.bindings :=
    fillChars_append ρ hs h
  unfold Template.fill
  rw [text_append, bindings_append, String.toList_append, hchars, String.ofList_append]

theorem Template.Complete.append {s t : Template} (hs : s.Complete) (ht : t.Complete)
    (h : Apart s.text t.text) : (s ++ t).Complete := by
  unfold Template.Complete Template.placeholders at *
  rw [text_append, bindings_append, String.toList_append, countPlaceholders_append h, hs, ht,
    List.length_append]

/-! ## Inlining -/

/-- The text of a call with its values filled in. -/
def Call.fill (channel : Channel) (c : Call) : String :=
  (Template.bound channel c.expression c.arguments).fill ρ

/-- Puts the texts for the values of a request in the place of the values. -/
def inlining : Rewriting where
  literal v := .raw (ρ ⟨v, .query⟩)
  operand c := .raw (c.fill ρ .function)
  column c := .raw (c.fill ρ .function)
  predicate c := ⟨c.fill ρ .query, []⟩
  column_isNamed _ _ := rfl

/-- A template that uses up its bindings, and the text which they leave behind. -/
def Filled (t u : Template) : Prop :=
  t.Complete ∧ u = .raw (t.fill ρ)

theorem filled_raw {s : String} (h : IsPlain s) : Filled ρ (.raw s) (.raw s) := by
  refine ⟨h, ?_⟩
  unfold Template.fill
  rw [Template.text_raw, Template.bindings_raw, fillChars_nil, String.ofList_toList]

theorem filled_bound (channel : Channel) {c : Call} (h : c.Complete) :
    Filled ρ (.bound channel c.expression c.arguments) (.raw (c.fill ρ channel)) := by
  refine ⟨?_, rfl⟩
  unfold Template.Complete Template.bound
  rw [List.length_map]
  exact h

theorem filled_literal (v : Value) : Filled ρ (.literal v) (.raw (ρ ⟨v, .query⟩)) := by
  have hmark : Template.placeholder.toList = ['$', '?'] := by decide
  unfold Filled Template.Complete Template.placeholders Template.fill Template.literal
  rw [hmark, fillChars, fillChars, List.append_nil, String.ofList_toList]
  exact ⟨rfl, rfl⟩

theorem Filled.append {s t u v : Template} (h : Apart s.text t.text) (hs : Filled ρ s u)
    (ht : Filled ρ t v) : Filled ρ (s ++ t) (u ++ v) := by
  obtain ⟨hs, rfl⟩ := hs
  obtain ⟨ht, rfl⟩ := ht
  refine ⟨hs.append ht h, ?_⟩
  rw [Template.fill_append ρ hs h]
  rfl

theorem respects_filled : Respects (inlining ρ) Call.Complete (Filled ρ) where
  plain h := h
  text _ hs good := filled_raw ρ (hs good)
  append h hs ht := hs.append ρ h ht
  literal v := filled_literal ρ v
  operand h := filled_bound ρ .function h
  column h := filled_bound ρ .function h
  predicate h := filled_bound ρ .query h

/-- Statements with related templates are one statement, filled in. -/
theorem Filled.outcome {x y : Except CompileError Statement}
    (h : Agree (Statement.Related (Filled ρ)) x y) :
    y = x.map (Statement.fill ρ) ∧ ∀ s, x = .ok s → s.template.Complete := by
  constructor
  · refine (h.mono fun s t hst => ?_).eq_map
    obtain ⟨verb, template⟩ := t
    obtain ⟨rfl, -, rfl⟩ := hst
    rfl
  · rintro s rfl
    cases h with
    | ok hst => exact hst.2.1

/-- **The n-th placeholder stands for the n-th binding.** Let every call and every raw predicate have
as many placeholders as values, and all else that the caller says have none. Then a statement has
as many placeholders as bindings, and with its bindings filled in it is the statement of the request
with the values inlined. -/
theorem compile_inlining (settings : Settings) :
    (∀ r : Request, (∀ c ∈ r.parts settings, c.Complete) →
      (r.rewrite (inlining ρ)).compile settings = (r.compile settings).map (Statement.fill ρ) ∧
        ∀ s, r.compile settings = .ok s → s.template.Complete) ∧
    ∀ (q : Query) (columns : List Column) (source : Query),
      (∀ c ∈ q.parts settings ++ columns.flatMap Column.parts ++ source.parts settings,
        c.Complete) →
      Statement.insertUsing settings (q.rewrite (inlining ρ))
          (columns.map (Column.rewrite (inlining ρ))) (source.rewrite (inlining ρ)) =
        (Statement.insertUsing settings q columns source).map (Statement.fill ρ) ∧
        ∀ s, Statement.insertUsing settings q columns source = .ok s → s.template.Complete := by
  refine ⟨fun r complete => ?_, fun q columns source complete => ?_⟩
  · exact Filled.outcome ρ ((respects_filled ρ).compile complete)
  · rw [List.forall_mem_append, List.forall_mem_append] at complete
    obtain ⟨⟨hq, hcolumns⟩, hsource⟩ := complete
    have htable : ∀ t ∈ settings.tableTexts q.target, Call.Complete ⟨t, []⟩ :=
      fun t ht => hq _ (Query.mem_parts_of_tableTexts ht)
    exact Filled.outcome ρ ((respects_filled ρ).insertUsing htable hcolumns hsource)

/-- Orders above a limit, which is given as a call. -/
def largeOrders : Query where
  target := "orders"
  columns := some [.name "id", .call ⟨"math::fixed(total, $?)", [.int 2]⟩]
  conditions := [⟨.and, .compare (.name "total") ">" (.call ⟨"fn::limit($?, $?)", [.int 5, .null]⟩)⟩]

/-- An update with values in a group, in a query inside of it, and in what is written. -/
def promotion : Request :=
  .update {
    target := "users"
    conditions := [
      ⟨.and, .compare (.name "name") "=" (.literal (.text "Ann"))⟩,
      ⟨.or, .group [
        ⟨.and, .nonempty largeOrders false⟩,
        ⟨.and, .raw "age > $?" [.int 18]⟩]⟩] }
    { entries := [("rank", .call ⟨"math::max($?)", [.int 7]⟩), ("active", .literal (.bool true))] }

theorem compile_inlining_promotion :
    let ρ : Binding → String := fun b => if b.channel = .query then "q" else "f"
    (∀ c ∈ promotion.parts ⟨"app_"⟩, c.Complete) ∧
      ((promotion.rewrite (inlining ρ)).compile ⟨"app_"⟩ =
          (promotion.compile ⟨"app_"⟩).map (Statement.fill ρ) ∧
        ∀ s, promotion.compile ⟨"app_"⟩ = .ok s → s.template.Complete) ∧
      (Statement.insertUsing ⟨"app_"⟩ (largeOrders.rewrite (inlining ρ)) []
          (largeOrders.rewrite (inlining ρ)) =
        (Statement.insertUsing ⟨"app_"⟩ largeOrders [] largeOrders).map (Statement.fill ρ)) ∧
      (promotion.compile ⟨"app_"⟩).toOption.map (·.template.bindings.map Binding.channel) =
        some [.function, .query, .query, .function, .function, .function, .query] := by
  refine ⟨by decide +kernel, ?_, ?_, by decide +kernel⟩
  · exact (compile_inlining _ ⟨"app_"⟩).1 promotion (by decide +kernel)
  · exact ((compile_inlining _ ⟨"app_"⟩).2 largeOrders [] largeOrders (by decide +kernel)).1

end SurrealQuery
