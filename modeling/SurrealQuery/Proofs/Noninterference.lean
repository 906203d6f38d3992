import SurrealQuery.Proofs.Congruence.Statement

/-!
# Values do not reach the text

A value that a caller gives is bound and never written. `compile_mapping`: replacing the values of a
request replaces those bound by its statement and nothing else. So requests that differ in their
values alone fail alike, or have statements with the same text and the same channels.
-/

namespace SurrealQuery

/-! ## Replacing values -/

section Mapping

variable (f : Value → Value)

def Binding.mapValue (b : Binding) : Binding :=
  ⟨f b.value, b.channel⟩

/-- The same text with other values. -/
def Template.mapValues (t : Template) : Template :=
  ⟨t.text, t.bindings.map (Binding.mapValue f)⟩

def Statement.mapValues (s : Statement) : Statement :=
  ⟨s.verb, s.template.mapValues f⟩

def Call.mapValues (c : Call) : Call :=
  ⟨c.expression, c.arguments.map f⟩

/-- Replaces every value of a request, wherever it stands. -/
def mapping : Rewriting where
  literal v := .literal (f v)
  operand c := .call (c.mapValues f)
  column c := .call (c.mapValues f)
  predicate c := c.mapValues f
  column_isNamed _ _ := rfl

theorem Template.mapValues_append (s t : Template) :
    (s ++ t).mapValues f = s.mapValues f ++ t.mapValues f := by
  unfold Template.mapValues
  rw [text_append, bindings_append, List.map_append]
  rfl

theorem Template.mapValues_bound (channel : Channel) (c : Call) :
    (Template.bound channel c.expression c.arguments).mapValues f =
      .bound channel (c.mapValues f).expression (c.mapValues f).arguments := by
  unfold Template.mapValues Template.bound Call.mapValues
  rw [List.map_map, List.map_map]
  rfl

theorem respects_mapValues :
    Respects (mapping f) (fun _ => True) (fun t u => u = t.mapValues f) where
  plain _ := trivial
  text _ _ _ := rfl
  append _ hs ht := by rw [hs, ht, Template.mapValues_append]
  literal _ := rfl
  operand _ := (Template.mapValues_bound f .function _).symm
  column _ := (Template.mapValues_bound f .function _).symm
  predicate _ := (Template.mapValues_bound f .query _).symm

theorem eq_map_mapValues {x y : Except CompileError Statement}
    (h : Agree (Statement.Related fun t u => u = t.mapValues f) x y) :
    y = x.map (Statement.mapValues f) := by
  refine (h.mono fun s t hst => ?_).eq_map
  obtain ⟨verb, template⟩ := t
  obtain ⟨rfl, rfl⟩ := hst
  rfl

theorem compile_rewrite_mapping (settings : Settings) (r : Request) :
    (r.rewrite (mapping f)).compile settings =
      (r.compile settings).map (Statement.mapValues f) :=
  eq_map_mapValues f ((respects_mapValues f).compile fun _ _ => trivial)

theorem insertUsing_rewrite_mapping (settings : Settings) (q : Query) (columns : List Column)
    (source : Query) :
    Statement.insertUsing settings (q.rewrite (mapping f))
        (columns.map (Column.rewrite (mapping f))) (source.rewrite (mapping f)) =
      (Statement.insertUsing settings q columns source).map (Statement.mapValues f) :=
  eq_map_mapValues f ((respects_mapValues f).insertUsing (fun _ _ => trivial)
    (fun _ _ => trivial) fun _ _ => trivial)

end Mapping

/-! ## Differing in values alone -/

/-- Forgets what the values are, and keeps how many there are and where they stand. -/
def erasing : Rewriting :=
  mapping fun _ => .null

/-- Statements that differ in the values of their bindings alone. -/
def Statement.SameText (s t : Statement) : Prop :=
  s.verb = t.verb ∧ s.template.text = t.template.text ∧
    s.template.bindings.map Binding.channel = t.template.bindings.map Binding.channel

theorem Statement.sameText_of_mapValues_eq {s t : Statement} {f : Value → Value}
    (h : s.mapValues f = t.mapValues f) : s.SameText t := by
  obtain ⟨verb, text, bindings⟩ := s
  obtain ⟨verb', text', bindings'⟩ := t
  obtain ⟨rfl, htemplate⟩ := Statement.mk.inj h
  obtain ⟨rfl, hbindings⟩ := Template.mk.inj htemplate
  have hchannels := congrArg (List.map Binding.channel) hbindings
  rw [List.map_map, List.map_map] at hchannels
  exact ⟨rfl, rfl, hchannels⟩

/-- Requests that become equal when their values are forgotten. -/
theorem Request.agree_sameText (settings : Settings) {r r' : Request}
    (h : r.rewrite erasing = r'.rewrite erasing) :
    Agree Statement.SameText (r.compile settings) (r'.compile settings) := by
  have herased : (r.compile settings).map (Statement.mapValues fun _ => .null) =
      (r'.compile settings).map (Statement.mapValues fun _ => .null) := by
    rw [← compile_rewrite_mapping, ← compile_rewrite_mapping]
    exact congrArg (Request.compile settings) h
  exact (Agree.of_map_eq herased).mono fun s t => Statement.sameText_of_mapValues_eq

/-- **Values do not reach the text.** Replacing the values of what is compiled replaces the bound
values. What becomes equal when the values are forgotten fails with the same error, or gives the
same verb, text and channels. -/
theorem compile_mapping (settings : Settings) :
    (∀ (f : Value → Value) (r : Request), (r.rewrite (mapping f)).compile settings =
      (r.compile settings).map (Statement.mapValues f)) ∧
    (∀ (f : Value → Value) (q : Query) (columns : List Column) (source : Query),
      Statement.insertUsing settings (q.rewrite (mapping f))
          (columns.map (Column.rewrite (mapping f))) (source.rewrite (mapping f)) =
        (Statement.insertUsing settings q columns source).map (Statement.mapValues f)) ∧
    (∀ r r' : Request, r.rewrite erasing = r'.rewrite erasing →
      Agree Statement.SameText (r.compile settings) (r'.compile settings)) ∧
    ∀ (q q' : Query) (columns columns' : List Column) (source source' : Query),
      q.rewrite erasing = q'.rewrite erasing →
      columns.map (Column.rewrite erasing) = columns'.map (Column.rewrite erasing) →
      source.rewrite erasing = source'.rewrite erasing →
      Agree Statement.SameText (Statement.insertUsing settings q columns source)
        (Statement.insertUsing settings q' columns' source') := by
  refine ⟨fun f r => compile_rewrite_mapping f settings r,
    fun f q columns source => insertUsing_rewrite_mapping f settings q columns source,
    fun r r' h => ?_, fun q q' columns columns' source source' hq hcolumns hsource => ?_⟩
  · exact Request.agree_sameText settings h
  · have herased : (Statement.insertUsing settings q columns source).map
          (Statement.mapValues fun _ => .null) =
        (Statement.insertUsing settings q' columns' source').map
          (Statement.mapValues fun _ => .null) := by
      rw [← insertUsing_rewrite_mapping, ← insertUsing_rewrite_mapping]
      show Statement.insertUsing settings (q.rewrite erasing)
        (columns.map (Column.rewrite erasing)) (source.rewrite erasing) = _
      rw [hq, hcolumns, hsource]
      rfl
    exact (Agree.of_map_eq herased).mono fun s t => Statement.sameText_of_mapValues_eq

/-- A search with one value inside of a query, and again next to it. -/
def searchFor (v : Value) : Query where
  target := "users"
  conditions := [
    ⟨.and, .group [
      ⟨.and, .nonempty {
        target := "orders"
        conditions := [⟨.and, .compare (.name "total") ">" (.literal v)⟩] } true⟩,
      ⟨.or, .raw "age > $?" [v]⟩]⟩]

theorem compile_mapping_searchFor :
    (Request.select (searchFor (.int 5))).rewrite erasing =
        (Request.select (searchFor (.text "0 OR true"))).rewrite erasing ∧
      Agree Statement.SameText ((Request.select (searchFor (.int 5))).compile {})
        ((Request.select (searchFor (.text "0 OR true"))).compile {}) ∧
      Agree Statement.SameText
        (Statement.insertUsing {} (searchFor .null) [.call ⟨"fn::key($?)", [.null]⟩]
          (searchFor (.int 5)))
        (Statement.insertUsing {} (searchFor .null) [.call ⟨"fn::key($?)", [.int 1]⟩]
          (searchFor (.text "0 OR true"))) := by
  have herased : (searchFor (.int 5)).rewrite erasing =
      (searchFor (.text "0 OR true")).rewrite erasing := rfl
  refine ⟨congrArg Request.select herased, ?_, ?_⟩
  · exact (compile_mapping {}).2.2.1 _ _ (congrArg Request.select herased)
  · exact (compile_mapping {}).2.2.2 _ _ _ _ _ _ rfl rfl herased

end SurrealQuery
