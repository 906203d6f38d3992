import SurrealQuery.Proofs.Insertion
import SurrealQuery.Proofs.Subquery

/-!
# What a query selects

A query without aggregate asks for a list of items: its columns, or `*` if it names none, and after
them its paths along edges. They stand between `SELECT` and `FROM` with commas between them, unless
the list of columns is given and empty. Then there is nothing in the place of the columns, and what
is selected is nothing at all or begins with a comma (`select_items_iff`).
-/

namespace SurrealQuery

/-! ## Texts that are not empty -/

theorem Text.commaTail_append (ss ts : List String) :
    commaTail (ss ++ ts) = commaTail ss ++ commaTail ts := by
  induction ss with
  | nil => rw [List.nil_append, commaTail, String.empty_append]
  | cons s ss ih =>
    rw [List.cons_append, commaTail, commaTail, ih]
    simp only [String.append_assoc]

theorem Text.commaList_append {ss : List String} (h : ss ≠ []) (ts : List String) :
    commaList (ss ++ ts) = commaList ss ++ commaTail ts := by
  cases ss with
  | nil => exact absurd rfl h
  | cons s ss =>
    rw [List.cons_append, commaList, commaList, commaTail_append, String.append_assoc]

namespace Identifier

theorem quote_ne_empty (name : String) : quote name ≠ "" := by
  intro h
  unfold quote at h
  split at h
  · rename_i hall
    rw [hall] at h
    exact absurd h (by decide)
  · have hchars := congrArg String.toList h
    simp at hchars

theorem path_ne_empty (name : String) : path name ≠ "" := by
  intro h
  unfold path at h
  split at h
  · rename_i hpoint
    rw [h] at hpoint
    exact absurd hpoint (by decide)
  · exact quote_ne_empty name h

theorem column_ne_empty (name : String) : column name ≠ "" := by
  intro h
  unfold column withAlias at h
  split at h
  · rw [String.append_eq_empty_iff] at h
    exact quote_ne_empty _ h.2
  · exact path_ne_empty _ h

end Identifier

/-- A column that is not an empty text or call. -/
def Column.HasText : Column → Prop
  | .name _ => True
  | .raw text => text ≠ ""
  | .call c => c.expression ≠ ""

instance : DecidablePred Column.HasText
  | .name _ => inferInstanceAs (Decidable True)
  | .raw text => inferInstanceAs (Decidable (text ≠ ""))
  | .call c => inferInstanceAs (Decidable (c.expression ≠ ""))

theorem Column.text_ne_empty {c : Column} (h : c.HasText) : c.template.text ≠ "" := by
  cases c with
  | name name => exact Identifier.column_ne_empty name
  | raw text => exact h
  | call c => exact h

/-! ## Items -/

namespace Query

/-- A query whose columns and paths are not empty texts. -/
def HasTexts (q : Query) : Prop :=
  (∀ c ∈ q.columns.getD [], c.HasText) ∧ ∀ path ∈ q.edges, path ≠ ""

instance : DecidablePred HasTexts :=
  fun _ => inferInstanceAs (Decidable (_ ∧ _))

/-- The items that a query without aggregate asks for. -/
def items (q : Query) : List String :=
  (match q.columns with
    | none | some [] => ["*"]
    | some columns => columns.map (·.template.text)) ++ q.edges

theorem items_ne_nil (q : Query) : q.items ≠ [] := by
  unfold items
  split
  · exact List.cons_ne_nil _ _
  · exact List.cons_ne_nil _ _
  · rename_i columns hne _
    cases columns with
    | nil => exact absurd rfl hne
    | cons column rest => exact List.cons_ne_nil _ _

theorem ne_empty_of_mem_items {q : Query} (h : q.HasTexts) : ∀ item ∈ q.items, item ≠ "" := by
  obtain ⟨hcolumns, hedges⟩ := h
  unfold items
  rw [List.forall_mem_append]
  refine ⟨?_, hedges⟩
  split
  · decide
  · decide
  · rename_i columns _ hgiven
    rw [hgiven] at hcolumns
    exact List.forall_mem_map.2 fun c hc => Column.text_ne_empty (hcolumns c hc)

/-- What stands between `SELECT` and `FROM`. -/
def projection (q : Query) : String :=
  Text.commaList ((q.columns.getD [.name "*"]).map (·.template.text)) ++ Text.commaTail q.edges

theorem projection_eq_items {q : Query} (h : q.columns ≠ some []) :
    q.projection = Text.commaList q.items := by
  unfold projection items
  split
  · rename_i hcolumns
    rw [hcolumns, Text.commaList_append (List.cons_ne_nil _ _)]
    rfl
  · rename_i hcolumns
    exact absurd hcolumns h
  · rename_i columns _ hcolumns
    have hne : columns.map (·.template.text) ≠ [] := by
      rw [Ne, List.map_eq_nil_iff]
      rintro rfl
      exact h hcolumns
    rw [hcolumns, Text.commaList_append hne]
    rfl

theorem projection_of_nil {q : Query} (h : q.columns = some []) :
    q.projection = Text.commaTail q.edges := by
  unfold projection
  rw [h]
  exact String.empty_append

theorem items_of_nil {q : Query} (h : q.columns = some []) : q.items = "*" :: q.edges := by
  unfold items
  rw [h]
  rfl

/-! ## Items in the text -/

/-- A text selects the given from the target of a query. -/
def Shows (settings : Settings) (q : Query) (selected text : String) : Prop :=
  ∃ table rest, settings.table q.target = .ok table ∧
    text = "SELECT " ++ selected ++ " FROM " ++ table ++ rest

variable {settings : Settings} {q : Query}

theorem shows_projection {t : Template} (haggregate : q.aggregate = none)
    (ht : q.template settings = .ok t) : q.Shows settings q.projection t.text := by
  obtain ⟨table, links, htable, -, rfl⟩ := Query.template_eq_ok ht
  have hselection : (Clause.selection q).text = "SELECT " ++ q.projection := by
    unfold Clause.selection
    rw [haggregate]
    show _ ++ (Template.join ", " _).text ++ _ = _
    rw [Template.text_join_comma, List.map_map, String.append_assoc]
    rfl
  refine ⟨table, (Template.joinTail " " (Clause.filter (Clause.connected links) ++
    Clause.afterConditions q)).text, htable, ?_⟩
  have hfrom : " FROM " = " " ++ "FROM " := rfl
  rw [Template.join, Template.joinTail, hfrom]
  simp only [Template.text_append, Template.text_raw, hselection, String.append_assoc]

/-- What is selected is the items, except for an empty list of columns: the item `*` is not there. -/
theorem shows_items_iff {text : String} (h : q.Shows settings q.projection text) :
    q.Shows settings (Text.commaList q.items) text ↔ q.columns ≠ some [] := by
  constructor
  · rintro ⟨table, rest, -, htext⟩ hnil
    obtain ⟨table', rest', -, htext'⟩ := h
    rw [htext, projection_of_nil hnil, items_of_nil hnil] at htext'
    -- Behind the keyword the one text has a star, and the other a blank or a comma.
    have hchars := congrArg (fun text => text.toList[7]?) htext'
    cases hedges : q.edges with
    | nil => simp [hedges, Text.commaList, Text.commaTail] at hchars
    | cons path paths => simp [hedges, Text.commaList, Text.commaTail] at hchars
  · intro hne
    rwa [← projection_eq_items hne]

/-- A text has the items of a query where it selects, unless the list of columns is empty. With an
empty list there are only the paths, each after a comma. -/
def IsSelectedBy (settings : Settings) (q : Query) (text : String) : Prop :=
  (q.Shows settings (Text.commaList q.items) text ↔ q.columns ≠ some []) ∧
    (q.columns = some [] → q.Shows settings (Text.commaTail q.edges) text)

theorem isSelectedBy_template {t : Template} (haggregate : q.aggregate = none)
    (ht : q.template settings = .ok t) : q.IsSelectedBy settings t.text := by
  have hshows := shows_projection haggregate ht
  refine ⟨shows_items_iff hshows, fun hnil => ?_⟩
  rwa [← projection_of_nil hnil]

theorem isSelectedBy_select {s : Statement} (haggregate : q.aggregate = none)
    (hs : Statement.select settings q = .ok s) : q.IsSelectedBy settings s.template.text := by
  obtain ⟨-, -, hs⟩ := bind_eq_ok.1 hs
  obtain ⟨t, ht, hs⟩ := bind_eq_ok.1 hs
  cases hs
  exact isSelectedBy_template haggregate ht

end Query

/-- The queries that the conditions of a request ask about are counted in its statement. -/
theorem Request.countedIn_compile {settings : Settings} {r : Request} (hr : r.IsFiltered)
    {s : Statement} (hok : r.compile settings = .ok s) {query : Query} {negated : Bool}
    (hmem : .nonempty query negated ∈ conditionPredicates r.query.conditions) :
    query.CountedIn settings False negated s.template := by
  have hfeatures := Request.features_of_compile hok
  cases r with
  | select q => exact countedIn_select hfeatures False.elim hmem hok
  | existence q => exact countedIn_existence hfeatures False.elim hmem hok
  | delete q => exact countedIn_delete hfeatures False.elim hmem hok
  | update q fields => exact countedIn_update hfeatures False.elim False.elim hmem hok
  | _ => cases hr

/-- **What a query without aggregate selects.** Let its columns and paths not be empty texts. It has
one item at least, and no item is empty. Its statement selects the items with commas between them if
and only if the list of columns is not given or not empty. With an empty list the statement has the
paths alone, each after a comma, in the place of the items. The same is true of the query where it is
asked whether it has a result, by a statement of its own or in the conditions of another, at any
depth. -/
theorem select_items_iff (settings : Settings) {q : Query} (haggregate : q.aggregate = none)
    (htexts : q.HasTexts) :
    q.items ≠ [] ∧ (∀ item ∈ q.items, item ≠ "") ∧
      (∀ s, Statement.select settings q = .ok s → q.IsSelectedBy settings s.template.text) ∧
      (∀ s, Statement.existence settings q = .ok s → ∃ inner,
        s.template.text =
          "SELECT `exists` FROM \x7bexists: <bool> count((" ++ inner ++ "))\x7d" ∧
        q.IsSelectedBy settings inner) ∧
      ∀ (r : Request) (s : Statement), r.IsFiltered → r.compile settings = .ok s →
        ∀ negated, .nonempty q negated ∈ conditionPredicates r.query.conditions →
          ∃ before inner after,
            s.template.text = before ++ " = <bool> count((" ++ inner ++ "))" ++ after ∧
            q.IsSelectedBy settings inner := by
  refine ⟨q.items_ne_nil, Query.ne_empty_of_mem_items htexts,
    fun s hs => Query.isSelectedBy_select haggregate hs, fun s hs => ?_,
    fun r s hr hs negated hmem => ?_⟩
  · obtain ⟨-, -, hs⟩ := bind_eq_ok.1 hs
    obtain ⟨t, ht, hs⟩ := bind_eq_ok.1 hs
    cases hs
    have hfirst : { q with limit := some 1 }.IsSelectedBy settings t.text :=
      Query.isSelectedBy_template haggregate ht
    exact ⟨t.text, rfl, hfirst⟩
  · obtain ⟨t, ht, u, v, -, -, htext, -, ⟨before, rfl⟩, ⟨after, rfl⟩, -⟩ :=
      (Request.countedIn_compile hr hs hmem).exists_text
    refine ⟨before ++ if negated then "false" else "true", t.template.text, after, ?_,
      Query.isSelectedBy_select haggregate ht⟩
    rw [htext]
    simp only [String.append_assoc]

/-- People, with a rank that is called for and a path along an edge. -/
def rankedPeople : Query where
  target := "person"
  columns := some [.name "name", .call ⟨"fn::rank($?)", [.int 1]⟩]
  edges := ["->likes->person"]

/-- The deletion of teams without people. -/
def emptyTeams : Request :=
  .delete { target := "team", conditions := [⟨.and, .group [⟨.and, .nonempty rankedPeople true⟩]⟩] }

theorem select_items_iff_rankedPeople :
    rankedPeople.aggregate = none ∧ rankedPeople.HasTexts ∧
      rankedPeople.items = ["`name`", "fn::rank($?)", "->likes->person"] ∧
      (∃ s, Statement.select {} rankedPeople = .ok s ∧
        rankedPeople.Shows {} "`name`, fn::rank($?), ->likes->person" s.template.text) ∧
      ∃ s before inner after, emptyTeams.compile {} = .ok s ∧
        s.template.text = before ++ " = <bool> count((" ++ inner ++ "))" ++ after ∧
        rankedPeople.Shows {} "`name`, fn::rank($?), ->likes->person" inner := by
  have htexts : rankedPeople.HasTexts := by decide
  have hgiven : rankedPeople.columns ≠ some [] := nofun
  obtain ⟨-, -, hselect, -, hinner⟩ := select_items_iff {} (q := rankedPeople) rfl htexts
  obtain ⟨s, hs⟩ : ∃ s, emptyTeams.compile {} = .ok s := ⟨_, rfl⟩
  have hmem : .nonempty rankedPeople true ∈ conditionPredicates emptyTeams.query.conditions :=
    .tail _ (.head _)
  obtain ⟨before, inner, after, htext, hitems, -⟩ := hinner emptyTeams s trivial hs true hmem
  exact ⟨rfl, htexts, rfl, ⟨_, rfl, (hselect _ rfl).1.2 hgiven⟩, s, before, inner, after, hs, htext,
    hitems.2 hgiven⟩

/-- With an empty list of columns the statement does not have the item `*`, and a path follows a
comma that has nothing before it. -/
theorem select_empty_columns :
    Statement.select {} { target := "person", columns := some [] } =
        .ok ⟨.select, .raw "SELECT  FROM `person`"⟩ ∧
      Statement.select {} { target := "person", columns := some [], edges := ["->likes->person"] } =
        .ok ⟨.select, .raw "SELECT , ->likes->person FROM `person`"⟩ ∧
      Query.items { target := "person", columns := some [] } = ["*"] ∧
      ∀ rest, "SELECT  FROM `person`" ≠ "SELECT * FROM " ++ rest := by
  refine ⟨rfl, rfl, rfl, fun rest htext => ?_⟩
  have hchars := congrArg (fun text => text.toList[7]?) htext
  simp at hchars

end SurrealQuery
