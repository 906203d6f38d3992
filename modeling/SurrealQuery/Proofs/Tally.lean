import SurrealQuery.Proofs.Insertion

/-!
# Counting placeholders

A statement has a placeholder for each value that it binds, and besides those that stand in what the
caller says: names, keys, raw texts and calls. Quoting leaves them as they are. So the placeholders
are counted part by part, and the parts of a statement add up (`Request.tallies`).
-/

namespace SurrealQuery

open Template (countPlaceholders)

/-! ## Counting parts -/

/-- The placeholders in the texts of some parts. -/
def marksIn : List Call → Nat
  | [] => 0
  | c :: cs => countPlaceholders c.expression.toList + marksIn cs

/-- The number of values that come with some parts. -/
def valuesIn : List Call → Nat
  | [] => 0
  | c :: cs => c.arguments.length + valuesIn cs

@[simp] theorem marksIn_nil : marksIn [] = 0 := rfl

@[simp] theorem marksIn_cons (c : Call) (cs : List Call) :
    marksIn (c :: cs) = countPlaceholders c.expression.toList + marksIn cs := rfl

@[simp] theorem marksIn_append (as bs : List Call) :
    marksIn (as ++ bs) = marksIn as + marksIn bs := by
  induction as with
  | nil => simp
  | cons c as ih => simp [ih, Nat.add_assoc]

theorem marksIn_perm {as bs : List Call} (h : as.Perm bs) : marksIn as = marksIn bs := by
  induction h with
  | nil => rfl
  | cons c _ ih => rw [marksIn_cons, marksIn_cons, ih]
  | swap c d cs => simp only [marksIn_cons, Nat.add_left_comm]
  | trans _ _ ih ih' => exact ih.trans ih'

@[simp] theorem valuesIn_nil : valuesIn [] = 0 := rfl

@[simp] theorem valuesIn_cons (c : Call) (cs : List Call) :
    valuesIn (c :: cs) = c.arguments.length + valuesIn cs := rfl

@[simp] theorem valuesIn_append (as bs : List Call) :
    valuesIn (as ++ bs) = valuesIn as + valuesIn bs := by
  induction as with
  | nil => simp
  | cons c as ih => simp [ih, Nat.add_assoc]

theorem valuesIn_perm {as bs : List Call} (h : as.Perm bs) : valuesIn as = valuesIn bs := by
  induction h with
  | nil => rfl
  | cons c _ ih => rw [valuesIn_cons, valuesIn_cons, ih]
  | swap c d cs => simp only [valuesIn_cons, Nat.add_left_comm]
  | trans _ _ ih ih' => exact ih.trans ih'

/-- Texts that come without values. -/
def texts (ss : List String) : List Call :=
  ss.map (⟨·, []⟩)

@[simp] theorem texts_cons (s : String) (ss : List String) : texts (s :: ss) = ⟨s, []⟩ :: texts ss :=
  rfl

@[simp] theorem texts_append (ss ts : List String) : texts (ss ++ ts) = texts ss ++ texts ts :=
  List.map_append

theorem marksIn_singleton (s : String) : marksIn (texts [s]) = countPlaceholders s.toList :=
  rfl

@[simp] theorem valuesIn_texts (ss : List String) : valuesIn (texts ss) = 0 := by
  induction ss with
  | nil => rfl
  | cons s ss ih => simp [ih]

/-- A template has a placeholder for each binding, but for parts with more placeholders than values
or more values than placeholders. -/
def Template.Tallies (t : Template) (parts : List Call) : Prop :=
  t.placeholders + valuesIn parts = t.bindings.length + marksIn parts

/-- Templates that tally one after the other. -/
inductive TallyAll : List Template → List Call → Prop
  | nil : TallyAll [] []
  | cons {t : Template} {ts : List Template} {a b : List Call} (head : t.Tallies a)
    (tail : TallyAll ts b) : TallyAll (t :: ts) (a ++ b)

theorem countPlaceholders_glue_append {g : String} (hg : IsGlue g) (s : String) :
    countPlaceholders (g ++ s).toList = countPlaceholders s.toList := by
  rw [String.toList_append, countPlaceholders_append (apart_of_closes hg.2.2), hg.1, Nat.zero_add]

theorem countPlaceholders_append_glue {g : String} (hg : IsGlue g) (s : String) :
    countPlaceholders (s ++ g).toList = countPlaceholders s.toList := by
  rw [String.toList_append, countPlaceholders_append (apart_of_opens hg.2.1), hg.1, Nat.add_zero]

namespace Template.Tallies

variable {s t : Template} {a b : List Call} {g : String}

/-- A text made of others, with their placeholders. -/
theorem raw {text : String} (ss : List String)
    (h : countPlaceholders text.toList = marksIn (texts ss)) :
    (Template.raw text).Tallies (texts ss) := by
  unfold Tallies Template.placeholders
  rw [text_raw, bindings_raw, h, valuesIn_texts, List.length_nil]
  omega

theorem fixed {text : String} (h : IsPlain text) : (Template.raw text).Tallies [] :=
  raw [] h

theorem append (hs : s.Tallies a) (ht : t.Tallies b) (h : Apart s.text t.text) :
    (s ++ t).Tallies (a ++ b) := by
  unfold Tallies Template.placeholders at *
  rw [text_append, bindings_append, String.toList_append, countPlaceholders_append h,
    List.length_append, valuesIn_append, marksIn_append]
  omega

theorem before (ht : t.Tallies b) (hg : IsGlue g) : (.raw g ++ t).Tallies b :=
  (fixed hg.1).append ht (apart_of_closes hg.2.2)

theorem after (hs : s.Tallies a) (hg : IsGlue g) : (s ++ .raw g).Tallies a := by
  have h := hs.append (fixed hg.1) (apart_of_opens hg.2.1)
  rwa [List.append_nil] at h

theorem glued (hs : s.Tallies a) (ht : t.Tallies b) (hg : IsGlue g) :
    (s ++ .raw g ++ t).Tallies (a ++ b) :=
  (hs.after hg).append ht (apart_of_closes (closes_append s.text hg.2.2))

theorem wrap (ht : t.Tallies a) {x y : String} (hx : IsGlue x) (hy : IsGlue y) :
    (Template.wrap x t y).Tallies a := by
  rw [Template.wrap_eq]
  exact (ht.before hx).after hy

/-- The order of the parts does not matter. -/
theorem perm (ht : t.Tallies a) (h : a.Perm b) : t.Tallies b := by
  have hmarks := marksIn_perm h
  have hvalues := valuesIn_perm h
  unfold Tallies at *
  omega

end Template.Tallies

namespace TallyAll

variable {ts us : List Template} {a b : List Call}

theorem singleton {t : Template} (h : t.Tallies a) : TallyAll [t] a := by
  have h := TallyAll.cons h .nil
  rwa [List.append_nil] at h

theorem append (hts : TallyAll ts a) (hus : TallyAll us b) : TallyAll (ts ++ us) (a ++ b) := by
  induction hts with
  | nil => exact hus
  | cons head _ ih =>
    rw [List.append_assoc]
    exact .cons head ih

theorem map {α : Type} {as : List α} {f : α → Template} {parts : α → List Call}
    (h : ∀ x ∈ as, (f x).Tallies (parts x)) : TallyAll (as.map f) (as.flatMap parts) := by
  induction as with
  | nil => exact .nil
  | cons x as ih =>
    rw [List.forall_mem_cons] at h
    exact .cons h.1 (ih h.2)

theorem joinTail (h : TallyAll ts a) {g : String} (hg : IsGlue g) :
    (Template.joinTail g ts).Tallies a := by
  induction h with
  | nil => exact .fixed (by decide)
  | cons head _ ih => exact (head.before hg).append ih (Respects.apart_joinTail _ hg.2.1 _)

theorem join (h : TallyAll ts a) {g : String} (hg : IsGlue g) :
    (Template.join g ts).Tallies a := by
  cases h with
  | nil => exact .fixed (by decide)
  | cons head tail => exact head.append (tail.joinTail hg) (Respects.apart_joinTail _ hg.2.1 _)

/-- What keeps the tally of each template keeps that of all. -/
theorem map_of {f : Template → Template} (h : TallyAll ts a)
    (hf : ∀ t b, t.Tallies b → (f t).Tallies b) : TallyAll (ts.map f) a := by
  induction h with
  | nil => exact .nil
  | cons head _ ih => exact .cons (hf _ _ head) ih

/-- Clauses without parts. -/
theorem fixed {α : Type} {as : List α} {f : α → String} (h : ∀ x ∈ as, IsPlain (f x)) :
    TallyAll (as.map fun x => Template.raw (f x)) [] := by
  induction as with
  | nil => exact .nil
  | cons x as ih =>
    rw [List.forall_mem_cons] at h
    exact .cons (.fixed h.1) (ih h.2)

theorem overList {α : Type} {as : List α} {clause : List α → Template} (parts : List α → List Call)
    (hnil : parts [] = []) (h : (clause as).Tallies (parts as)) :
    TallyAll (Clause.overList clause as) (parts as) := by
  cases as with
  | nil =>
    rw [hnil]
    exact .nil
  | cons x as => exact .singleton h

end TallyAll

/-! ## What is written of a name -/

/-- The texts in which a name is written: what stands before its alias, and the alias. -/
def Identifier.pieces (aliasPrefix name : String) : List String :=
  match splitAlias name.toList with
  | (base, some found) => [String.ofList base, aliasPrefix ++ String.ofList found]
  | (base, none) => [String.ofList base]

theorem countPlaceholders_withAlias (aliasPrefix name : String) :
    countPlaceholders (Identifier.withAlias aliasPrefix name).toList =
      marksIn (texts (Identifier.pieces aliasPrefix name)) := by
  have hglue : IsGlue " AS " := by decide
  unfold Identifier.withAlias Identifier.pieces
  rcases Identifier.splitAlias name.toList with ⟨base, _ | found⟩
  · dsimp only
    rw [countPlaceholders_path, marksIn_singleton]
  · dsimp only
    rw [String.toList_append, countPlaceholders_append
      (apart_of_closes (closes_append _ hglue.2.2)), countPlaceholders_append_glue hglue,
      countPlaceholders_path, countPlaceholders_quote]
    rfl

/-- The texts in which a reference to a table is written. -/
def Settings.pieces (s : Settings) (reference : String) : List String :=
  if isRecordReference reference then [s.tablePrefix ++ reference]
  else Identifier.pieces s.tablePrefix (s.tablePrefix ++ reference)

theorem countPlaceholders_table {s : Settings} {reference table : String}
    (hok : s.table reference = .ok table) :
    countPlaceholders table.toList = marksIn (texts (s.pieces reference)) := by
  unfold Settings.table at hok
  unfold Settings.pieces
  split at hok
  · obtain ⟨id, -, hok⟩ := bind_eq_ok.1 hok
    cases hok
    rw [if_pos ‹_›, countPlaceholders_jsonQuote, marksIn_singleton]
  · cases hok
    rw [if_neg ‹_›, countPlaceholders_withAlias]

theorem tallies_table {s : Settings} {reference table keyword : String}
    (hok : s.table reference = .ok table) (hkeyword : IsGlue keyword) :
    (Template.raw (keyword ++ table)).Tallies (texts (s.pieces reference)) := by
  apply Template.Tallies.raw
  rw [countPlaceholders_glue_append hkeyword, countPlaceholders_table hok]

theorem countPlaceholders_commaTail (ss : List String) :
    countPlaceholders (Text.commaTail ss).toList = marksIn (texts ss) := by
  induction ss with
  | nil => rfl
  | cons s ss ih =>
    rw [Text.commaTail, String.toList_append, countPlaceholders_append (apart_commaTail _ ss), ih,
      countPlaceholders_glue_append (by decide)]
    rfl

theorem countPlaceholders_commaList (ss : List String) :
    countPlaceholders (Text.commaList ss).toList = marksIn (texts ss) := by
  cases ss with
  | nil => rfl
  | cons s ss =>
    rw [Text.commaList, String.toList_append, countPlaceholders_append (apart_commaTail _ ss),
      countPlaceholders_commaTail]
    rfl

/-! ## Clauses -/

theorem Template.tallies_bound (channel : Channel) (c : Call) :
    (Template.bound channel c.expression c.arguments).Tallies [c] := by
  unfold Template.Tallies Template.placeholders Template.bound
  rw [List.length_map]
  simp [Nat.add_comm]

theorem Operand.tallies (o : Operand) : o.template.Tallies o.parts := by
  cases o with
  | literal v =>
    have hmark : Template.placeholder.toList = ['$', '?'] := by decide
    show countPlaceholders Template.placeholder.toList + 0 = 1 + 0
    rw [hmark]
    rfl
  | raw text => exact Template.Tallies.raw [text] rfl
  | call c => exact Template.tallies_bound .function c

/-- What is written of a column. -/
def Column.written : Column → List Call
  | .name s => texts (Identifier.pieces "" s)
  | .raw text => [⟨text, []⟩]
  | .call c => [c]

theorem Column.tallies (c : Column) : c.template.Tallies c.written := by
  cases c with
  | name s => exact Template.Tallies.raw _ (countPlaceholders_withAlias "" s)
  | raw text => exact Template.Tallies.raw [text] rfl
  | call c => exact Template.tallies_bound .function c

theorem Clause.tallies_columns (cs : List Column) :
    (Clause.columns cs).Tallies (cs.flatMap Column.written) :=
  (TallyAll.map fun c _ => c.tallies).join (by decide)

theorem Clause.tallies_operands (os : List Operand) :
    (Clause.operands os).Tallies (os.flatMap Operand.parts) :=
  (TallyAll.map fun o _ => o.tallies).join (by decide)

def OrderTerm.written : OrderTerm → List Call
  | .raw text => [⟨text, []⟩]
  | .byColumn column kind _ => column.written ++ texts kind.toList
  | .random => []

theorem Clause.tallies_orderTerm (o : OrderTerm) : (Clause.orderTerm o).Tallies o.written := by
  cases o with
  | raw text => exact Template.Tallies.raw [text] rfl
  | random => exact .fixed (by decide)
  | byColumn column kind direction =>
    have hdirection : IsGlue (" " ++ direction.keyword) := by cases direction <;> decide
    refine column.tallies.append (.raw _ ?_) ?_
    · cases kind with
      | none =>
        rw [String.empty_append]
        exact hdirection.1
      | some kind =>
        rw [String.append_assoc, countPlaceholders_append_glue hdirection,
          countPlaceholders_glue_append (by decide), countPlaceholders_upper, Option.toList_some,
          marksIn_singleton]
    · refine apart_of_opens (opens_append _ ?_)
      cases kind with
      | none => decide
      | some kind => exact opens_append _ (opens_append _ (by decide))

theorem Clause.tallyAll_groups (cs : List Column) :
    TallyAll (Clause.groups cs) (cs.flatMap Column.written) :=
  TallyAll.overList (·.flatMap Column.written) rfl
    ((Clause.tallies_columns cs).before (by decide))

theorem Clause.tallyAll_orders (os : List OrderTerm) :
    TallyAll (Clause.orders os) (os.flatMap OrderTerm.written) := by
  have hterms := (TallyAll.map fun o (_ : o ∈ os) => Clause.tallies_orderTerm o).join
    (show IsGlue ", " by decide)
  exact TallyAll.overList (·.flatMap OrderTerm.written) rfl
    (hterms.before (by decide))

theorem Clause.tallyAll_count {keyword : String} (hkeyword : IsGlue (keyword ++ " "))
    (n : Option UInt64) : TallyAll (Clause.count keyword n) [] :=
  .fixed fun _ _ => (isPlain_decimal _).glue_append hkeyword

theorem Clause.tallyAll_names (keyword : String) (hkeyword : IsGlue (keyword ++ " "))
    (fields : List String) : TallyAll (Clause.names keyword fields) (texts fields) := by
  refine TallyAll.overList texts rfl (.raw _ ?_)
  rw [countPlaceholders_glue_append hkeyword, countPlaceholders_commaList]

theorem Clause.tallyAll_returning (o : Options) : TallyAll (Clause.returning o) [] :=
  .fixed fun mode _ => by cases mode <;> decide

theorem Clause.tallyAll_execution (o : Options) : TallyAll (Clause.execution o) [] := by
  have htimeout : TallyAll (o.timeout.toList.map fun d => Template.raw ("TIMEOUT " ++ d.render)) [] :=
    .fixed fun d _ => (isPlain_render d).glue_append (by decide)
  refine htimeout.append ?_
  split
  · exact .singleton (.fixed (by decide))
  · exact .nil

theorem Clause.tallyAll_options (o : Options) : TallyAll (Clause.options o) [] :=
  (Clause.tallyAll_returning o).append (Clause.tallyAll_execution o)

/-- What is written of fields: each key in the texts that `pieces` says, and each operand. -/
def Fields.written (pieces : String → List String) (f : Fields) : List Call :=
  f.entries.flatMap fun (key, operand) => texts (pieces key) ++ operand.parts

/-- Fields with the text that stands before each operand. -/
theorem tallies_entries {lead : String → String} {pieces : String → List String}
    (hlead : ∀ key, countPlaceholders (lead key).toList = marksIn (texts (pieces key)))
    (hcloses : ∀ key, closes (lead key)) (f : Fields) :
    (Template.join ", " (f.entries.map fun (key, operand) =>
      .raw (lead key) ++ operand.template)).Tallies (f.written pieces) := by
  have hentry : ∀ e ∈ f.entries, (Template.raw (lead e.1) ++ e.2.template).Tallies
      (texts (pieces e.1) ++ e.2.parts) := fun e _ =>
    (Template.Tallies.raw _ (hlead e.1)).append e.2.tallies (apart_of_closes (hcloses e.1))
  exact (TallyAll.map hentry).join (by decide)

theorem Clause.tallies_assignments (f : Fields) :
    (Clause.assignments f).Tallies (f.written (Identifier.pieces "")) := by
  have hlead (key : String) : countPlaceholders (Identifier.column key ++ " = ").toList =
      marksIn (texts (Identifier.pieces "" key)) := by
    rw [countPlaceholders_append_glue (by decide), Identifier.column, countPlaceholders_withAlias]
  exact tallies_entries hlead (fun _ => closes_append _ (by decide)) f

theorem Clause.tallyAll_content (f : Fields) :
    TallyAll (Clause.content f) (f.written fun key => [key]) := by
  have hlead (key : String) : countPlaceholders (Json.quote key ++ " : ").toList =
      marksIn (texts [key]) := by
    rw [countPlaceholders_append_glue (by decide), countPlaceholders_jsonQuote, marksIn_singleton]
  have h := tallies_entries hlead (fun _ => closes_append _ (by decide)) f
  obtain ⟨entries, nodup⟩ := f
  cases entries with
  | nil => exact .nil
  | cons entry rest => exact .singleton (h.wrap (by decide) (by decide))

/-! ## Conditions -/

/-- What is written of an operator that is none of the language. -/
def Operator.written (token : String) : List Call :=
  if Operator.resolve token ∈ Operator.all then [] else [⟨Operator.resolve token, []⟩]

theorem Operator.tallies (token : String) :
    (Template.raw (" " ++ Operator.resolve token ++ " ")).Tallies (Operator.written token) := by
  unfold Operator.written
  split
  · rename_i hmem
    have hall : ∀ operator ∈ Operator.all, IsPlain operator := by decide +kernel
    exact .fixed (((hall _ hmem).glue_append (by decide)).append_glue (by decide))
  · refine Template.Tallies.raw [Operator.resolve token] ?_
    rw [countPlaceholders_append_glue (by decide), countPlaceholders_glue_append (by decide),
      marksIn_singleton]

theorem Clause.tallies_comparison {s t : Template} {a b : List Call} (hs : s.Tallies a)
    (operator : String) (ht : t.Tallies b) :
    (Clause.comparison s operator t).Tallies (a ++ Operator.written operator ++ b) := by
  have hspace : opens " " := by decide
  refine (hs.append (Operator.tallies operator) (apart_of_opens ?_)).append ht (apart_of_closes ?_)
  · exact opens_append _ (opens_append _ hspace)
  · exact closes_append _ (closes_append _ (by decide))

theorem Clause.tallies_membership (column : Column) (negated isEmpty : Bool) {s : Template}
    {a : List Call} (hs : s.Tallies a) :
    (Clause.membership column negated isEmpty s).Tallies
      (if isEmpty then [] else column.written ++ a) := by
  unfold Clause.membership
  split
  · exact .fixed (by cases negated <;> decide)
  · exact (column.tallies.glued hs (by cases negated <;> decide)).after (by decide)

theorem Clause.tallies_range (column : Column) (negated : Bool) {s t : Template}
    {a b : List Call} (hs : s.Tallies a) (ht : t.Tallies b) :
    (Clause.range column negated s t).Tallies (column.written ++ a ++ b) :=
  (column.tallies.glued hs (by cases negated <;> decide)).glued ht (by decide)

theorem Clause.tallies_connectedTail {ts : List (Connective × Template)} {a : List Call}
    (h : TallyAll (ts.map Prod.snd) a) : (Clause.connectedTail ts).Tallies a := by
  induction ts generalizing a with
  | nil =>
    cases h
    exact .fixed (by decide)
  | cons t ts ih =>
    obtain ⟨connective, t⟩ := t
    cases h with
    | cons head tail =>
      have hconnective : IsGlue (" " ++ connective.keyword ++ " ") := by
        cases connective <;> decide
      exact (head.before hconnective).append (ih tail) (Respects.apart_connectedTail _ ts)

theorem Clause.tallyAll_connected {ts : List (Connective × Template)} {a : List Call}
    (h : TallyAll (ts.map Prod.snd) a) : TallyAll (Clause.connected ts).toList a := by
  cases ts with
  | nil => exact h
  | cons t ts =>
    cases h with
    | cons head tail =>
      exact .singleton
        (head.append (Clause.tallies_connectedTail tail) (Respects.apart_connectedTail _ ts))

theorem Clause.tallyAll_filter {t : Option Template} {a : List Call} (h : TallyAll t.toList a) :
    TallyAll (Clause.filter t) a :=
  h.map_of fun _ _ ht => ht.before (by decide)

/-! ## Queries -/

/-- What is written of what a query selects. -/
def Query.selectionWritten (q : Query) : List Call :=
  match q.aggregate with
  | some aggregate => ⟨aggregate.function, []⟩ :: aggregate.columns.flatMap Column.written
  | none => (q.columns.getD []).flatMap Column.written ++ texts q.edges

/-- What is written of a query after its conditions. -/
def Query.trailWritten (q : Query) : List Call :=
  q.groups.flatMap Column.written ++ q.orders.flatMap OrderTerm.written ++
    if q.aggregate.isSome then [] else texts (q.fetch ++ q.split)

/-- What is written of a query outside of its conditions. -/
def Query.clauseWritten (settings : Settings) (q : Query) : List Call :=
  q.selectionWritten ++ texts (settings.pieces q.target) ++ q.trailWritten

/-- What is written of a predicate, without the conditions inside of it. -/
def Predicate.written (settings : Settings) : Predicate → List Call
  | .compare column operator operand | .date _ column operator operand =>
    column.written ++ Operator.written operator ++ operand.parts
  | .member column operands _ =>
    if operands.isEmpty then [] else column.written ++ operands.flatMap Operand.parts
  | .integerMember column integers _ => if integers.isEmpty then [] else column.written
  | .null column _ => column.written
  | .between column low high _ => column.written ++ low.parts ++ high.parts
  | .betweenColumns column low high _ => column.written ++ low.written ++ high.written
  | .compareColumns first operator second =>
    first.written ++ Operator.written operator ++ second.written
  | .group _ | .bitwise .. => []
  | .nonempty query _ => query.clauseWritten settings
  | .raw text values => [⟨text, values⟩]

/-- What is written of conditions at any depth. -/
def conditionWritten (settings : Settings) (conditions : List Condition) : List Call :=
  (conditionPredicates conditions).flatMap (Predicate.written settings)

def Query.written (settings : Settings) (q : Query) : List Call :=
  q.clauseWritten settings ++ conditionWritten settings q.conditions

theorem Clause.tallies_selection (q : Query) :
    (Clause.selection q).Tallies q.selectionWritten := by
  unfold Clause.selection Query.selectionWritten
  cases q.aggregate with
  | some aggregate =>
    have hlead : countPlaceholders ("SELECT " ++ aggregate.function ++ "(").toList =
        marksIn (texts [aggregate.function]) := by
      rw [countPlaceholders_append_glue (by decide), countPlaceholders_glue_append (by decide),
        marksIn_singleton]
    have hcloses : closes ("SELECT " ++ aggregate.function ++ "(") := closes_append _ (by decide)
    have h := ((Template.Tallies.raw _ hlead).append (Clause.tallies_columns aggregate.columns)
      (apart_of_closes hcloses)).after (g := ") AS " ++ Identifier.quote "aggregate") (by decide)
    rw [← Template.wrap_eq] at h
    exact h
  | none =>
    have hcolumns : (Clause.columns (q.columns.getD [.name "*"])).Tallies
        ((q.columns.getD []).flatMap Column.written) := by
      cases q.columns with
      | none => exact .fixed (by decide)
      | some columns => exact Clause.tallies_columns columns
    exact (hcolumns.before (by decide)).append (.raw _ (countPlaceholders_commaTail q.edges))
      (apart_commaTail _ _)

theorem Clause.tallyAll_afterConditions (q : Query) :
    TallyAll (Clause.afterConditions q) q.trailWritten := by
  have hcounts : TallyAll (Clause.count "LIMIT" q.limit ++ Clause.count "START" q.offset) [] :=
    (Clause.tallyAll_count (by decide) q.limit).append (Clause.tallyAll_count (by decide) q.offset)
  have hrows : TallyAll (if q.aggregate.isSome then []
        else Clause.names "FETCH" q.fetch ++ Clause.execution q.options ++
          Clause.names "SPLIT" q.split)
      (if q.aggregate.isSome then [] else texts (q.fetch ++ q.split)) := by
    split
    · exact .nil
    · have h := ((Clause.tallyAll_names "FETCH" (by decide) q.fetch).append
        (Clause.tallyAll_execution q.options)).append
        (Clause.tallyAll_names "SPLIT" (by decide) q.split)
      rwa [List.append_nil, ← texts_append] at h
  have h := (((Clause.tallyAll_groups q.groups).append (Clause.tallyAll_orders q.orders)).append
    hcounts).append hrows
  rw [List.append_nil, ← List.append_assoc] at h
  exact h

/-- A query whose conditions tally. -/
theorem Clause.tallies_query {settings : Settings} {q : Query} {t : Template}
    {conditions : Except CompileError (List (Connective × Template))} {a : List Call}
    (hconditions : ∀ ts, conditions = .ok ts → TallyAll (ts.map Prod.snd) a)
    (hok : Clause.query settings q conditions = .ok t) :
    t.Tallies (q.clauseWritten settings ++ a) := by
  unfold Clause.query at hok
  dsimp only at hok
  split at hok
  · cases hok
  · obtain ⟨table, htable, hok⟩ := bind_eq_ok.1 hok
    obtain ⟨ts, hts, hok⟩ := bind_eq_ok.1 hok
    cases hok
    have hfilter := Clause.tallyAll_filter (Clause.tallyAll_connected (hconditions ts hts))
    have h := (TallyAll.cons (Clause.tallies_selection q) (.cons
      (tallies_table htable (show IsGlue "FROM " by decide))
      (hfilter.append (Clause.tallyAll_afterConditions q)))).join (show IsGlue " " by decide)
    refine h.perm ?_
    -- The conditions come last among the parts, wherever they stand in the text.
    rw [Query.clauseWritten, List.append_assoc, List.append_assoc]
    exact ((List.perm_append_comm).append_left _).append_left _

theorem conditionWritten_cons (settings : Settings) (connective : Connective)
    (predicate : Predicate) (rest : List Condition) :
    conditionWritten settings (⟨connective, predicate⟩ :: rest) =
      predicate.written settings ++
        (conditionWritten settings predicate.inner ++ conditionWritten settings rest) :=
  flatMap_conditionPredicates_cons (Predicate.written settings) connective predicate rest

/-- A predicate tallies if what is inside of it does. -/
theorem Predicate.tallyAll (settings : Settings) {p : Predicate} {t : Option Template}
    {a : List Call} (hinner : ∀ ts, conditionTemplates settings p.inner = .ok ts →
      TallyAll (ts.map Prod.snd) a)
    (hok : p.template? settings = .ok t) : TallyAll t.toList (p.written settings ++ a) := by
  -- A predicate with nothing inside of it has all its parts itself.
  have leaf {u : Template} {b : List Call} (hnone : p.inner = []) (hu : u.Tallies b) :
      TallyAll [u] (b ++ a) := by
    rw [hnone, conditionTemplates] at hinner
    exact .cons hu (hinner [] rfl)
  cases p with
  | compare column operator operand =>
    cases hok
    exact leaf rfl (Clause.tallies_comparison column.tallies operator operand.tallies)
  | member column operands negated =>
    cases hok
    exact leaf rfl (Clause.tallies_membership column negated _ (Clause.tallies_operands operands))
  | integerMember column integers negated =>
    cases hok
    have hintegers : IsPlain (Text.commaList
        (integers.map fun n => String.ofList (Json.intChars n.toInt))) :=
      isPlain_commaList fun t ht => by
        obtain ⟨n, -, rfl⟩ := List.mem_map.1 ht
        exact isPlain_intChars _
    have h := Clause.tallies_membership column negated integers.isEmpty (.fixed hintegers)
    rw [List.append_nil] at h
    exact leaf rfl h
  | null column negated =>
    cases hok
    exact leaf rfl (column.tallies.after (by cases negated <;> decide))
  | between column low high negated =>
    cases hok
    exact leaf rfl (Clause.tallies_range column negated low.tallies high.tallies)
  | betweenColumns column low high negated =>
    cases hok
    exact leaf rfl (Clause.tallies_range column negated low.tallies high.tallies)
  | compareColumns first operator second =>
    cases hok
    exact leaf rfl (Clause.tallies_comparison first.tallies operator second.tallies)
  | group conditions =>
    rw [Predicate.template?] at hok
    obtain ⟨ts, hts, hok⟩ := bind_eq_ok.1 hok
    cases hok
    rw [Option.toList_map]
    exact (Clause.tallyAll_connected (hinner ts hts)).map_of fun _ _ h =>
      h.wrap (by decide) (by decide)
  | nonempty query negated =>
    rw [Predicate.template?, conditionTemplates_query] at hok
    obtain ⟨t, ht, hok⟩ := bind_eq_ok.1 hok
    cases hok
    exact .singleton ((Clause.tallies_query hinner ht).wrap (by cases negated <;> decide)
      (by decide))
  | date unit column operator operand =>
    cases hok
    refine leaf rfl (Clause.tallies_comparison ?_ operator operand.tallies)
    exact column.tallies.wrap (by decide) (by cases unit <;> decide)
  | bitwise column operator operand => cases hok
  | raw text values =>
    cases hok
    exact leaf rfl (Template.tallies_bound .query ⟨text, values⟩)

/-- Conditions at any depth: one condition after the other, each with what is inside of it. -/
theorem conditionTemplates_tallyAll (settings : Settings) (conditions : List Condition) :
    ∀ ts, conditionTemplates settings conditions = .ok ts →
      TallyAll (ts.map Prod.snd) (conditionWritten settings conditions) := by
  induction conditions using conditions_induction with
  | nil =>
    intro ts hok
    rw [conditionTemplates] at hok
    cases hok
    exact .nil
  | cons connective predicate rest inner ih =>
    intro ts hok
    rw [conditionTemplates] at hok
    obtain ⟨first, hfirst, hok⟩ := bind_eq_ok.1 hok
    obtain ⟨others, hothers, hok⟩ := bind_eq_ok.1 hok
    cases hok
    have h := (Predicate.tallyAll settings inner hfirst).append (ih others hothers)
    rw [conditionWritten_cons, ← List.append_assoc, List.map_append, List.map_map]
    rwa [← List.map_id first.toList] at h

theorem Clause.tallyAll_conditions {settings : Settings} {conditions : List Condition}
    {ts : List Template} (hok : Clause.conditions settings conditions = .ok ts) :
    TallyAll ts (conditionWritten settings conditions) := by
  obtain ⟨us, hus, hok⟩ := bind_eq_ok.1 hok
  cases hok
  exact Clause.tallyAll_filter
    (Clause.tallyAll_connected (conditionTemplates_tallyAll settings conditions us hus))

theorem Query.tallies {settings : Settings} {q : Query} {t : Template}
    (hok : q.template settings = .ok t) : t.Tallies (q.written settings) := by
  rw [Query.template, conditionTemplates_query] at hok
  exact Clause.tallies_query (conditionTemplates_tallyAll settings q.conditions) hok

/-! ## Batches -/

/-- What is written of a batch: the fields of the first record, and the operands of all. -/
def Batch.written (b : Batch) : List Call :=
  texts (b.fields.flatMap (Identifier.pieces "")) ++
    b.records.flatMap fun f => f.operands.flatMap Operand.parts

theorem Fields.Slots.eq_filterMap {f : Fields} {fields : List String} {slots : List Operand}
    (h : f.Slots fields slots) : slots = fields.filterMap f.get? := by
  induction h with
  | nil => rfl
  | cons ho _ ih => rw [List.filterMap_cons_some ho, ← ih]

theorem Fields.slots_operands (f : Fields) : f.Slots f.keys f.operands := by
  unfold Fields.Slots Fields.keys Fields.operands
  rw [List.forall₂_map_left_iff, List.forall₂_map_right_iff, List.forall₂_same]
  exact fun e he => Fields.get?_eq_some_iff.2 he

/-- A record that fits has all its operands under the given fields. -/
theorem Fields.Fits.perm_operands {f : Fields} {fields : List String} {slots : List Operand}
    (hfields : fields.Nodup) (h : f.Fits fields slots) : slots.Perm f.operands := by
  have hkeys : fields.Perm f.keys :=
    ((List.perm_ext_iff_of_nodup f.nodup hfields).2 h.1).symm
  rw [h.2.eq_filterMap, f.slots_operands.eq_filterMap]
  exact hkeys.filterMap _

theorem Clause.tallies_row {f : Fields} {fields : List String} {slots : List Operand}
    (hfields : fields.Nodup) (h : f.Fits fields slots) :
    (Clause.row slots).Tallies (f.operands.flatMap Operand.parts) := by
  have hrow : (Clause.row slots).Tallies (slots.flatMap Operand.parts) :=
    (Clause.tallies_operands slots).wrap (by decide) (by decide)
  exact hrow.perm ((h.perm_operands hfields).flatMap_right _)

theorem Clause.tallyAll_rows {fields : List String} (hfields : fields.Nodup)
    {records : List Fields} {slots : List (List Operand)}
    (h : List.Forall₂ (Fields.Fits fields) records slots) :
    TallyAll (slots.map Clause.row)
      (records.flatMap fun f => f.operands.flatMap Operand.parts) := by
  induction h with
  | nil => exact .nil
  | cons head _ ih => exact .cons (Clause.tallies_row hfields head) ih

theorem marksIn_columns (fields : List String) :
    marksIn (texts (fields.map Identifier.column)) =
      marksIn (texts (fields.flatMap (Identifier.pieces ""))) := by
  induction fields with
  | nil => rfl
  | cons key rest ih =>
    rw [List.map_cons, texts_cons, marksIn_cons, List.flatMap_cons, texts_append, marksIn_append,
      ← ih]
    exact congrArg (· + _) (countPlaceholders_withAlias "" key)

theorem Clause.tallies_insertion {settings : Settings} {keyword reference table : String}
    {batch : Batch} {t : Template} (htable : settings.table reference = .ok table)
    (hkeyword : IsGlue (keyword ++ " INTO "))
    (hok : Clause.insertion keyword table batch = .ok t) :
    t.Tallies (texts (settings.pieces reference) ++ batch.written) := by
  obtain ⟨slots, hfits, rfl⟩ := Clause.insertion_eq_ok_iff.1 hok
  have hopen : IsGlue " (" := by decide
  have hlead : countPlaceholders (keyword ++ " INTO " ++ table ++ " (" ++
        Text.commaList (batch.fields.map Identifier.column) ++ ") VALUES ").toList =
      marksIn (texts (settings.pieces reference ++
        batch.fields.flatMap (Identifier.pieces ""))) := by
    rw [countPlaceholders_append_glue (by decide), String.toList_append,
      countPlaceholders_append (apart_of_closes (closes_append _ hopen.2.2)),
      countPlaceholders_append_glue hopen, countPlaceholders_glue_append hkeyword,
      countPlaceholders_table htable, countPlaceholders_commaList, marksIn_columns, texts_append,
      marksIn_append]
  have hrows := (Clause.tallyAll_rows batch.nodup_fields hfits).join (show IsGlue ", " by decide)
  have h := (Template.Tallies.raw _ hlead).append hrows
    (apart_of_closes (closes_append _ (by decide)))
  rwa [texts_append, List.append_assoc] at h

/-! ## Statements -/

/-- What is written of an insertion, which without any field creates a record of the table. -/
def Batch.insertWritten (settings : Settings) (q : Query) (batch : Batch) : List Call :=
  texts (settings.pieces q.target) ++ if batch.isEmpty then [] else batch.written

/-- What is written of the fields to set in records that are there already. -/
def OnConflict.written : OnConflict → List Call
  | .columns _ => []
  | .set fields => fields.written (Identifier.pieces "")

/-- What is written of what the caller says, as texts with the values that come with them. A name is
taken apart where it has an alias, and a table stands after the prefix. -/
def Request.written (settings : Settings) : Request → List Call
  | .select q | .existence q => q.written settings
  | .insert q batch | .insertOrIgnore q batch => batch.insertWritten settings q
  | .create q fields => texts (settings.pieces q.target) ++ fields.written fun key => [key]
  | .update q fields =>
    texts (settings.pieces q.target) ++ fields.written (Identifier.pieces "") ++
      conditionWritten settings q.conditions
  | .upsert q batch _ onConflict =>
    texts (settings.pieces q.target) ++ batch.written ++ onConflict.written
  | .delete q =>
    texts (settings.pieces q.target) ++
      conditionWritten settings (Statement.unqualifyId (q.target ++ ".id") q.conditions)
  | .relate q edge target fields =>
    texts [q.target, edge, target] ++ fields.written fun key => [key]

/-- A statement made of a first text, clauses and options. -/
theorem TallyAll.statement {first : Template} {ts : List Template} {a b : List Call}
    (hfirst : first.Tallies a) (hts : TallyAll ts b) (o : Options) :
    (Template.join " " (first :: (ts ++ Clause.options o))).Tallies (a ++ b) := by
  have h := TallyAll.cons hfirst (hts.append (Clause.tallyAll_options o))
  rw [List.append_nil] at h
  exact h.join (by decide)

namespace Statement

variable {settings : Settings} {q : Query} {batch : Batch} {fields : Fields} {s : Statement}

theorem tallies_select (hok : select settings q = .ok s) :
    s.template.Tallies (q.written settings) := by
  obtain ⟨-, -, hok⟩ := bind_eq_ok.1 hok
  obtain ⟨t, ht, hok⟩ := bind_eq_ok.1 hok
  cases hok
  exact Query.tallies ht

theorem tallies_existence (hok : existence settings q = .ok s) :
    s.template.Tallies (q.written settings) := by
  obtain ⟨-, -, hok⟩ := bind_eq_ok.1 hok
  obtain ⟨t, ht, hok⟩ := bind_eq_ok.1 hok
  cases hok
  have h : t.Tallies ({ q with limit := some 1 }.written settings) := Query.tallies ht
  exact h.wrap (by decide) (by decide)

theorem tallies_insertWith {keyword : String} (hkeyword : IsGlue (keyword ++ " INTO "))
    (hok : insertWith keyword settings q batch = .ok s) :
    s.template.Tallies (batch.insertWritten settings q) := by
  unfold insertWith at hok
  obtain ⟨table, htable, hok⟩ := bind_eq_ok.1 hok
  unfold Batch.insertWritten
  split at hok
  · cases hok
    rw [if_pos ‹_›, List.append_nil]
    exact tallies_table htable (by decide)
  · obtain ⟨t, ht, hok⟩ := bind_eq_ok.1 hok
    cases hok
    rw [if_neg ‹_›]
    exact Clause.tallies_insertion htable hkeyword ht

theorem tallies_create (hok : create settings q fields = .ok s) :
    s.template.Tallies
      (texts (settings.pieces q.target) ++ fields.written fun key => [key]) := by
  obtain ⟨-, -, hok⟩ := bind_eq_ok.1 hok
  obtain ⟨table, htable, hok⟩ := bind_eq_ok.1 hok
  cases hok
  exact TallyAll.statement (tallies_table htable (by decide)) (Clause.tallyAll_content fields) q.options

theorem tallies_update (hok : update settings q fields = .ok s) :
    s.template.Tallies (texts (settings.pieces q.target) ++
      fields.written (Identifier.pieces "") ++ conditionWritten settings q.conditions) := by
  obtain ⟨-, -, hok⟩ := bind_eq_ok.1 hok
  obtain ⟨table, htable, hok⟩ := bind_eq_ok.1 hok
  obtain ⟨filter, hfilter, hok⟩ := bind_eq_ok.1 hok
  cases hok
  have hchanges : TallyAll
      (if fields.isEmpty then [] else [Clause.after "SET" (Clause.assignments fields)])
      (fields.written (Identifier.pieces "")) := by
    split
    · rename_i hempty
      rw [Fields.written, List.isEmpty_iff.1 hempty]
      exact .nil
    · exact .singleton ((Clause.tallies_assignments fields).before (by decide))
  rw [List.append_assoc (texts _)]
  exact TallyAll.statement (tallies_table htable (by decide))
    (hchanges.append (Clause.tallyAll_conditions hfilter)) q.options

theorem tallies_upsert {uniqueBy : List String} {onConflict : OnConflict}
    (hok : upsert settings q batch uniqueBy onConflict = .ok s) :
    s.template.Tallies
      (texts (settings.pieces q.target) ++ batch.written ++ onConflict.written) := by
  cases hfault : upsertFault? batch uniqueBy onConflict with
  | some e =>
    rw [upsert_of_fault hfault] at hok
    cases hok
  | none =>
    obtain ⟨-, fields, rfl, -⟩ := upsertFault?_eq_none.1 hfault
    rw [upsert_of_no_fault hfault] at hok
    obtain ⟨-, -, hok⟩ := bind_eq_ok.1 hok
    obtain ⟨table, htable, hok⟩ := bind_eq_ok.1 hok
    obtain ⟨t, ht, hok⟩ := bind_eq_ok.1 hok
    cases hok
    exact (Clause.tallies_insertion htable (by decide) ht).glued
      (Clause.tallies_assignments fields) (by decide)

theorem tallies_delete (hok : delete settings q = .ok s) :
    s.template.Tallies (texts (settings.pieces q.target) ++
      conditionWritten settings (unqualifyId (q.target ++ ".id") q.conditions)) := by
  obtain ⟨-, -, hok⟩ := bind_eq_ok.1 hok
  obtain ⟨table, htable, hok⟩ := bind_eq_ok.1 hok
  obtain ⟨filter, hfilter, hok⟩ := bind_eq_ok.1 hok
  cases hok
  have hkeyword : IsGlue (if isRecordReference q.target then "DELETE " else "DELETE FROM ") := by
    split <;> decide
  exact TallyAll.statement (tallies_table htable hkeyword) (Clause.tallyAll_conditions hfilter) q.options

theorem tallies_relate {edge target : String} (hok : relate q edge target fields = .ok s) :
    s.template.Tallies (texts [q.target, edge, target] ++ fields.written fun key => [key]) := by
  obtain ⟨-, -, hok⟩ := bind_eq_ok.1 hok
  obtain ⟨source, hsource, hok⟩ := bind_eq_ok.1 hok
  obtain ⟨record, hrecord, hok⟩ := bind_eq_ok.1 hok
  cases hok
  rw [RecordId.toString_of_parse hsource, RecordId.toString_of_parse hrecord]
  have harrow : IsGlue "->" := by decide
  have hlead : countPlaceholders ("RELATE " ++ q.target ++ "->" ++ edge ++ "->" ++ target).toList =
      marksIn (texts [q.target, edge, target]) := by
    rw [String.toList_append, countPlaceholders_append (apart_of_closes (closes_append _ harrow.2.2)),
      countPlaceholders_append_glue harrow, String.toList_append,
      countPlaceholders_append (apart_of_closes (closes_append _ harrow.2.2)),
      countPlaceholders_append_glue harrow, countPlaceholders_glue_append (by decide)]
    exact Nat.add_assoc _ _ _
  exact TallyAll.statement (.raw _ hlead) (Clause.tallyAll_content fields) q.options

end Statement

/-- **The tally.** A statement has a placeholder for each of its bindings, but for the placeholders
in what the caller says and the values that come with it. -/
theorem Request.tallies {settings : Settings} {r : Request} {s : Statement}
    (hok : r.compile settings = .ok s) : s.template.Tallies (r.written settings) := by
  cases r with
  | select q => exact Statement.tallies_select hok
  | existence q => exact Statement.tallies_existence hok
  | insert q batch =>
    obtain ⟨-, -, hok⟩ := bind_eq_ok.1 hok
    exact Statement.tallies_insertWith (by decide) hok
  | insertOrIgnore q batch =>
    obtain ⟨-, -, hok⟩ := bind_eq_ok.1 hok
    exact Statement.tallies_insertWith (by decide) hok
  | create q fields => exact Statement.tallies_create hok
  | update q fields => exact Statement.tallies_update hok
  | upsert q batch uniqueBy onConflict => exact Statement.tallies_upsert hok
  | delete q => exact Statement.tallies_delete hok
  | relate q edge target fields => exact Statement.tallies_relate hok

end SurrealQuery
