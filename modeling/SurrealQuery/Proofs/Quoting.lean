import SurrealQuery.Proofs.Canonical
import SurrealQuery.Proofs.Tally

/-!
# Placeholders in quoted names

A request in which everything is quoted or bound has no verbatim text. Its statement has a
placeholder for each binding, and those that its names have in them: between quotes they are still
placeholders. So placeholders and bindings are equally many if and only if no name has one in it
(`placeholders_eq_length_iff`).
-/

namespace SurrealQuery

/-! ## Requests without verbatim text -/

def Column.IsName : Column → Prop
  | .name _ => True
  | _ => False

instance : DecidablePred Column.IsName
  | .name _ => inferInstanceAs (Decidable True)
  | .raw _ | .call _ => inferInstanceAs (Decidable False)

/-- An order by a name, of no particular kind. -/
def OrderTerm.IsQuoted : OrderTerm → Prop
  | .raw _ => False
  | .byColumn column kind _ => column.IsName ∧ kind = none
  | .random => True

instance : DecidablePred OrderTerm.IsQuoted
  | .raw _ => inferInstanceAs (Decidable False)
  | .byColumn .. => inferInstanceAs (Decidable (_ ∧ _))
  | .random => inferInstanceAs (Decidable True)

/-- A query that outside of its conditions has nothing but names. -/
def Query.HasQuotedClauses (q : Query) : Prop :=
  (∀ c ∈ q.columns.getD [], c.IsName) ∧ (∀ c ∈ q.groups, c.IsName) ∧
    (∀ o ∈ q.orders, o.IsQuoted) ∧ (∀ a ∈ q.aggregate.toList, ∀ c ∈ a.columns, c.IsName) ∧
    q.edges = [] ∧ q.fetch = [] ∧ q.split = []

instance (q : Query) : Decidable q.HasQuotedClauses :=
  inferInstanceAs (Decidable (_ ∧ _ ∧ _ ∧ _ ∧ _ ∧ _ ∧ _))

/-- A predicate about names and literals, with an operator of the language. -/
def Predicate.IsQuoted : Predicate → Prop
  | .compare column operator operand | .date _ column operator operand
  | .bitwise column operator operand =>
    column.IsName ∧ Operator.resolve operator ∈ Operator.all ∧ operand.IsLiteral
  | .member column operands _ => column.IsName ∧ ∀ operand ∈ operands, operand.IsLiteral
  | .integerMember column _ _ | .null column _ => column.IsName
  | .between column low high _ => column.IsName ∧ low.IsLiteral ∧ high.IsLiteral
  | .betweenColumns column low high _ => column.IsName ∧ low.IsName ∧ high.IsName
  | .compareColumns first operator second =>
    first.IsName ∧ Operator.resolve operator ∈ Operator.all ∧ second.IsName
  | .group _ => True
  | .nonempty query _ => query.HasQuotedClauses
  | .raw .. => False

instance : DecidablePred Predicate.IsQuoted
  | .compare .. | .date .. | .bitwise .. | .between .. | .betweenColumns .. | .compareColumns .. =>
    inferInstanceAs (Decidable (_ ∧ _ ∧ _))
  | .member .. => inferInstanceAs (Decidable (_ ∧ _))
  | .integerMember column _ _ | .null column _ => inferInstanceAs (Decidable column.IsName)
  | .group _ => inferInstanceAs (Decidable True)
  | .nonempty query _ => inferInstanceAs (Decidable query.HasQuotedClauses)
  | .raw .. => inferInstanceAs (Decidable False)

/-- A query without verbatim text at any depth. -/
def Query.IsQuoted (q : Query) : Prop :=
  q.HasQuotedClauses ∧ ∀ p ∈ q.predicates, p.IsQuoted

instance (q : Query) : Decidable q.IsQuoted :=
  inferInstanceAs (Decidable (_ ∧ _))

def Fields.IsLiteral (f : Fields) : Prop :=
  ∀ o ∈ f.operands, o.IsLiteral

instance (f : Fields) : Decidable f.IsLiteral :=
  inferInstanceAs (Decidable (∀ o ∈ f.operands, o.IsLiteral))

def Batch.IsLiteral (b : Batch) : Prop :=
  ∀ f ∈ b.records, f.IsLiteral

instance (b : Batch) : Decidable b.IsLiteral :=
  inferInstanceAs (Decidable (∀ f ∈ b.records, f.IsLiteral))

def OnConflict.IsLiteral : OnConflict → Prop
  | .columns _ => True
  | .set fields => fields.IsLiteral

instance : DecidablePred OnConflict.IsLiteral
  | .columns _ => inferInstanceAs (Decidable True)
  | .set fields => inferInstanceAs (Decidable fields.IsLiteral)

/-- A request without verbatim text: its columns are names, its operands literals, and its operators
those of the language. -/
def Request.IsQuoted : Request → Prop
  | .select q | .existence q | .delete q => q.IsQuoted
  | .insert q batch | .insertOrIgnore q batch => q.IsQuoted ∧ batch.IsLiteral
  | .create q fields | .update q fields | .relate q _ _ fields => q.IsQuoted ∧ fields.IsLiteral
  | .upsert q batch _ onConflict => q.IsQuoted ∧ batch.IsLiteral ∧ onConflict.IsLiteral

instance : DecidablePred Request.IsQuoted
  | .select q | .existence q | .delete q => inferInstanceAs (Decidable q.IsQuoted)
  | .insert .. | .insertOrIgnore .. | .create .. | .update .. | .relate .. =>
    inferInstanceAs (Decidable (_ ∧ _))
  | .upsert .. => inferInstanceAs (Decidable (_ ∧ _ ∧ _))

/-! ## Parts without values -/

theorem valuesIn_flatMap {α : Type} {as : List α} {parts : α → List Call}
    (h : ∀ x ∈ as, valuesIn (parts x) = 0) : valuesIn (as.flatMap parts) = 0 := by
  induction as with
  | nil => rfl
  | cons x as ih =>
    rw [List.forall_mem_cons] at h
    rw [List.flatMap_cons, valuesIn_append, h.1, ih h.2]

theorem Operand.IsLiteral.parts_eq {o : Operand} (h : o.IsLiteral) : o.parts = [] := by
  cases o with
  | literal v => rfl
  | raw text => cases h
  | call c => cases h

theorem Column.IsName.valuesIn_written {c : Column} (h : c.IsName) : valuesIn c.written = 0 := by
  cases c with
  | name s => exact valuesIn_texts _
  | raw text => cases h
  | call c => cases h

theorem valuesIn_columns {cs : List Column} (h : ∀ c ∈ cs, c.IsName) :
    valuesIn (cs.flatMap Column.written) = 0 :=
  valuesIn_flatMap fun c hc => (h c hc).valuesIn_written

theorem flatMap_parts_of_isLiteral {os : List Operand} (h : ∀ o ∈ os, o.IsLiteral) :
    os.flatMap Operand.parts = [] := by
  rw [List.flatMap_eq_nil_iff]
  exact fun o ho => (h o ho).parts_eq

theorem OrderTerm.IsQuoted.valuesIn_written {o : OrderTerm} (h : o.IsQuoted) :
    valuesIn o.written = 0 := by
  cases o with
  | raw text => cases h
  | random => rfl
  | byColumn column kind direction =>
    rw [OrderTerm.written, valuesIn_append, h.1.valuesIn_written, valuesIn_texts]

theorem Query.HasQuotedClauses.valuesIn_written (settings : Settings) {q : Query}
    (h : q.HasQuotedClauses) : valuesIn (q.clauseWritten settings) = 0 := by
  obtain ⟨hcolumns, hgroups, horders, haggregate, hedges, hfetch, hsplit⟩ := h
  have hselection : valuesIn q.selectionWritten = 0 := by
    unfold Query.selectionWritten
    split
    · rename_i aggregate hsome
      rw [hsome] at haggregate
      rw [valuesIn_cons, valuesIn_columns (haggregate aggregate (by simp)), List.length_nil]
    · rw [valuesIn_append, valuesIn_columns hcolumns, valuesIn_texts]
  have htrail : valuesIn q.trailWritten = 0 := by
    unfold Query.trailWritten
    rw [hfetch, hsplit, valuesIn_append, valuesIn_append, valuesIn_columns hgroups,
      valuesIn_flatMap fun o ho => (horders o ho).valuesIn_written]
    split <;> rfl
  rw [Query.clauseWritten, valuesIn_append, valuesIn_append, hselection, htrail, valuesIn_texts]

theorem Operator.written_of_mem {token : String} (h : Operator.resolve token ∈ Operator.all) :
    Operator.written token = [] :=
  if_pos h

theorem Predicate.IsQuoted.valuesIn_written (settings : Settings) {p : Predicate}
    (h : p.IsQuoted) : valuesIn (p.written settings) = 0 := by
  cases p with
  | compare column operator operand | date unit column operator operand =>
    obtain ⟨hcolumn, hoperator, hoperand⟩ := h
    simp [Predicate.written, Operator.written_of_mem hoperator, hoperand.parts_eq,
      hcolumn.valuesIn_written]
  | member column operands negated =>
    rw [Predicate.written, flatMap_parts_of_isLiteral h.2, List.append_nil]
    split
    · rfl
    · exact h.1.valuesIn_written
  | integerMember column integers negated =>
    have hcolumn : column.IsName := h
    rw [Predicate.written]
    split
    · rfl
    · exact hcolumn.valuesIn_written
  | null column negated =>
    have hcolumn : column.IsName := h
    exact hcolumn.valuesIn_written
  | between column low high negated =>
    obtain ⟨hcolumn, hlow, hhigh⟩ := h
    simp [Predicate.written, hlow.parts_eq, hhigh.parts_eq, hcolumn.valuesIn_written]
  | betweenColumns column low high negated =>
    obtain ⟨hcolumn, hlow, hhigh⟩ := h
    simp [Predicate.written, hlow.valuesIn_written, hhigh.valuesIn_written,
      hcolumn.valuesIn_written]
  | compareColumns first operator second =>
    obtain ⟨hfirst, hoperator, hsecond⟩ := h
    simp [Predicate.written, Operator.written_of_mem hoperator, hfirst.valuesIn_written,
      hsecond.valuesIn_written]
  | group conditions => rfl
  | nonempty query negated => exact Query.HasQuotedClauses.valuesIn_written settings h
  | bitwise column operator operand => rfl
  | raw text values => cases h

theorem valuesIn_conditionWritten (settings : Settings) {conditions : List Condition}
    (h : ∀ p ∈ conditionPredicates conditions, p.IsQuoted) :
    valuesIn (conditionWritten settings conditions) = 0 :=
  valuesIn_flatMap fun p hp => (h p hp).valuesIn_written settings

theorem Query.IsQuoted.conditions {q : Query} (h : q.IsQuoted) :
    ∀ p ∈ conditionPredicates q.conditions, p.IsQuoted := by
  rw [← Query.predicates_eq]
  exact h.2

theorem Query.IsQuoted.valuesIn_written (settings : Settings) {q : Query} (h : q.IsQuoted) :
    valuesIn (q.written settings) = 0 := by
  rw [Query.written, valuesIn_append, h.1.valuesIn_written,
    valuesIn_conditionWritten settings h.conditions]

theorem isQuoted_unqualifyId (qualified : String) {conditions : List Condition}
    (h : ∀ p ∈ conditionPredicates conditions, p.IsQuoted) :
    ∀ p ∈ conditionPredicates (Statement.unqualifyId qualified conditions), p.IsQuoted := by
  induction conditions with
  | nil => exact h
  | cons condition rest ih =>
    obtain ⟨connective, predicate⟩ := condition
    simp only [conditionPredicates_cons, List.forall_mem_cons, List.forall_mem_append] at h
    obtain ⟨hpredicate, hinner, hrest⟩ := h
    have later : ∀ p ∈ conditionPredicates (⟨connective, predicate⟩ ::
        Statement.unqualifyId qualified rest), p.IsQuoted := by
      simp only [conditionPredicates_cons, List.forall_mem_cons, List.forall_mem_append]
      exact ⟨hpredicate, hinner, ih hrest⟩
    cases predicate with
    | compare column operator operand =>
      rw [Statement.unqualifyId]
      split
      · simp only [conditionPredicates_cons, List.forall_mem_cons, List.forall_mem_append]
        exact ⟨⟨trivial, hpredicate.2⟩, hinner, hrest⟩
      · exact later
    | _ => exact later

theorem Fields.IsLiteral.valuesIn_written {f : Fields} (h : f.IsLiteral)
    (pieces : String → List String) : valuesIn (f.written pieces) = 0 := by
  refine valuesIn_flatMap fun (key, operand) he => ?_
  have hliteral : operand.IsLiteral := h operand (List.mem_map.2 ⟨_, he, rfl⟩)
  dsimp only
  rw [hliteral.parts_eq, List.append_nil, valuesIn_texts]

theorem Batch.IsLiteral.valuesIn_written {b : Batch} (h : b.IsLiteral) :
    valuesIn b.written = 0 := by
  have hrecords : valuesIn (b.records.flatMap fun f => f.operands.flatMap Operand.parts) = 0 :=
    valuesIn_flatMap fun f hf => by rw [flatMap_parts_of_isLiteral (h f hf), valuesIn_nil]
  rw [Batch.written, valuesIn_append, valuesIn_texts, hrecords]

theorem OnConflict.IsLiteral.valuesIn_written {onConflict : OnConflict} (h : onConflict.IsLiteral) :
    valuesIn onConflict.written = 0 := by
  cases onConflict with
  | columns names => rfl
  | set fields => exact Fields.IsLiteral.valuesIn_written h _

theorem Batch.IsLiteral.valuesIn_insertWritten (settings : Settings) (q : Query) {b : Batch}
    (h : b.IsLiteral) : valuesIn (b.insertWritten settings q) = 0 := by
  rw [Batch.insertWritten, valuesIn_append, valuesIn_texts, Nat.zero_add]
  split
  · rfl
  · exact h.valuesIn_written

/-- Where nothing is verbatim, nothing comes with values of its own. -/
theorem Request.IsQuoted.valuesIn_written (settings : Settings) {r : Request} (h : r.IsQuoted) :
    valuesIn (r.written settings) = 0 := by
  cases r with
  | select q | existence q => exact Query.IsQuoted.valuesIn_written settings h
  | insert q batch | insertOrIgnore q batch => exact h.2.valuesIn_insertWritten settings q
  | create q fields =>
    rw [Request.written, valuesIn_append, valuesIn_texts, h.2.valuesIn_written]
  | update q fields =>
    rw [Request.written, valuesIn_append, valuesIn_append, valuesIn_texts, h.2.valuesIn_written,
      valuesIn_conditionWritten settings h.1.conditions]
  | upsert q batch uniqueBy onConflict =>
    rw [Request.written, valuesIn_append, valuesIn_append, valuesIn_texts, h.2.1.valuesIn_written,
      h.2.2.valuesIn_written]
  | delete q =>
    rw [Request.written, valuesIn_append, valuesIn_texts,
      valuesIn_conditionWritten settings (isQuoted_unqualifyId _ (Query.IsQuoted.conditions h))]
  | relate q edge target fields =>
    rw [Request.written, valuesIn_append, valuesIn_texts, h.2.valuesIn_written]

theorem marksIn_eq_zero_iff {parts : List Call} :
    marksIn parts = 0 ↔ ∀ c ∈ parts, IsPlain c.expression := by
  induction parts with
  | nil => simp
  | cons c cs ih =>
    rw [marksIn_cons, Nat.add_eq_zero_iff, ih, List.forall_mem_cons]
    rfl

/-- **Placeholders in quoted names.** Where nothing is verbatim, a statement has a placeholder for
each binding and besides all those in the names. So the two are equally many if and only if there is
no placeholder in any table, column, key or alias. -/
theorem placeholders_eq_length_iff (settings : Settings) {r : Request} {s : Statement}
    (hquoted : r.IsQuoted) (hok : r.compile settings = .ok s) :
    s.template.placeholders = s.template.bindings.length + marksIn (r.written settings) ∧
      (s.template.placeholders = s.template.bindings.length ↔
        ∀ c ∈ r.written settings, IsPlain c.expression) := by
  have htally : s.template.placeholders =
      s.template.bindings.length + marksIn (r.written settings) := by
    have h := Request.tallies hok
    unfold Template.Tallies at h
    rwa [hquoted.valuesIn_written, Nat.add_zero] at h
  refine ⟨htally, ?_⟩
  rw [htally, ← marksIn_eq_zero_iff]
  omega

/-- An update of a table with an alias, in which one key has a placeholder in it. -/
def restock : Request :=
  .update { target := "stock AS s", conditions := [
      ⟨.and, .group [⟨.and, .null (.name "sold") false⟩,
        ⟨.or, .date .year (.name "checked") "Is  Not" (.literal (.int 2024))⟩]⟩] }
    ⟨[("price in $?", .literal (.int 5)), ("left", .literal (.int 7))], by decide⟩

theorem placeholders_eq_length_iff_restock :
    restock.IsQuoted ∧ ∃ s, restock.compile ⟨"app_"⟩ = .ok s ∧
      s.template.bindings.length = 3 ∧ s.template.placeholders = 4 := by
  have hquoted : restock.IsQuoted := by decide
  have hmarks : marksIn (restock.written ⟨"app_"⟩) = 1 := by decide
  refine ⟨hquoted, _, rfl, rfl, ?_⟩
  have h := (placeholders_eq_length_iff ⟨"app_"⟩ hquoted rfl).1
  rw [hmarks] at h
  exact h

/-- One value is bound here, and there are two placeholders: the one between the quotes comes first
and takes the value. -/
theorem placeholder_between_quotes :
    let r : Request := .select { target := "orders", conditions := [
      ⟨.and, .compare (.name "price in $?") "=" (.literal (.int 5))⟩] }
    r.IsQuoted ∧ ∃ s, r.compile {} = .ok s ∧
      s.template.text = "SELECT * FROM `orders` WHERE `price in $?` = $?" ∧
      s.template.bindings.length = 1 ∧ s.template.placeholders = 2 := by
  refine ⟨by decide, _, rfl, by decide, rfl, by decide⟩

end SurrealQuery
