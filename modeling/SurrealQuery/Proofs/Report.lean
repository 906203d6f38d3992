import Mathlib.Data.List.Perm.Basic
import SurrealQuery.Proofs.Codec.Value
import SurrealQuery.Proofs.Insertion
import SurrealQuery.Proofs.Noninterference

/-!
# What a report tells

A report has the verb, the text and the values of each channel of a statement, and not how the two
channels take turns. `renderPretty_report_eq_iff`: reports are the same exactly if those are. Then
the statements bind the same values, in an order that is known once the channel of each placeholder
is; any two orders come up in statements with the same report.
-/

namespace SurrealQuery

/-! ## Bindings by channel -/

/-- The values of one channel among bindings, in order. -/
def Channel.valuesOf (channel : Channel) (bs : List Binding) : List Value :=
  (bs.filter (·.channel == channel)).map (·.value)

theorem Channel.map_valuesOf (channel : Channel) (bs : List Binding) :
    (channel.valuesOf bs).map (Binding.mk · channel) = bs.filter (·.channel == channel) := by
  unfold Channel.valuesOf
  rw [List.map_map]
  conv_rhs => rw [← List.map_id (bs.filter _)]
  refine List.map_congr_left fun b hb => ?_
  obtain ⟨-, hchannel⟩ := List.mem_filter.1 hb
  obtain ⟨value, channel'⟩ := b
  obtain rfl : channel' = channel := eq_of_beq hchannel
  rfl

theorem Channel.valuesOf_cons (channel : Channel) (b : Binding) (bs : List Binding) :
    channel.valuesOf (b :: bs) =
      if b.channel = channel then b.value :: channel.valuesOf bs else channel.valuesOf bs := by
  unfold Channel.valuesOf
  rw [List.filter_cons]
  by_cases h : b.channel = channel <;> simp [h]

/-- The bindings with given channels, where the values of each channel are taken in order. -/
def weave : List Channel → (Channel → List Value) → List Binding
  | [], _ => []
  | channel :: rest, values =>
    match values channel with
    | [] => []
    | value :: others => ⟨value, channel⟩ :: weave rest (Function.update values channel others)

/-- Bindings are known from their channels and from the values of each channel. -/
theorem weave_valuesOf (bs : List Binding) :
    weave (bs.map Binding.channel) (·.valuesOf bs) = bs := by
  induction bs with
  | nil => rfl
  | cons b bs ih =>
    have hrest : Function.update (fun channel : Channel => channel.valuesOf (b :: bs)) b.channel
        (b.channel.valuesOf bs) = (·.valuesOf bs) := by
      funext channel
      by_cases h : channel = b.channel
      · rw [h, Function.update_self]
      · rw [Function.update_of_ne h, Channel.valuesOf_cons, if_neg (Ne.symm h)]
    rw [List.map_cons, weave, Channel.valuesOf_cons, if_pos rfl]
    dsimp only
    rw [hrest, ih]

/-- The order among the channels aside, bindings are the values of both. -/
theorem perm_valuesOf (bs : List Binding) :
    ((Channel.query.valuesOf bs).map (Binding.mk · .query) ++
      (Channel.function.valuesOf bs).map (Binding.mk · .function)).Perm bs := by
  have hnot : (fun b : Binding => b.channel == .function) = fun b => !(b.channel == .query) := by
    funext b
    cases b.channel <;> rfl
  rw [Channel.map_valuesOf, Channel.map_valuesOf, hnot]
  exact List.filter_append_perm _ bs

/-- If one channel has no values, the bindings are those of the other. -/
theorem eq_map_valuesOf {channel other : Channel} (hne : channel ≠ other) {bs : List Binding}
    (h : channel.valuesOf bs = []) : bs = (other.valuesOf bs).map (Binding.mk · other) := by
  rw [Channel.map_valuesOf]
  refine (List.filter_eq_self.2 fun b hb => ?_).symm
  have hchannel : ¬(b.channel == channel) := List.filter_eq_nil_iff.1 (List.map_eq_nil_iff.1 h) b hb
  revert hchannel hne
  cases b.channel <;> cases channel <;> cases other <;> decide

section Same

variable {bs bs' : List Binding} (h : ∀ channel : Channel, channel.valuesOf bs = channel.valuesOf bs')
include h

theorem perm_of_valuesOf_eq : bs.Perm bs' := by
  have hperm := perm_valuesOf bs
  rw [h, h] at hperm
  exact hperm.symm.trans (perm_valuesOf bs')

theorem eq_iff_channels_eq : bs = bs' ↔ bs.map Binding.channel = bs'.map Binding.channel := by
  refine ⟨congrArg _, fun hchannels => ?_⟩
  rw [← weave_valuesOf bs, ← weave_valuesOf bs', hchannels]
  exact congrArg _ (funext h)

theorem eq_of_valuesOf_eq_nil {channel : Channel} (hnil : channel.valuesOf bs = []) : bs = bs' := by
  obtain ⟨other, hne⟩ : ∃ other, channel ≠ other := by
    cases channel
    · exact ⟨.function, by decide⟩
    · exact ⟨.query, by decide⟩
  rw [eq_map_valuesOf hne hnil, h, ← eq_map_valuesOf hne ((h channel).symm.trans hnil)]

end Same

/-! ## Reports -/

namespace Statement

theorem writable_report (s : Statement) : s.report.Writable := by
  have hvalues (channel : Channel) : (Json.ofList Value.toJson (s.values channel)).Writable :=
    .arr (List.forall_mem_map.2 fun v _ => v.decodes.writable)
  refine .obj fun m hm => ?_
  simp only [List.mem_cons, List.not_mem_nil, or_false] at hm
  rcases hm with rfl | rfl | rfl | rfl
  · exact .str _
  · exact .str _
  · exact hvalues .query
  · exact hvalues .function

theorem report_eq_iff {s s' : Statement} :
    s.report = s'.report ↔ s.verb = s'.verb ∧ s.template.text = s'.template.text ∧
      ∀ channel, s.values channel = s'.values channel := by
  have hkeyword : Function.Injective Verb.keyword := by
    intro v w
    cases v <;> cases w <;> decide
  constructor
  · intro h
    unfold report Json.ofList at h
    simp only [Json.obj.injEq, List.cons.injEq, Prod.mk.injEq, Json.str.injEq, Json.arr.injEq,
      true_and, and_true] at h
    obtain ⟨hverb, htext, hquery, hfunction⟩ := h
    refine ⟨hkeyword hverb, htext, fun channel => ?_⟩
    cases channel
    · exact List.map_injective_iff.2 Value.toJson_injective hquery
    · exact List.map_injective_iff.2 Value.toJson_injective hfunction
  · rintro ⟨hverb, htext, hvalues⟩
    unfold report
    rw [hverb, htext, hvalues .query, hvalues .function]

end Statement

/-! ## Every order comes up -/

/-- An operand that binds one value: a literal, or a call that is a placeholder alone. -/
def Binding.operand (b : Binding) : Operand :=
  match b.channel with
  | .query => .literal b.value
  | .function => .call ⟨Template.placeholder, [b.value]⟩

theorem Binding.template_operand (b : Binding) :
    b.operand.template = ⟨Template.placeholder, [b]⟩ := by
  obtain ⟨value, channel⟩ := b
  cases channel <;> rfl

/-- The items with one of the codes that are bound. -/
def itemsWith (codes : List Binding) : Query where
  target := "items"
  conditions := [⟨.and, .member (.name "code") (codes.map Binding.operand) false⟩]

/-- What is asked of a code, if there are `n` of them to choose from. -/
def codeText (n : Nat) : String :=
  if n = 0 then "0 = 1"
  else Identifier.column "code" ++ " CONTAINS [" ++
    Text.commaList (List.replicate n Template.placeholder) ++ "]"

theorem operands_codes (codes : List Binding) :
    Clause.operands (codes.map Binding.operand) =
      ⟨Text.commaList (List.replicate codes.length Template.placeholder), codes⟩ := by
  have htemplates : (codes.map Binding.operand).map Operand.template =
      codes.map fun b => ⟨Template.placeholder, [b]⟩ := by
    rw [List.map_map]
    exact List.map_congr_left fun b _ => b.template_operand
  have htext : (Clause.operands (codes.map Binding.operand)).text =
      Text.commaList (List.replicate codes.length Template.placeholder) := by
    unfold Clause.operands
    rw [htemplates, Template.text_join_comma, List.map_map]
    exact congrArg Text.commaList List.map_const'
  have hbindings : (Clause.operands (codes.map Binding.operand)).bindings = codes := by
    unfold Clause.operands
    rw [htemplates, Template.bindings_join, List.flatMap_map]
    exact List.flatMap_singleton' codes
  exact congrArg₂ Template.mk htext hbindings

theorem membership_codes (codes : List Binding) :
    Clause.membership (.name "code") false (codes.map Binding.operand).isEmpty
      (Clause.operands (codes.map Binding.operand)) = ⟨codeText codes.length, codes⟩ := by
  rw [operands_codes]
  cases codes with
  | nil => rfl
  | cons b codes =>
    show Template.mk _ ([] ++ [] ++ (b :: codes) ++ []) = _
    rw [List.append_nil]
    rfl

/-- The text of the search depends on the number of the codes alone. -/
theorem compile_itemsWith (settings : Settings) (codes : List Binding) :
    (Request.select (itemsWith codes)).compile settings = .ok ⟨.select,
      "SELECT * FROM " ++ Identifier.withAlias settings.tablePrefix
        (settings.tablePrefix ++ "items") ++ " WHERE " ++ codeText codes.length, codes⟩ := by
  set table := Identifier.withAlias settings.tablePrefix (settings.tablePrefix ++ "items")
  have htemplate : (itemsWith codes).template settings = .ok (.join " " [.raw "SELECT *",
      .raw ("FROM " ++ table),
      Clause.after "WHERE" (⟨codeText codes.length, codes⟩ ++ .raw "")]) := by
    have hitems : ¬isRecordReference "items" := by decide
    have hreference : settings.table (itemsWith codes).target = .ok table := if_neg hitems
    rw [← membership_codes]
    unfold Query.template Clause.query
    rw [hreference]
    rfl
  have htext : "SELECT *" ++ (" " ++ ("FROM " ++ table) ++
      (" " ++ ("WHERE " ++ (codeText codes.length ++ "")) ++ "")) =
        "SELECT * FROM " ++ table ++ " WHERE " ++ codeText codes.length :=
    calc
      _ = "SELECT *" ++ " " ++ "FROM " ++ table ++ (" " ++ "WHERE ") ++ codeText codes.length := by
        simp only [String.append_assoc, String.append_empty]
      _ = _ := rfl
  have hbindings : [] ++ ([] ++ [] ++ ([] ++ ([] ++ (codes ++ [])) ++ [])) = codes := by simp
  show ((itemsWith codes).template settings).bind _ = _
  rw [htemplate]
  exact congrArg (Except.ok ∘ Statement.mk .select) (congrArg₂ Template.mk htext hbindings)

/-- **What a report tells.** The printed reports of two statements are the same exactly if their
verbs, their texts and the values of each channel are. The statements then bind the same values to
the same channels, each is known once its channels are known by place, and so the order is the same
exactly if the channels by place are: always if there is one channel only, or if the requests differ
in values alone. Nothing else is told of the order: bindings with the same values of each channel
come up in statements with the same report. -/
theorem renderPretty_report_eq_iff :
    (∀ (settings settings' : Settings) (r r' : Request) (s s' : Statement),
      r.compile settings = .ok s → r'.compile settings' = .ok s' →
        (s.report.renderPretty = s'.report.renderPretty ↔
          s.verb = s'.verb ∧ s.template.text = s'.template.text ∧
            ∀ channel, s.values channel = s'.values channel) ∧
        (s.report.renderPretty = s'.report.renderPretty →
          s.template.bindings.Perm s'.template.bindings ∧
          s'.template.bindings = weave (s'.template.bindings.map Binding.channel) s.values ∧
          (s.template.bindings = s'.template.bindings ↔
            s.template.bindings.map Binding.channel = s'.template.bindings.map Binding.channel) ∧
          ((∃ channel, s.values channel = []) → s.template.bindings = s'.template.bindings) ∧
          (settings = settings' → r.rewrite erasing = r'.rewrite erasing →
            s.template.bindings = s'.template.bindings))) ∧
      ∀ (settings : Settings) (bs bs' : List Binding),
        (∀ channel : Channel, channel.valuesOf bs = channel.valuesOf bs') →
          ∃ (r r' : Request) (s s' : Statement),
            r.compile settings = .ok s ∧ r'.compile settings = .ok s' ∧
            s.template.bindings = bs ∧ s'.template.bindings = bs' ∧
            s.report.renderPretty = s'.report.renderPretty := by
  have hprinted (s s' : Statement) : s.report.renderPretty = s'.report.renderPretty ↔
      s.verb = s'.verb ∧ s.template.text = s'.template.text ∧
        ∀ channel, s.values channel = s'.values channel :=
    (s.writable_report.renderPretty_inj s'.writable_report).trans Statement.report_eq_iff
  refine ⟨fun settings settings' r r' s s' hr hr' => ⟨hprinted s s', fun h => ?_⟩,
    fun settings bs bs' h => ?_⟩
  · obtain ⟨-, -, hvalues⟩ := (hprinted s s').1 h
    have hchannels := eq_iff_channels_eq hvalues
    refine ⟨perm_of_valuesOf_eq hvalues, ?_, hchannels, ?_, ?_⟩
    · rw [funext hvalues]
      exact (weave_valuesOf s'.template.bindings).symm
    · rintro ⟨channel, hnil⟩
      exact eq_of_valuesOf_eq_nil hvalues hnil
    · rintro rfl herased
      have hagree := Request.agree_sameText settings herased
      rw [hr, hr'] at hagree
      obtain ⟨_, hs', -, -, hsame⟩ := hagree.exists_ok rfl
      cases hs'
      exact hchannels.2 hsame
  · have hlength : bs.length = bs'.length := (perm_of_valuesOf_eq h).length_eq
    refine ⟨_, _, _, _, compile_itemsWith settings bs, compile_itemsWith settings bs', rfl, rfl,
      (hprinted _ _).2 ⟨rfl, ?_, h⟩⟩
    rw [hlength]

/-- Two codes, the first one a literal and the other the argument of a call. -/
def literalFirst : List Binding :=
  [⟨.int 1, .query⟩, ⟨.int 2, .function⟩]

/-- The same codes the other way round. -/
def callFirst : List Binding :=
  [⟨.int 2, .function⟩, ⟨.int 1, .query⟩]

/-- Two codes, both of them literals. -/
def literalsOnly : List Binding :=
  [⟨.int 1, .query⟩, ⟨.int 2, .query⟩]

/-- A search for two codes that is taken as it is. -/
def itemsVerbatim : Query where
  target := "items"
  conditions := [⟨.and, .raw "`code` CONTAINS [$?, $?]" [.int 1, .int 2]⟩]

theorem renderPretty_report_eq_iff_codes :
    (∃ s s', (Request.select (itemsWith literalFirst)).compile {} = .ok s ∧
      (Request.select (itemsWith callFirst)).compile {} = .ok s' ∧
      s.report.renderPretty = s'.report.renderPretty ∧
      s.template.bindings.Perm s'.template.bindings) ∧
    (∃ s s', (Request.select itemsVerbatim).compile {} = .ok s ∧
      (Request.select (itemsWith literalsOnly)).compile {} = .ok s' ∧
      s.values .function = [] ∧ s.report.renderPretty = s'.report.renderPretty ∧
      s.template.bindings = s'.template.bindings) ∧
    (∃ s s', (Request.insert (itemsWith literalFirst) {}).compile {} = .ok s ∧
      (Request.insert (itemsWith [⟨.int 2, .query⟩, ⟨.int 1, .function⟩]) {}).compile {} = .ok s' ∧
      s.report.renderPretty = s'.report.renderPretty ∧
      s.template.bindings = s'.template.bindings) ∧
    ∃ (r r' : Request) (s s' : Statement), r.compile {} = .ok s ∧ r'.compile {} = .ok s' ∧
      s.template.bindings = literalFirst ∧ s'.template.bindings = callFirst ∧
      s.report.renderPretty = s'.report.renderPretty := by
  obtain ⟨hreports, horders⟩ := renderPretty_report_eq_iff
  have hvalues (channel : Channel) :
      channel.valuesOf literalFirst = channel.valuesOf callFirst := by
    cases channel <;> rfl
  refine ⟨⟨_, _, rfl, rfl, rfl, ?_⟩, ⟨_, _, rfl, rfl, rfl, rfl, ?_⟩, ⟨_, _, rfl, rfl, rfl, ?_⟩,
    horders {} literalFirst callFirst hvalues⟩
  · exact ((hreports {} {} (.select (itemsWith literalFirst)) (.select (itemsWith callFirst)) _ _
      rfl rfl).2 rfl).1
  · exact ((hreports {} {} (.select itemsVerbatim) (.select (itemsWith literalsOnly)) _ _
      rfl rfl).2 rfl).2.2.2.1 ⟨.function, rfl⟩
  · exact ((hreports {} {} (.insert (itemsWith literalFirst) {})
      (.insert (itemsWith [⟨.int 2, .query⟩, ⟨.int 1, .function⟩]) {}) _ _ rfl rfl).2
      rfl).2.2.2.2 rfl rfl

/-- Equal reports need not be reports of equal bindings: which of two placeholders has the literal
is not told. -/
theorem same_report_of_codes :
    ∃ s s', (Request.select (itemsWith literalFirst)).compile {} = .ok s ∧
      (Request.select (itemsWith callFirst)).compile {} = .ok s' ∧
      s.report.renderPretty = s'.report.renderPretty ∧
      s.template.bindings ≠ s'.template.bindings := by
  refine ⟨_, _, rfl, rfl, rfl, fun h => ?_⟩
  obtain ⟨hfirst, -⟩ := List.cons.inj h
  cases congrArg Binding.channel hfirst

end SurrealQuery
