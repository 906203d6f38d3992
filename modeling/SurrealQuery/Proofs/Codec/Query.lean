import SurrealQuery.Query.Codec
import SurrealQuery.Proofs.Codec.Value

/-!
# Queries as JSON

A query is read back from what is written for it, with all that it nests: `decodesWithin` goes by
the depth of the tree, and `decode_render` gathers queries and all that is written beside them.
-/

namespace SurrealQuery

open Json (Decodes)

/-! ## Parts of a query -/

theorem Duration.decodes (d : Duration) : Decodes Duration.read? d.toJson d := by
  obtain ⟨seconds, nanos, hnanos⟩ := d
  have hsmall : (UInt64.ofNat nanos).toNat = nanos :=
    UInt64.toNat_ofNat_of_lt' (Nat.lt_trans hnanos (by decide))
  have hseconds := Json.decodes_uint64 seconds
  have hparts := Json.decodes_uint64 (UInt64.ofNat nanos)
  rw [hsmall] at hparts
  refine ⟨?_, .cons hseconds.writable (.cons hparts.writable .nil)⟩
  have hfew : nanos < UInt32.size := Nat.lt_trans hnanos (by decide)
  have hnone : nanos / 1000000000 = 0 := Nat.div_eq_of_lt hnanos
  have hall : nanos % 1000000000 = nanos := Nat.mod_eq_of_lt hnanos
  unfold read? toJson
  rw [Json.fields?_obj _ (by rfl) (by decide)]
  dsimp only [List.map]
  rw [hseconds.required, hparts.required]
  simp [of?, hsmall, hfew, hnone, hall, seconds.toNat_lt]

theorem decodes_columns (cs : List Column) :
    Decodes (Json.list? Column.read?) (Json.ofList Column.toJson cs) cs :=
  Json.decodes_list fun c _ => c.decodes

theorem decodes_selected (columns : Option (List Column)) :
    Decodes (Json.nullable? (Json.list? Column.read?))
      (Json.ofOption (Json.ofList Column.toJson) columns) columns :=
  Json.decodes_nullable rfl fun cs _ => decodes_columns cs

theorem decodes_names (names : List String) :
    Decodes (Json.list? Json.str?) (Json.ofList Json.str names) names :=
  Json.decodes_list fun s _ => Json.decodes_str s

theorem decodes_bound (bound : Option UInt64) :
    Decodes (Json.nullable? Json.uint64?) (Json.ofOption (fun n => Json.ofNat n.toNat) bound)
      bound :=
  Json.decodes_nullable rfl fun n _ => Json.decodes_uint64 n

theorem Aggregate.decodes (a : Aggregate) : Decodes Aggregate.read? a.toJson a := by
  have hcolumns := decodes_columns a.columns
  refine ⟨?_, .cons (.str _) (.cons hcolumns.writable .nil)⟩
  unfold read? toJson
  rw [Json.fields?_obj _ (by rfl) (by decide)]
  dsimp only [List.map]
  rw [(Json.decodes_str _).required, hcolumns.required]
  rfl

theorem decodes_aggregate (aggregate : Option Aggregate) :
    Decodes (Json.nullable? Aggregate.read?) (Json.ofOption Aggregate.toJson aggregate)
      aggregate :=
  Json.decodes_nullable rfl fun a _ => a.decodes

theorem ReturnMode.decodes {origin : Json.Origin} (mode : ReturnMode) :
    Decodes (Json.word? origin words) (.str mode.name) mode :=
  Json.decodes_word (by cases mode <;> rfl)

theorem LockMode.decodes {origin : Json.Origin} (mode : LockMode) :
    Decodes (Json.word? origin words) (.str mode.name) mode :=
  Json.decodes_word (by cases mode <;> rfl)

theorem Direction.decodes {origin : Json.Origin} (d : Direction) :
    Decodes (Json.word? origin words) (.str d.name) d :=
  Json.decodes_word (by cases d <;> rfl)

theorem Connective.decodes {origin : Json.Origin} (c : Connective) :
    Decodes (Json.word? origin words) (.str c.name) c :=
  Json.decodes_word (by cases c <;> rfl)

theorem DateUnit.decodes {origin : Json.Origin} (u : DateUnit) :
    Decodes (Json.word? origin words) (.str u.name) u :=
  Json.decodes_word (by cases u <;> rfl)

theorem Options.decodes {origin : Json.Origin} (o : Options) :
    Decodes (Options.read? origin) o.toJson o := by
  have hreturning : Decodes (Json.nullable? (Json.word? origin ReturnMode.words))
      (Json.ofOption (fun mode => .str mode.name) o.returning) o.returning :=
    Json.decodes_nullable rfl fun mode _ => mode.decodes
  have htimeout : Decodes (Json.nullable? Duration.read?)
      (Json.ofOption Duration.toJson o.timeout) o.timeout :=
    Json.decodes_nullable rfl fun d _ => d.decodes
  have hparallel := Json.decodes_bool o.parallel
  refine ⟨?_, .cons hreturning.writable (.cons htimeout.writable (.cons hparallel.writable .nil))⟩
  unfold read? toJson
  rw [Json.fields?_obj _ (by rfl) (by decide)]
  dsimp only [List.map]
  rw [hreturning.withDefault, htimeout.withDefault, hparallel.withDefault]
  rfl

theorem OrderTerm.decodes {origin : Json.Origin} (t : OrderTerm) :
    Decodes (OrderTerm.read? origin) t.toJson t := by
  cases t with
  | raw text =>
    have hbody : (Json.obj [("sql", .str text)]).Writable := .cons (.str text) .nil
    refine ⟨?_, .cons (.str _) hbody⟩
    unfold read? toJson
    rw [Json.tagged?_obj (by simp) (by decide) hbody, Option.bind_eq_bind, Option.bind_some]
    rfl
  | byColumn column kind direction =>
    have hcolumn : Decodes Column.read? column.toJson column := column.decodes
    have hkind : Decodes (Json.nullable? Json.str?) (Json.ofOption .str kind) kind :=
      Json.decodes_nullable rfl fun s _ => Json.decodes_str s
    have hdirection : Decodes (Json.word? .tree Direction.words) (.str direction.name) direction :=
      direction.decodes
    have hbody : (Json.obj [("column", column.toJson), ("kind", Json.ofOption .str kind),
        ("direction", .str direction.name)]).Writable :=
      .cons hcolumn.writable (.cons hkind.writable (.cons hdirection.writable .nil))
    refine ⟨?_, .cons (.str _) hbody⟩
    unfold read? toJson
    rw [Json.tagged?_obj (by simp) (by decide) hbody, Option.bind_eq_bind, Option.bind_some]
    dsimp only
    rw [Json.fields?_obj ["column", "kind", "direction"] (by rfl) (by decide)]
    dsimp only [List.map]
    rw [hcolumn.required, hkind.withDefault, hdirection.withDefault]
    rfl
  | random => exact ⟨rfl, .cons (.str _) .nil⟩

theorem decodes_orders {origin : Json.Origin} (orders : List OrderTerm) :
    Decodes (Json.list? (OrderTerm.read? origin)) (Json.ofList OrderTerm.toJson orders) orders :=
  Json.decodes_list fun t _ => t.decodes

/-! ## Predicates -/

namespace Predicate

/-- The tag of a predicate. -/
def variant : Predicate → String
  | .compare .. => "basic"
  | .member _ _ negated => if negated then "not_in" else "in"
  | .integerMember _ _ negated => if negated then "not_in_raw" else "in_raw"
  | .null _ negated => if negated then "not_null" else "null"
  | .between .. => "between"
  | .betweenColumns .. => "between_columns"
  | .compareColumns .. => "column"
  | .group _ => "nested"
  | .nonempty .. => "exists"
  | .date .. => "date"
  | .bitwise .. => "bitwise"
  | .raw .. => "raw"

/-- The members after the tag. -/
def body (p : Predicate) : List (String × Json) :=
  p.toMembers.tail

theorem toMembers_eq_cons (p : Predicate) : p.toMembers = ("type", .str p.variant) :: p.body := by
  cases p <;> rw [body, toMembers] <;> rfl

theorem variant_mem_variants (p : Predicate) : p.variant ∈ variants := by
  unfold variants
  cases p with
  | member _ _ negated => cases negated <;> simp [variant]
  | integerMember _ _ negated => cases negated <;> simp [variant]
  | null _ negated => cases negated <;> simp [variant]
  | _ => simp [variant]

/-- Neither the tag nor the connective of a condition is the name of a field. -/
theorem not_mem_body (p : Predicate) :
    "type" ∉ p.body.map Prod.fst ∧ "boolean" ∉ p.body.map Prod.fst := by
  cases p <;> simp [body, toMembers]

/-! One law for each set of fields, under whichever tag they are read. -/

section Laws

variable (column : Column) (operand : Operand) (operator : String) (negated : Bool)

/-- Comparisons of two kinds have the same fields. -/
theorem decodes_comparison {p : Predicate}
    (hp : p = .compare column operator operand ∨ p = .bitwise column operator operand) :
    Decodes (readFlat? p.variant) (.obj p.body) p := by
  have hbody : p.body = [("column", column.toJson), ("operator", .str operator),
      ("value", operand.toJson)] := by
    rcases hp with rfl | rfl <;> rfl
  rw [hbody]
  refine ⟨?_, .cons column.decodes.writable (.cons (.str _) (.cons operand.decodes.writable .nil))⟩
  unfold readFlat?
  rw [Json.fields?_obj ["column", "operator", "value"] (by rfl) (by decide)]
  dsimp only [List.map]
  rw [column.decodes.required, (Json.decodes_str _).required, operand.decodes.required]
  rcases hp with rfl | rfl <;> rfl

theorem decodes_member (operands : List Operand) :
    Decodes (readMember? negated) (.obj (Predicate.member column operands negated).body)
      (.member column operands negated) := by
  have hoperands : Decodes (Json.list? Operand.read?) (Json.ofList Operand.toJson operands)
      operands :=
    Json.decodes_list fun o _ => o.decodes
  refine ⟨?_, .cons column.decodes.writable (.cons hoperands.writable .nil)⟩
  unfold readMember? body toMembers
  rw [List.tail_cons, Json.fields?_obj ["column", "values"] (by rfl) (by decide)]
  dsimp only [List.map]
  rw [column.decodes.required, hoperands.required]
  rfl

theorem decodes_integerMember (integers : List Int64) :
    Decodes (readIntegerMember? negated)
      (.obj (Predicate.integerMember column integers negated).body)
      (.integerMember column integers negated) := by
  have hintegers : Decodes (Json.list? Json.int64?)
      (Json.ofList (fun n => .num (.int n.toInt)) integers) integers :=
    Json.decodes_list fun n _ => Json.decodes_int64 n
  refine ⟨?_, .cons column.decodes.writable (.cons hintegers.writable .nil)⟩
  unfold readIntegerMember? body toMembers
  rw [List.tail_cons, Json.fields?_obj ["column", "values"] (by rfl) (by decide)]
  dsimp only [List.map]
  rw [column.decodes.required, hintegers.required]
  rfl

theorem decodes_null :
    Decodes (readNull? negated) (.obj (Predicate.null column negated).body)
      (.null column negated) := by
  refine ⟨?_, .cons column.decodes.writable .nil⟩
  unfold readNull? body toMembers
  rw [List.tail_cons, Json.fields?_obj ["column"] (by rfl) (by decide)]
  dsimp only [List.map]
  rw [column.decodes.required]
  rfl

theorem decodes_between (low high : Operand) :
    Decodes (readFlat? "between") (.obj (Predicate.between column low high negated).body)
      (.between column low high negated) := by
  refine ⟨?_, .cons column.decodes.writable (.cons low.decodes.writable
    (.cons high.decodes.writable (.cons (.bool _) .nil)))⟩
  unfold readFlat? body toMembers
  rw [List.tail_cons, Json.fields?_obj ["column", "low", "high", "negated"] (by rfl) (by decide)]
  dsimp only [List.map]
  rw [column.decodes.required, low.decodes.required, high.decodes.required,
    (Json.decodes_bool _).withDefault]
  rfl

theorem decodes_betweenColumns (low high : Column) :
    Decodes (readFlat? "between_columns")
      (.obj (Predicate.betweenColumns column low high negated).body)
      (.betweenColumns column low high negated) := by
  refine ⟨?_, .cons column.decodes.writable (.cons low.decodes.writable
    (.cons high.decodes.writable (.cons (.bool _) .nil)))⟩
  unfold readFlat? body toMembers
  rw [List.tail_cons, Json.fields?_obj ["column", "low", "high", "negated"] (by rfl) (by decide)]
  dsimp only [List.map]
  rw [column.decodes.required, low.decodes.required, high.decodes.required,
    (Json.decodes_bool _).withDefault]
  rfl

theorem decodes_compareColumns (first second : Column) :
    Decodes (readFlat? "column") (.obj (Predicate.compareColumns first operator second).body)
      (.compareColumns first operator second) := by
  refine ⟨?_, .cons first.decodes.writable (.cons (.str _) (.cons second.decodes.writable .nil))⟩
  unfold readFlat? body toMembers
  rw [List.tail_cons, Json.fields?_obj ["first", "operator", "second"] (by rfl) (by decide)]
  dsimp only [List.map]
  rw [first.decodes.required, (Json.decodes_str _).required, second.decodes.required]
  rfl

theorem decodes_date (unit : DateUnit) :
    Decodes (readFlat? "date") (.obj (Predicate.date unit column operator operand).body)
      (.date unit column operator operand) := by
  refine ⟨?_, .cons (.str _) (.cons column.decodes.writable (.cons (.str _)
    (.cons operand.decodes.writable .nil)))⟩
  unfold readFlat? body toMembers
  rw [List.tail_cons, Json.fields?_obj ["unit", "column", "operator", "value"] (by rfl) (by decide)]
  dsimp only [List.map]
  rw [unit.decodes.required, column.decodes.required, (Json.decodes_str _).required,
    operand.decodes.required]
  rfl

theorem decodes_raw (text : String) (values : List Value) :
    Decodes (readFlat? "raw") (.obj (Predicate.raw text values).body) (.raw text values) := by
  have hvalues : Decodes (Json.list? Value.read?) (Json.ofList Value.toJson values) values :=
    Json.decodes_list fun v _ => v.decodes
  refine ⟨?_, .cons (.str _) (.cons hvalues.writable .nil)⟩
  unfold readFlat? body toMembers
  rw [List.tail_cons, Json.fields?_obj ["sql", "bindings"] (by rfl) (by decide)]
  dsimp only [List.map]
  rw [(Json.decodes_str _).required, hvalues.withDefault]
  rfl

end Laws

/-- Whether a predicate holds no conditions of its own. -/
def isFlat : Predicate → Bool
  | .group _ => false
  | .nonempty .. => false
  | _ => true

theorem variant_of_isFlat {p : Predicate} (hflat : p.isFlat) :
    p.variant ≠ "nested" ∧ p.variant ≠ "exists" := by
  cases p with
  | member _ _ negated => cases negated <;> simp [variant]
  | integerMember _ _ negated => cases negated <;> simp [variant]
  | null _ negated => cases negated <;> simp [variant]
  | group _ => cases hflat
  | nonempty _ _ => cases hflat
  | _ => simp [variant]

/-- Predicates of all kinds but two are read from their fields alone. -/
theorem decodes_body {p : Predicate} (hflat : p.isFlat) :
    Decodes (readFlat? p.variant) (.obj p.body) p := by
  cases p with
  | compare column operator operand => exact decodes_comparison column operand operator (.inl rfl)
  | member column operands negated => cases negated <;> exact decodes_member column _ operands
  | integerMember column integers negated =>
    cases negated <;> exact decodes_integerMember column _ integers
  | null column negated => cases negated <;> exact decodes_null column _
  | between column low high negated => exact decodes_between column negated low high
  | betweenColumns column low high negated =>
    exact decodes_betweenColumns column negated low high
  | compareColumns first operator second => exact decodes_compareColumns operator first second
  | group conditions => cases hflat
  | nonempty query negated => cases hflat
  | date unit column operator operand => exact decodes_date column operand operator unit
  | bitwise column operator operand => exact decodes_comparison column operand operator (.inr rfl)
  | raw text values => exact decodes_raw text values

end Predicate

/-! ## Nesting -/

theorem conditionsToJson_eq_map (conditions : List Condition) :
    conditionsToJson conditions = conditions.map Condition.toJson := by
  induction conditions with
  | nil => rfl
  | cons c conditions ih => rw [conditionsToJson, ih, List.map_cons]

theorem queriesToJson_eq_map (queries : List Query) :
    queriesToJson queries = queries.map Query.toJson := by
  induction queries with
  | nil => rfl
  | cons q queries ih => rw [queriesToJson, ih, List.map_cons]

/-- What is nested no deeper than `fuel` is read back. A condition takes a step of its own before
the predicate in the same object. -/
structure DecodesWithin (fuel : Nat) : Prop where
  query : ∀ (origin : Json.Origin) {q : Query}, q.toJson.depth ≤ fuel →
    Decodes (Query.readWithin? fuel origin) q.toJson q
  condition : ∀ (origin : Json.Origin) {c : Condition}, c.toJson.depth < fuel →
    Decodes (Condition.readWithin? fuel origin) c.toJson c
  predicate : ∀ (origin : Json.Origin) {p : Predicate}, p.toJson.depth ≤ fuel →
    Decodes (Predicate.readWithin? fuel origin) p.toJson p

namespace DecodesWithin

variable {fuel : Nat} {origin : Json.Origin}

theorem conditions (ih : DecodesWithin fuel) {cs : List Condition}
    (hdepth : (Json.arr (conditionsToJson cs)).depth ≤ fuel) :
    Decodes (Json.list? (Condition.readWithin? fuel origin)) (.arr (conditionsToJson cs)) cs := by
  rw [conditionsToJson_eq_map] at hdepth ⊢
  refine Json.decodes_list fun c hc => ih.condition origin ?_
  have hc' := Json.depth_le_depthItems (List.mem_map_of_mem (f := Condition.toJson) hc)
  rw [Json.depth] at hdepth
  omega

theorem queries (ih : DecodesWithin fuel) {qs : List Query}
    (hdepth : (Json.arr (queriesToJson qs)).depth ≤ fuel) :
    Decodes (Json.list? (Query.readWithin? fuel origin)) (.arr (queriesToJson qs)) qs := by
  rw [queriesToJson_eq_map] at hdepth ⊢
  refine Json.decodes_list fun q hq => ih.query origin ?_
  have hq' := Json.depth_le_depthItems (List.mem_map_of_mem (f := Query.toJson) hq)
  rw [Json.depth] at hdepth
  omega

theorem query_succ (ih : DecodesWithin fuel) {q : Query} (hdepth : q.toJson.depth ≤ fuel + 1) :
    Decodes (Query.readWithin? (fuel + 1) origin) q.toJson q := by
  obtain ⟨target, columns, conditions, groups, orders, limit, offset, aggregate, edges, fetch,
    split, options, joins, unions, havings, lock, distinct⟩ := q
  rw [Query.toJson] at hdepth ⊢
  rw [Json.depth, Nat.add_le_add_iff_right] at hdepth
  -- Only the conditions and the unions are read with what fuel is left.
  have hcolumns := decodes_selected columns
  have hconditions : Decodes (Json.list? (Condition.readWithin? fuel origin))
      (.arr (conditionsToJson conditions)) conditions :=
    ih.conditions (Json.depth_le_of_mem (k := "wheres") (by simp) hdepth)
  have hgroups := decodes_columns groups
  have horders : Decodes (Json.list? (OrderTerm.read? origin)) _ _ := decodes_orders orders
  have haggregate := decodes_aggregate aggregate
  have hoptions : Decodes (Options.read? origin) _ _ := options.decodes
  have hunions : Decodes (Json.list? (Query.readWithin? fuel origin))
      (.arr (queriesToJson unions)) unions :=
    ih.queries (Json.depth_le_of_mem (k := "unions") (by simp) hdepth)
  have hlock : Decodes (Json.nullable? (Json.word? origin LockMode.words)) _ lock :=
    Json.decodes_nullable rfl fun mode _ => mode.decodes
  refine ⟨?_, ?_⟩
  · unfold Query.readWithin?
    rw [Json.fields?_obj Query.fieldNames (by rfl) (by decide)]
    dsimp only [List.map]
    rw [(Json.decodes_str target).withDefault, hcolumns.withDefault, hconditions.withDefault,
      hgroups.withDefault, horders.withDefault, (decodes_bound limit).withDefault,
      (decodes_bound offset).withDefault, haggregate.withDefault, (decodes_names edges).withDefault,
      (decodes_names fetch).withDefault, (decodes_names split).withDefault, hoptions.withDefault,
      (decodes_names joins).withDefault, hunions.withDefault, (decodes_names havings).withDefault,
      hlock.withDefault, (Json.decodes_bool distinct).withDefault]
    rfl
  · refine .obj ?_
    simp only [List.forall_mem_cons]
    exact ⟨.str target, hcolumns.writable, hconditions.writable, hgroups.writable,
      horders.writable, (decodes_bound limit).writable, (decodes_bound offset).writable,
      haggregate.writable, (decodes_names edges).writable, (decodes_names fetch).writable,
      (decodes_names split).writable, hoptions.writable, (decodes_names joins).writable,
      hunions.writable, (decodes_names havings).writable, hlock.writable, .bool distinct,
      List.forall_mem_nil _⟩

theorem condition_succ (ih : DecodesWithin fuel) {c : Condition}
    (hdepth : c.toJson.depth < fuel + 1) :
    Decodes (Condition.readWithin? (fuel + 1) origin) c.toJson c := by
  obtain ⟨connective, predicate⟩ := c
  have hpredicate : Decodes (Predicate.readWithin? fuel .tree) predicate.toJson predicate := by
    refine ih.predicate .tree ?_
    rw [Condition.toJson, Json.depth, Json.depthMembers] at hdepth
    rw [Predicate.toJson, Json.depth]
    omega
  have hconnective : Decodes (Json.word? origin Connective.words) (.str connective.name)
      connective :=
    connective.decodes
  have hwritable : (Condition.mk connective predicate).toJson.Writable :=
    .cons hconnective.writable hpredicate.writable
  have hkey : "boolean" ∉ predicate.toMembers.map Prod.fst := by
    rw [predicate.toMembers_eq_cons]
    simp [predicate.not_mem_body.2]
  refine ⟨?_, hwritable⟩
  rw [Condition.toJson] at hwritable ⊢
  unfold Condition.readWithin?
  dsimp only
  rw [if_pos hwritable.legible, Json.takeKey_cons hkey]
  show (Json.word? origin Connective.words (.str connective.name)).bind _ = _
  rw [hconnective.read_eq]
  show (Predicate.readWithin? fuel .tree predicate.toJson).bind _ = _
  rw [hpredicate.read_eq]
  rfl

/-- The tag is read before the fields. -/
theorem readWithin?_toJson {p : Predicate} (hbody : (Json.obj p.body).Writable) :
    Predicate.readWithin? (fuel + 1) origin p.toJson =
      match p.variant with
      | "nested" =>
        match (Json.obj p.body).fields? ["wheres"] true with
        | some [conditions] =>
          (Json.required (Json.list? (Condition.readWithin? fuel .tree)) conditions).map .group
        | _ => none
      | "exists" =>
        match (Json.obj p.body).fields? ["query", "negated"] true with
        | some [query, negated] => do
          let query ← Json.required (Query.readWithin? fuel .tree) query
          let negated ← Json.withDefault false Json.bool? negated
          some (.nonempty query negated)
        | _ => none
      | _ => Predicate.readFlat? p.variant (.obj p.body) := by
  rw [Predicate.toJson, p.toMembers_eq_cons]
  unfold Predicate.readWithin?
  rw [Json.tagged?_obj p.not_mem_body.1 p.variant_mem_variants hbody]
  rfl

theorem writable_toJson {p : Predicate} (hbody : (Json.obj p.body).Writable) :
    p.toJson.Writable := by
  rw [Predicate.toJson, p.toMembers_eq_cons]
  exact .cons (.str _) hbody

theorem group_succ (ih : DecodesWithin fuel) {cs : List Condition}
    (hdepth : (Predicate.group cs).toJson.depth ≤ fuel + 1) :
    Decodes (Predicate.readWithin? (fuel + 1) origin) (Predicate.group cs).toJson (.group cs) := by
  have hconditions : Decodes (Json.list? (Condition.readWithin? fuel .tree))
      (.arr (conditionsToJson cs)) cs := by
    refine ih.conditions ?_
    rw [Predicate.toJson, Predicate.toMembers, Json.depth, Nat.add_le_add_iff_right] at hdepth
    exact Json.depth_le_of_mem (k := "wheres") (by simp) hdepth
  have hbody : (Json.obj (Predicate.group cs).body).Writable := .cons hconditions.writable .nil
  refine ⟨?_, writable_toJson hbody⟩
  rw [readWithin?_toJson hbody, Predicate.body, Predicate.toMembers, List.tail_cons,
    Json.fields?_obj ["wheres"] (by rfl) (by decide)]
  dsimp only [List.map]
  rw [hconditions.required]
  rfl

theorem nonempty_succ (ih : DecodesWithin fuel) {q : Query} {negated : Bool}
    (hdepth : (Predicate.nonempty q negated).toJson.depth ≤ fuel + 1) :
    Decodes (Predicate.readWithin? (fuel + 1) origin) (Predicate.nonempty q negated).toJson
      (.nonempty q negated) := by
  have hquery : Decodes (Query.readWithin? fuel .tree) q.toJson q := by
    refine ih.query .tree ?_
    rw [Predicate.toJson, Predicate.toMembers, Json.depth, Nat.add_le_add_iff_right] at hdepth
    exact Json.depth_le_of_mem (k := "query") (by simp) hdepth
  have hbody : (Json.obj (Predicate.nonempty q negated).body).Writable :=
    .cons hquery.writable (.cons (.bool _) .nil)
  refine ⟨?_, writable_toJson hbody⟩
  rw [readWithin?_toJson hbody, Predicate.body, Predicate.toMembers, List.tail_cons,
    Json.fields?_obj ["query", "negated"] (by rfl) (by decide)]
  dsimp only [List.map]
  rw [hquery.required, (Json.decodes_bool _).withDefault]
  rfl

theorem predicate_succ (ih : DecodesWithin fuel) {p : Predicate}
    (hdepth : p.toJson.depth ≤ fuel + 1) :
    Decodes (Predicate.readWithin? (fuel + 1) origin) p.toJson p := by
  -- The two kinds of predicates that nest are read before all others.
  by_cases hflat : p.isFlat
  · obtain ⟨hread, hbody⟩ := Predicate.decodes_body hflat
    obtain ⟨hnested, hexists⟩ := Predicate.variant_of_isFlat hflat
    refine ⟨?_, writable_toJson hbody⟩
    rw [readWithin?_toJson hbody]
    split
    · exact absurd ‹_› hnested
    · exact absurd ‹_› hexists
    · exact hread
  · cases p with
    | group cs => exact ih.group_succ hdepth
    | nonempty q negated => exact ih.nonempty_succ hdepth
    | _ => exact absurd rfl hflat

end DecodesWithin

theorem decodesWithin (fuel : Nat) : DecodesWithin fuel := by
  induction fuel with
  | zero =>
    refine ⟨fun origin q hdepth => ?_, fun origin c hdepth => ?_, fun origin p hdepth => ?_⟩
    · cases q
      rw [Query.toJson, Json.depth] at hdepth
      omega
    · omega
    · rw [Predicate.toJson, Json.depth] at hdepth
      omega
  | succ fuel ih =>
    exact ⟨fun _ _ => ih.query_succ, fun _ _ => ih.condition_succ, fun _ _ => ih.predicate_succ⟩

/-! ## Whole texts -/

theorem Query.decodes {origin : Json.Origin} (q : Query) :
    Decodes (Query.read? origin) q.toJson q := by
  obtain ⟨hread, hwritable⟩ := (decodesWithin (q.toJson.depth + 1)).query origin (Nat.le_succ _)
  exact ⟨hread, hwritable⟩

/-- What is nested no deeper than can be read comes back from its text as it was. -/
def Json.RoundTrips {α : Type} (toJson : α → Json) (read : Json → Option α) : Prop :=
  ∀ a, (toJson a).depth ≤ Json.nestingLimit → Json.decode read (toJson a).render = some a

theorem roundTrips_of_decodes {α : Type} {toJson : α → Json} {read : Json → Option α}
    (h : ∀ a, Decodes read (toJson a) a) : Json.RoundTrips toJson read :=
  fun a hdepth => (h a).decode hdepth

/-- Queries, and all that is written beside them, come back from their text as they were; fields
keep their order. Doubles do so because a numeral is read as the nearest double. -/
theorem decode_render (origin : Json.Origin) :
    Json.RoundTrips Query.toJson (Query.read? origin) ∧
      Json.RoundTrips Fields.toJson Fields.read? ∧
      Json.RoundTrips Batch.toJson Batch.read? ∧
      Json.RoundTrips OnConflict.toJson OnConflict.read? ∧
      Json.RoundTrips RecordId.toJson RecordId.read? ∧
      Json.RoundTrips Column.toJson Column.read? ∧
      Json.RoundTrips Operand.toJson Operand.read? ∧
      Json.RoundTrips Value.toJson Value.read? :=
  ⟨roundTrips_of_decodes Query.decodes, roundTrips_of_decodes Fields.decodes,
    roundTrips_of_decodes Batch.decodes, roundTrips_of_decodes OnConflict.decodes,
    roundTrips_of_decodes RecordId.decodes, roundTrips_of_decodes Column.decodes,
    roundTrips_of_decodes Operand.decodes, roundTrips_of_decodes Value.decodes⟩

/-- Shops that nobody visited or called about, with queries in a query. -/
def forgottenShops : Query where
  target := "shops"
  conditions := [
    ⟨.or, .group [⟨.and, .nonempty {
      target := "visits"
      conditions := [⟨.and, .compare (.name "place") "=" (.literal
        (.object [("lat", .float (Double.zero true)), ("tags", .array [.null, .int (-3)])]
          (List.pairwise_pair.2 (by decide))))⟩]
      unions := [{ target := "calls", distinct := true }] } true⟩]⟩]
  orders := [.byColumn (.name "name") none .desc, .random]
  limit := some 3
  aggregate := some ⟨"count", [.raw "*"]⟩
  options := { returning := some .diff, timeout := some { seconds := 90, nanos := 5 } }

/-- Fields whose order is not that of their keys. -/
def openShop : Fields where
  entries := [("open", .literal (.bool true)), ("name", .raw "$name")]

theorem decode_render_forgottenShops :
    forgottenShops.toJson.depth ≤ Json.nestingLimit ∧
      Json.decode (Query.read? .text) forgottenShops.toJson.render = some forgottenShops ∧
      openShop.toJson.depth ≤ Json.nestingLimit ∧
      Json.decode Fields.read? openShop.toJson.render = some openShop := by
  have hquery : forgottenShops.toJson.depth ≤ Json.nestingLimit := by decide +kernel
  have hfields : openShop.toJson.depth ≤ Json.nestingLimit := by decide +kernel
  exact ⟨hquery, (decode_render .text).1 _ hquery, hfields, (decode_render .text).2.1 _ hfields⟩

end SurrealQuery
