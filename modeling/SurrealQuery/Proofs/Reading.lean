import Mathlib.Data.List.Forall2
import SurrealQuery.Statement.Clause
import SurrealQuery.Proofs.Identifier
import SurrealQuery.Proofs.Json.Numeral

/-!
# Reading templates back

A reader takes something off the front of a text, and the values of its placeholders off the
bindings. `Reads` says that it finds what a template was made for, in front of whatever may come
next, and there is one rule for each way to put readers together.
-/

namespace SurrealQuery

/-- Takes something off the front of a text and its bindings. -/
abbrev Reader := StateT (List Char × List Binding) Option

/-- The reader finds `a` where the template stands in front of a text with the property `P`. -/
def Reads {α : Type} (r : Reader α) (P : List Char → Prop) (a : α) (t : Template) : Prop :=
  ∀ cs bs, P cs → r.run (t.text.toList ++ cs, t.bindings ++ bs) = some (a, (cs, bs))

theorem Template.raw_append (a b : String) : Template.raw (a ++ b) = .raw a ++ .raw b :=
  rfl

/-- The first character of a template. -/
def Template.first? (t : Template) : Option Char :=
  t.text.toList.head?

theorem Template.first?_append {s : Template} {c : Char} (h : s.first? = some c) (t : Template) :
    (s ++ t).first? = some c := by
  unfold Template.first? at *
  rw [Template.text_append, String.toList_append, List.head?_append, h]
  rfl

theorem Template.head?_of_first? {t : Template} {c : Char} (h : t.first? = some c)
    (cs : List Char) : (t.text.toList ++ cs).head? = some c := by
  unfold Template.first? at h
  rw [List.head?_append, h]
  rfl

variable {α β : Type} {P Q : List Char → Prop} {s t : Template}

namespace Reads

theorem mono {r : Reader α} {a : α} (h : Reads r P a t) (hQ : ∀ cs, Q cs → P cs) : Reads r Q a t :=
  fun cs bs hcs => h cs bs (hQ cs hcs)

theorem pure (a : α) : Reads (pure a) P a (.raw "") :=
  fun _ _ _ => rfl

theorem bind {r : Reader α} {f : α → Reader β} {a : α} {b : β} (h : Reads r P a s)
    (hf : Reads (f a) Q b t) (hP : ∀ cs, Q cs → P (t.text.toList ++ cs)) :
    Reads (r >>= f) Q b (s ++ t) := by
  intro cs bs hcs
  rw [Template.text_append, Template.bindings_append, String.toList_append, List.append_assoc,
    List.append_assoc, StateT.run_bind, h _ _ (hP cs hcs)]
  exact hf cs bs hcs

/-- Nothing more is taken. -/
theorem bind_nothing {r : Reader α} {f : α → Reader β} {a : α} {b : β} (h : Reads r P a t)
    (hf : ∀ input, (f a).run input = some (b, input)) : Reads (r >>= f) P b t := by
  intro cs bs hcs
  rw [StateT.run_bind, h cs bs hcs]
  exact hf _

theorem map {r : Reader α} {a : α} (h : Reads r P a t) (f : α → β) :
    Reads (r >>= fun a => Pure.pure (f a)) P (f a) t :=
  h.bind_nothing fun _ => rfl

/-- Two templates that are read alike are the same only if they are made for the same. -/
theorem inj {r : Reader α} {a b : α} (ha : Reads r P a t) (hb : Reads r P b t) (h : P []) :
    a = b := by
  have := (ha [] [] h).symm.trans (hb [] [] h)
  cases this
  rfl

end Reads

namespace Reader

/-- A fixed text. -/
def text (s : String) : Reader Unit := fun (cs, bs) =>
  if s.toList <+: cs then some ((), (cs.drop s.toList.length, bs)) else none

/-- A placeholder, and the value for it. -/
def value : Reader Value := fun (cs, bs) =>
  match cs, bs with
  | '$' :: '?' :: cs, b :: bs => some (b.value, (cs, bs))
  | _, _ => none

/-- All that stands before the next `mark`. -/
def word (mark : Char) : Reader String := fun (cs, bs) =>
  some (String.ofList (cs.takeWhile (· != mark)), (cs.dropWhile (· != mark), bs))

/-- Looks at the next character and goes on as it says. -/
def dispatch (r : Option Char → Reader α) : Reader α := fun (cs, bs) => r cs.head? (cs, bs)

/-- The rest of a quoted name after the opening backtick. -/
def quoted : Reader String := fun (cs, bs) =>
  (Identifier.unquote cs).map fun (name, cs) => (String.ofList name, (cs, bs))

/-- The name of a column, which is quoted unless it is `*`. -/
def column : Reader Column := dispatch fun
  | some '*' => do
    text "*"
    return .name "*"
  | _ => do
    text "`"
    let name ← quoted
    return .name name

def integer : Reader Int64 := fun (cs, bs) => do
  let (numeral, cs) ← Json.Numeral.scan cs
  match numeral.number? with
  | some (.int n) => some (Int64.ofInt n, (cs, bs))
  | _ => none

/-- Items up to a place where there is none, at most `n` of them. -/
def many (item : Reader (Option α)) : Nat → Reader (List α)
  | 0 => return []
  | n + 1 => do
    match ← item with
    | none => return []
    | some a => do
      let as ← many item n
      return a :: as

/-- An item after a comma, if there is a comma. -/
def nextItem (item : Reader α) : Reader (Option α) := dispatch fun
  | some ',' => do
    text ", "
    let a ← item
    return some a
  | _ => return none

/-- Items with commas between them, at least one. -/
def commaList (item : Reader α) (n : Nat) : Reader (List α) := do
  let first ← item
  let rest ← many (nextItem item) n
  return first :: rest

end Reader

/-- Any text. -/
def Anything (_ : List Char) : Prop := True

/-- A text at whose front a quoted name is at its end. -/
def AfterName (cs : List Char) : Prop := cs.head? ≠ some '`'

theorem afterName_of_first? {t : Template} {c : Char} (h : t.first? = some c) (hc : c ≠ '`')
    (cs : List Char) : AfterName (t.text.toList ++ cs) := by
  intro hcs
  rw [Template.head?_of_first? h] at hcs
  exact hc (Option.some.inj hcs)

namespace Reads

theorem text (s : String) : Reads (Reader.text s) Anything () (.raw s) := by
  intro cs bs _
  show (if _ then _ else _) = _
  rw [Template.text_raw, if_pos (List.prefix_append ..), List.drop_left]
  rfl

theorem value (v : Value) : Reads Reader.value Anything v (.literal v) := by
  intro cs bs _
  have hmark : Template.placeholder.toList = ['$', '?'] := by decide
  rw [Template.literal, hmark]
  rfl

theorem word {mark : Char} {s : String} (h : mark ∉ s.toList) :
    Reads (Reader.word mark) (fun cs => cs.head? = some mark) s (.raw s) := by
  rintro cs bs hcs
  cases cs with
  | nil => cases hcs
  | cons c cs =>
    cases hcs
    have hs : ∀ c ∈ s.toList, (c != mark) = true := by
      intro c hc
      rw [bne_iff_ne]
      rintro rfl
      exact h hc
    show some (String.ofList (List.takeWhile _ _), (List.dropWhile _ _, _)) = _
    rw [Template.text_raw, List.takeWhile_append_of_pos hs, List.dropWhile_append_of_pos hs]
    simp

theorem dispatch {r : Option Char → Reader α} {a : α} {c : Char} (hc : t.first? = some c)
    (h : Reads (r (some c)) P a t) : Reads (Reader.dispatch r) P a t := by
  intro cs bs hcs
  show r (t.text.toList ++ cs).head? _ = _
  rw [Template.head?_of_first? hc]
  exact h cs bs hcs

theorem quoted (name : String) : Reads Reader.quoted AfterName name
    (.raw (String.ofList (Identifier.escape name.toList ++ ['`']))) := by
  intro cs bs hcs
  have hname := Identifier.unquote_escape name.toList hcs
  rw [Template.text_raw, String.toList_ofList, List.append_assoc, List.singleton_append]
  simp only [StateT.run, Reader.quoted, hname, Option.map_some, String.ofList_toList]
  rfl

/-- A name that is quoted as a whole. -/
theorem column (name : String) :
    Reads Reader.column AfterName (.name name) (.raw (Identifier.quote name)) := by
  unfold Identifier.quote
  split
  · rename_i hstar
    subst hstar
    refine dispatch (c := '*') (by decide) ?_
    exact ((text "*").map _).mono fun _ _ => trivial
  · refine dispatch (c := '`') (by simp [Template.first?]) ?_
    have hsplit (cs : List Char) : String.ofList ('`' :: cs) = "`" ++ String.ofList cs :=
      String.toList_inj.1 (by simp)
    rw [hsplit, Template.raw_append]
    exact (text "`").bind ((quoted name).map _) fun _ _ => trivial

theorem integer (n : Int64) : Reads Reader.integer Json.Numeral.Ends n
    (.raw (String.ofList (Json.intChars n.toInt))) := by
  intro cs bs hcs
  have hlow := n.le_toInt
  have hhigh := n.toInt_lt
  show (do
    let (numeral, cs) ← Json.Numeral.scan _
    match numeral.number? with
    | some (.int n) => some (Int64.ofInt n, (cs, bs))
    | _ => none) = _
  rw [Template.text_raw, String.toList_ofList, Json.Numeral.scan_intChars _ hcs]
  simp only [Option.bind_eq_bind, Option.bind_some]
  rw [Json.Numeral.number?_ofInt (by omega) (by omega)]
  simp

/-- What follows an item is another one, or the end. -/
theorem start_foldr {ts : List Template} (hstart : ∀ t ∈ ts, ∀ cs, P (t.text.toList ++ cs))
    (hQ : ∀ cs, Q cs → P cs) (cs : List Char) (hcs : Q cs) :
    P ((ts.foldr (· ++ ·) (Template.raw "")).text.toList ++ cs) := by
  cases ts with
  | nil => exact hQ cs hcs
  | cons t ts =>
    rw [List.foldr_cons, Template.text_append, String.toList_append, List.append_assoc]
    exact hstart t (List.mem_cons_self ..) _

/-- Items that can be told from what comes after the last of them. -/
theorem many {item : Reader (Option α)} {as : List α} {ts : List Template}
    (h : List.Forall₂ (fun a t => Reads item P (some a) t) as ts)
    (hstart : ∀ t ∈ ts, ∀ cs, P (t.text.toList ++ cs)) (hend : Reads item Q none (.raw ""))
    (hQ : ∀ cs, Q cs → P cs) {n : Nat} (hn : as.length ≤ n) :
    Reads (Reader.many item n) Q as (ts.foldr (· ++ ·) (.raw "")) := by
  induction h generalizing n with
  | nil =>
    cases n with
    | zero => exact pure []
    | succ n => exact hend.bind_nothing fun _ => rfl
  | @cons a t as ts head rest ih =>
    cases n with
    | zero => cases hn
    | succ n =>
      rw [List.forall_mem_cons] at hstart
      have hrest := ih hstart.2 (Nat.le_of_succ_le_succ hn)
      exact head.bind (hrest.map (a :: ·)) (start_foldr hstart.2 hQ)

end Reads

theorem Template.joinTail_eq_foldr (g : String) (ts : List Template) :
    Template.joinTail g ts = (ts.map (.raw g ++ ·)).foldr (· ++ ·) (.raw "") := by
  induction ts with
  | nil => rfl
  | cons t rest ih => rw [Template.joinTail, ih, List.map_cons, List.foldr_cons]

namespace Reads

theorem nextItem {item : Reader α} {a : α} (h : Reads item P a t) :
    Reads (Reader.nextItem item) P (some a) (.raw ", " ++ t) := by
  refine dispatch (c := ',') (Template.first?_append (by decide) _) ?_
  exact (text ", ").bind (h.map some) fun _ _ => trivial

/-- Items in brackets, if an item ends at a comma and at a bracket. -/
theorem commaList {item : Reader α} {as : List α} {ts : List Template}
    (h : List.Forall₂ (fun a t => Reads item P a t) as ts) (hne : as ≠ [])
    (hcomma : ∀ cs, P (',' :: cs)) (hclose : ∀ cs, P (']' :: cs)) {n : Nat} (hn : as.length ≤ n) :
    Reads (Reader.commaList item n) (fun cs => cs.head? = some ']') as (.join ", " ts) := by
  have hQ : ∀ cs : List Char, cs.head? = some ']' → P cs := by
    intro cs hcs
    obtain ⟨cs, rfl⟩ := List.head?_eq_some_iff.1 hcs
    exact hclose cs
  have hend : Reads (Reader.nextItem item) (fun cs => cs.head? = some ']') none (.raw "") := by
    intro cs bs hcs
    obtain ⟨cs, rfl⟩ := List.head?_eq_some_iff.1 hcs
    rfl
  cases h with
  | nil => exact absurd rfl hne
  | @cons a t as ts head rest =>
    have hitems : List.Forall₂ (fun a t => Reads (Reader.nextItem item) P (some a) t) as
        (ts.map (Template.raw ", " ++ ·)) :=
      List.forall₂_map_right_iff.2 (rest.imp fun _ _ h => nextItem h)
    have hcommas : ∀ t ∈ ts.map (Template.raw ", " ++ ·), ∀ cs, P (t.text.toList ++ cs) := by
      rw [List.forall_mem_map]
      intro t _ cs
      rw [Template.text_append, String.toList_append, List.append_assoc]
      exact hcomma _
    have hrest := many hitems hcommas hend hQ (Nat.le_of_succ_le hn)
    rw [Template.join, Template.joinTail_eq_foldr]
    exact head.bind (hrest.map (a :: ·)) (start_foldr hcommas hQ)

end Reads

end SurrealQuery
