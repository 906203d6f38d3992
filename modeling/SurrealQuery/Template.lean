import SurrealQuery.Expression

/-!
Statement text with placeholders, and the bindings that fill them in order.
-/

namespace SurrealQuery

/-- Whose value a binding is: the query's own, or an argument of a call within it. -/
inductive Channel where
  | query
  | function
deriving DecidableEq, Repr

namespace Channel

def name : Channel → String
  | .query => "query"
  | .function => "function"

def words : List (String × Channel) :=
  [("query", .query), ("function", .function)]

end Channel

/-- A value to be bound to a placeholder. -/
structure Binding where
  value : Value
  channel : Channel
deriving Repr

namespace Binding

def toJson (b : Binding) : Json :=
  .obj [("value", b.value.toJson), ("channel", .str b.channel.name)]

def read? (origin : Json.Origin) (j : Json) : Option Binding :=
  match j.fields? ["value", "channel"] true with
  | some [value, channel] => do
    let value ← Json.required Value.read? value
    let channel ← Json.required (Json.word? origin Channel.words) channel
    some { value, channel }
  | _ => none

end Binding

/-- A piece of statement text with its bindings. -/
structure Template where
  text : String
  bindings : List Binding := []
deriving Repr, Inhabited

namespace Template

/-- What stands in the text for a bound value. -/
def placeholder : String := "$?"

/-- A text without bindings. -/
def raw (text : String) : Template :=
  { text }

@[simp] theorem text_raw (text : String) : (raw text).text = text := rfl

@[simp] theorem bindings_raw (text : String) : (raw text).bindings = [] := rfl

/-- A placeholder for one value. -/
def literal (value : Value) : Template :=
  ⟨placeholder, [⟨value, .query⟩]⟩

/-- A text that comes with values of a channel for its placeholders. -/
def bound (channel : Channel) (text : String) (values : List Value) : Template :=
  ⟨text, values.map (⟨·, channel⟩)⟩

/-- One template after the other. -/
def append (s t : Template) : Template :=
  ⟨s.text ++ t.text, s.bindings ++ t.bindings⟩

instance : Append Template := ⟨append⟩

@[simp] theorem text_append (s t : Template) : (s ++ t).text = s.text ++ t.text := rfl

@[simp] theorem bindings_append (s t : Template) : (s ++ t).bindings = s.bindings ++ t.bindings :=
  rfl

theorem append_assoc (s t u : Template) : s ++ t ++ u = s ++ (t ++ u) := by
  show Template.mk _ _ = Template.mk _ _
  rw [text_append, bindings_append, String.append_assoc, List.append_assoc]
  rfl

@[simp] theorem raw_empty_append (t : Template) : raw "" ++ t = t := by
  show Template.mk _ _ = t
  rw [text_raw, bindings_raw, String.empty_append, List.nil_append]

@[simp] theorem append_raw_empty (t : Template) : t ++ raw "" = t := by
  show Template.mk _ _ = t
  rw [text_raw, bindings_raw, String.append_empty, List.append_nil]

/-- Text on both sides of a template. -/
def wrap (before : String) (t : Template) (after : String) : Template :=
  ⟨before ++ t.text ++ after, t.bindings⟩

@[simp] theorem text_wrap (before after : String) (t : Template) :
    (wrap before t after).text = before ++ t.text ++ after := rfl

@[simp] theorem bindings_wrap (before after : String) (t : Template) :
    (wrap before t after).bindings = t.bindings := rfl

theorem wrap_eq (before : String) (t : Template) (after : String) :
    wrap before t after = raw before ++ t ++ raw after := by
  show (⟨_, _⟩ : Template) = ⟨_, [] ++ t.bindings ++ []⟩
  rw [List.nil_append, List.append_nil]
  rfl

/-- Templates that go on a list, each after a separator. -/
def joinTail (separator : String) : List Template → Template
  | [] => raw ""
  | t :: rest => raw separator ++ t ++ joinTail separator rest

/-- Templates with a separator between them. -/
def join (separator : String) : List Template → Template
  | [] => raw ""
  | t :: rest => t ++ joinTail separator rest

/-- The number of placeholders in a text. -/
def countPlaceholders : List Char → Nat
  | '$' :: '?' :: rest => countPlaceholders rest + 1
  | _ :: rest => countPlaceholders rest
  | [] => 0

/-- The number of placeholders, wherever in the text they come from. -/
def placeholders (t : Template) : Nat :=
  countPlaceholders t.text.toList

end Template

/-- The template of an operand: a placeholder for a literal, and a call with its own values. -/
def Operand.template : Operand → Template
  | .literal v => .literal v
  | .raw text => .raw text
  | .call c => .bound .function c.expression c.arguments

end SurrealQuery
