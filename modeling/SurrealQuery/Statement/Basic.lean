import SurrealQuery.Template
import SurrealQuery.Text.Blank

/-!
Statements: a verb and a template.
-/

namespace SurrealQuery

/-- What a statement does. -/
inductive Verb where
  | select
  | insert
  | create
  | update
  | relate
  | delete
deriving DecidableEq, Repr

namespace Verb

def all : List Verb :=
  [.select, .insert, .create, .update, .relate, .delete]

def keyword : Verb → String
  | .select => "SELECT"
  | .insert => "INSERT"
  | .create => "CREATE"
  | .update => "UPDATE"
  | .relate => "RELATE"
  | .delete => "DELETE"

def isWrite (v : Verb) : Bool :=
  v != .select

/-- The verb that a text starts with, in any case. -/
def ofText? (text : String) : Option Verb := do
  let word ← (Text.words text.toList).head?
  all.find? fun v => Text.sameLetters v.keyword.toList word

end Verb

/-- A statement ready to be run with its bindings. -/
structure Statement where
  verb : Verb
  template : Template
deriving Repr

namespace Statement

/-- The values of one channel, in order. -/
def values (s : Statement) (channel : Channel) : List Value :=
  (s.template.bindings.filter (·.channel == channel)).map (·.value)

def toJson (s : Statement) : Json :=
  .obj [
    ("kind", .str s.verb.keyword),
    ("sql", .str s.template.text),
    ("bindings", Json.ofList Binding.toJson s.template.bindings)]

/-- The statement as it is reported to a user: the values by channel. -/
def report (s : Statement) : Json :=
  .obj [
    ("kind", .str s.verb.keyword),
    ("sql", .str s.template.text),
    ("bindings", Json.ofList Value.toJson (s.values .query)),
    ("functions", Json.ofList Value.toJson (s.values .function))]

end Statement

end SurrealQuery
