import SurrealQuery.Json.Reader
import SurrealQuery.Text.Basic

/-!
Spans of time and their literals, such as `1h30m`.
-/

namespace SurrealQuery

/-- A span of time in seconds and a part of a second in nanoseconds. -/
structure Duration where
  seconds : UInt64
  nanos : Nat := 0
  nanos_lt : nanos < 1000000000 := by decide
deriving Repr

namespace Duration

/-- A duration of any number of nanoseconds; whole seconds among them are carried. -/
def of? (seconds nanos : Nat) : Option Duration :=
  if seconds + nanos / 1000000000 < UInt64.size then
    some ⟨UInt64.ofNat (seconds + nanos / 1000000000), nanos % 1000000000,
      Nat.mod_lt _ (by decide)⟩
  else none

def toJson (d : Duration) : Json :=
  .obj [("secs", Json.ofNat d.seconds.toNat), ("nanos", Json.ofNat d.nanos)]

def read? (j : Json) : Option Duration :=
  match j.fields? ["secs", "nanos"] false with
  | some [seconds, nanos] => do
    let seconds ← Json.required Json.uint64? seconds
    let nanos ← Json.required Json.uint64? nanos
    if nanos.toNat < UInt32.size then of? seconds.toNat nanos.toNat else none
  | _ => none

/-- The units of a literal from large to small, each with its length in seconds. -/
def scale : List (Nat × String) :=
  [(365 * 86400, "y"), (7 * 86400, "w"), (86400, "d"), (3600, "h"), (60, "m"), (1, "s")]

/-- A count with its unit; nothing for a count of zero. -/
def term (count : Nat) (unit : String) : String :=
  if count = 0 then "" else Text.decimal count ++ unit

/-- Splits seconds over the units, as many as fit of each before the next. -/
def terms : List (Nat × String) → Nat → String
  | [], _ => ""
  | (size, unit) :: rest, seconds => term (seconds / size) unit ++ terms rest (seconds % size)

/-- The literal of a duration. Microseconds are its finest unit; finer parts are dropped. -/
def render (d : Duration) : String :=
  let text := terms scale d.seconds.toNat ++ term (d.nanos / 1000) "µs"
  if text.isEmpty then "0s" else text

end Duration

end SurrealQuery
