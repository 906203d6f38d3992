import SurrealQuery.CommandLine

/-!
The program.
-/

open SurrealQuery.CommandLine

/-- The system that the program runs on. -/
def systemHost (tablePrefix : Option String) : Host IO where
  file name := do
    try
      return some (← IO.FS.readFile name)
    catch _ => return none
  input := do
    try
      return some (← (← IO.getStdin).readToEnd)
    catch _ => return none
  tablePrefix := tablePrefix

def main (args : List String) : IO UInt32 := do
  let outcome ← run (systemHost (← IO.getEnv "SURQL_TABLE_PREFIX")) args
  match outcome with
  | .printed text => IO.print text
  | .failed failure => IO.eprintln failure.report
  | .misused => IO.eprint helpText
  return UInt32.ofNat outcome.exitCode
