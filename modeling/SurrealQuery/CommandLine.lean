import SurrealQuery.Request

/-!
The command line: what its arguments ask for, and what comes of it.
-/

namespace SurrealQuery.CommandLine

/-- What the arguments ask for. -/
inductive Invocation where
  | help
  | version
  | operators
  | compile (config request tablePrefix : Option String)
deriving DecidableEq, Repr

/-- The options before the command. -/
structure Flags where
  config : Option String := none
  tablePrefix : Option String := none
  verbose : Bool := false
deriving DecidableEq, Repr

/-- An option that takes a value. -/
inductive ValueOption where
  | config
  | tablePrefix
deriving DecidableEq, Repr

namespace Flags

/-- Gives an option its value, once. The name of a file is not empty. -/
def set? (f : Flags) (option : ValueOption) (value : String) : Option Flags :=
  match option with
  | .config =>
    if f.config.isSome ∨ value = "" then none else some { f with config := some value }
  | .tablePrefix =>
    if f.tablePrefix.isSome then none else some { f with tablePrefix := some value }

def setVerbose? (f : Flags) : Option Flags :=
  if f.verbose then none else some { f with verbose := true }

end Flags

/-- Whether an argument is an option, or the mark after which there are none. A dash alone is
neither. -/
def isOption (arg : String) : Bool :=
  match arg.toList with
  | '-' :: _ :: _ => true
  | _ => false

/-- An option with a value in the same argument, after an equals sign. -/
def splitValue (arg : String) : String × Option String :=
  match arg.toList.span (· != '=') with
  | (name, _ :: value) => (String.ofList name, some (String.ofList value))
  | (_, []) => (arg, none)

/-- What comes of an option. -/
inductive Step where
  | read (flags : Flags)
  | stop (invocation : Invocation)
  /-- The value has to come with the next argument. -/
  | wants (flags : Flags) (option : ValueOption)
  | refused
deriving DecidableEq, Repr

def Step.ofFlags? : Option Flags → Step
  | some flags => .read flags
  | none => .refused

/-- Reads a group of one-letter options. A value may follow its letter directly. -/
def readLetters (flags : Flags) : List Char → Step
  | [] => .read flags
  | 'v' :: rest =>
    match flags.setVerbose? with
    | some flags => readLetters flags rest
    | none => .refused
  | 'V' :: _ => .stop .version
  | 'h' :: _ => .stop .help
  | ['c'] => .wants flags .config
  | 'c' :: '=' :: value => .ofFlags? (flags.set? .config (String.ofList value))
  | 'c' :: value => .ofFlags? (flags.set? .config (String.ofList value))
  | _ :: _ => .refused

/-- Reads an option. -/
def readOption (flags : Flags) (arg : String) : Step :=
  match splitValue arg with
  | ("--verbose", none) => .ofFlags? flags.setVerbose?
  | ("--version", none) => .stop .version
  | ("--help", none) => .stop .help
  | ("--config", none) => .wants flags .config
  | ("--config", some value) => .ofFlags? (flags.set? .config value)
  | ("--table-prefix", none) => .wants flags .tablePrefix
  | ("--table-prefix", some value) => .ofFlags? (flags.set? .tablePrefix value)
  | _ =>
    match arg.toList with
    | '-' :: '-' :: _ => .refused
    | _ :: letters => readLetters flags letters
    | [] => .refused

/-- What the arguments after a command come to. -/
inductive Operands where
  | help
  | given (operands : List String)
  | refused
deriving DecidableEq, Repr

/-- Reads the arguments after a command up to the first that is wrong or asks for help: at most
`limit` operands, none of them empty, and no options after the mark `--`. -/
def readOperands : (limit : Nat) → List String → Operands
  | _, [] => .given []
  | limit, "--" :: rest =>
    if rest.length ≤ limit ∧ "" ∉ rest then .given rest else .refused
  | limit, arg :: rest =>
    if arg = "--help" ∨ "-h".toList <+: arg.toList then .help
    else if isOption arg ∨ arg = "" ∨ limit = 0 then .refused
    else match readOperands (limit - 1) rest with
      | .given operands => .given (arg :: operands)
      | other => other

/-- The commands, which help can be asked for as well. -/
def commands : List String :=
  ["compile", "operators", "help"]

/-- The command and its operands. -/
def readCommand (flags : Flags) : String → List String → Option Invocation
  | "compile", rest =>
    match readOperands 1 rest with
    | .help => some .help
    | .given operands => some (.compile flags.config operands.head? flags.tablePrefix)
    | .refused => none
  | "operators", rest =>
    match readOperands 0 rest with
    | .help => some .help
    | .given _ => some .operators
    | .refused => none
  | "help", [] => some .help
  | "help", [command] => if command ∈ commands then some .help else none
  | _, _ => none

/-- Reads the arguments; `none` if they ask for nothing that there is. -/
def read? (flags : Flags) : List String → Option Invocation
  | [] => none
  | [arg] =>
    if isOption arg then
      match readOption flags arg with
      | .stop invocation => some invocation
      | _ => none
    else readCommand flags arg []
  | arg :: next :: rest =>
    if isOption arg then
      match readOption flags arg with
      | .read flags => read? flags (next :: rest)
      | .stop invocation => some invocation
      | .wants flags option =>
        if isOption next then none
        else match flags.set? option next with
          | some flags => read? flags rest
          | none => none
      | .refused => none
    else readCommand flags arg (next :: rest)

/-- Why a command that was asked for fails. -/
inductive Failure where
  | configFile (file : String)
  | configText (file : String)
  | requestFile (file : String)
  | requestInput
  | requestText
  | compilation (error : CompileError)
deriving DecidableEq, Repr

namespace Failure

/-- The cause, in words. -/
def cause : Failure → String
  | .configFile file => "Failed to read config file " ++ file
  | .configText file => "Invalid config file " ++ file
  | .requestFile file => "Failed to read request file " ++ file
  | .requestInput => "Failed to read request from stdin"
  | .requestText => "Invalid compile request"
  | .compilation error => error.message

/-- The line that reports the failure. -/
def report : Failure → String
  | .compilation error => "ERROR Compilation failed err=" ++ error.message
  | failure => "Error: " ++ failure.cause

end Failure

/-- What a command can ask of the system that it runs on: the text of a file or of the standard
input, unless it cannot be read, and the table prefix from the environment. -/
structure Host (m : Type → Type) where
  file : String → m (Option String)
  input : m (Option String)
  tablePrefix : Option String := none

variable {m : Type → Type} [Monad m]

/-- The settings of a file, if one is given; a given table prefix replaces that of the file. -/
def loadSettings (host : Host m) (config tablePrefix : Option String) :
    ExceptT Failure m Settings := do
  let settings ← match config with
    | none => pure {}
    | some file =>
      match ← host.file file with
      | none => throw (.configFile file)
      | some text =>
        match Json.decode Settings.read? text with
        | none => throw (.configText file)
        | some settings => pure settings
  return { tablePrefix := tablePrefix.getD settings.tablePrefix }

/-- The text of a request, from a file or from the standard input. -/
def requestText (host : Host m) : Option String → ExceptT Failure m String
  | some file => do
    match ← host.file file with
    | some text => return text
    | none => throw (.requestFile file)
  | none => do
    match ← host.input with
    | some text => return text
    | none => throw .requestInput

/-- Compiles the text of a request. -/
def compileText (settings : Settings) (text : String) : Except Failure Statement :=
  match Json.decode Request.read? text with
  | none => .error .requestText
  | some request =>
    match request.compile settings with
    | .error error => .error (.compilation error)
    | .ok statement => .ok statement

/-- The operator words, one a line, each padded to a column. -/
def operatorTable : String :=
  String.join (Operator.aliases.map fun (word, operator) =>
    word ++ String.ofList (List.replicate (14 - word.length) ' ') ++ " " ++ operator ++ "\n")

/-- The name that the program gives itself. -/
def programName : String := "oxide-surql"

def versionText : String :=
  programName ++ " 0.1.0\n"

def helpText : String :=
  "Relational query descriptions to SurrealQL

Usage: " ++ programName ++ " [OPTIONS] <COMMAND>

Commands:
  compile    Compile a JSON request and print the statement and its bindings
  operators  List the operator aliases and what they compile to
  help       Print this message

Options:
  -c, --config <CONFIG>              JSON configuration file
      --table-prefix <TABLE_PREFIX>  Prefix prepended to every table name
  -v, --verbose                      Enable verbose output
  -h, --help                         Print help
  -V, --version                      Print version
"

/-- What comes of a command: its output, a failure, or a misuse. -/
inductive Outcome where
  | printed (text : String)
  | failed (failure : Failure)
  | misused
deriving DecidableEq, Repr

def Outcome.exitCode : Outcome → Nat
  | .printed _ => 0
  | .failed _ => 1
  | .misused => 2

/-- Runs the compilation of a request. -/
def runCompile (host : Host m) (config request tablePrefix : Option String) :
    ExceptT Failure m String := do
  let settings ← loadSettings host config (tablePrefix <|> host.tablePrefix)
  let text ← requestText host request
  match compileText settings text with
  | .ok statement => return statement.report.renderPretty ++ "\n"
  | .error failure => throw failure

/-- Runs the command that the arguments ask for. -/
def run (host : Host m) (args : List String) : m Outcome := do
  match read? {} args with
  | none => return .misused
  | some .help => return .printed helpText
  | some .version => return .printed versionText
  | some .operators => return .printed operatorTable
  | some (.compile config request tablePrefix) =>
    match ← (runCompile host config request tablePrefix).run with
    | .ok text => return .printed text
    | .error failure => return .failed failure

end SurrealQuery.CommandLine
