import DocStore.Compile
import DocStore.Config
import DocStore.Json.Printer
import DocStore.Predicate.Sequence

/-!
The command line: compile predicates from the standard input, or check a configuration
file.

Answers are one line of JSON on the standard output, of status `ok` or `error`; an error
is told on the error output too, and the program ends with code 1.  Arguments that do not
fit end it with code 2.
-/

namespace DocStore.CommandLine

/-! ## Arguments -/

inductive Command where
  | compile (collection : String)
  | pipeline (collection : String)
  | checkConfig (path : String)

/-- What the arguments ask for. -/
inductive Request where
  | run (c : Command)
  | help
  | version
  | misuse

/-- The one option of a command: its name, its default, whether it may be empty. -/
structure Setting where
  name : String
  default : String
  emptyAllowed : Bool

/-- A command by its setting and what its value makes. -/
def commandNamed? : String → Option (Setting × (String → Command))
  | "compile" => some (⟨"--collection", "items", true⟩, .compile)
  | "pipeline" => some (⟨"--collection", "items", true⟩, .pipeline)
  | "check-config" => some (⟨"--config", "./docquery.json", false⟩, .checkConfig)
  | _ => none

def startsWith (start s : String) : Bool :=
  start.toList.isPrefixOf s.toList

/-- An argument that asks for help: the long flag, or a cluster of short ones that begins
with it. -/
def asksHelp (arg : String) : Bool :=
  arg == "--help" || startsWith "-h" arg

/-- Options begin with a hyphen; a hyphen alone is a value. -/
def isOption (arg : String) : Bool :=
  startsWith "-" arg && arg != "-"

/-- The arguments behind a command; `given` is the value of its setting so far. -/
def readSetting (s : Setting) (make : String → Command) (given : Option String) :
    List String → Request
  | [] => .run (make (given.getD s.default))
  | arg :: rest =>
    if arg = "--" then
      if rest.isEmpty then .run (make (given.getD s.default)) else .misuse
    else if asksHelp arg then .help
    else if arg = s.name then
      match rest with
      | value :: rest =>
        if isOption value ∨ given.isSome ∨ (value.isEmpty ∧ ¬ s.emptyAllowed) then .misuse
        else readSetting s make (some value) rest
      | [] => .misuse
    else if startsWith (s.name ++ "=") arg then
      let value := String.ofList (arg.toList.drop (s.name.length + 1))
      if given.isSome ∨ (value.isEmpty ∧ ¬ s.emptyAllowed) then .misuse
      else readSetting s make (some value) rest
    else .misuse

/-- What a list of arguments asks for. -/
def readArguments : List String → Request
  | [] => .misuse
  | arg :: rest =>
    if asksHelp arg then .help
    else if arg = "--version" ∨ startsWith "-V" arg then .version
    else if arg = "help" then
      match rest with
      | [] => .help
      | [name] => if name = "help" ∨ (commandNamed? name).isSome then .help else .misuse
      | _ => .misuse
    else
      match commandNamed? arg with
      | some (s, make) => readSetting s make none rest
      | none => .misuse

/-! ## Errors -/

inductive Error where
  | config (message : String)
  | io (message : String)
  | store (cause : StoreError)

namespace Error

/-- An error of the store; one of the configuration is shown without its introduction. -/
def ofStore : StoreError → Error
  | .config reason => config reason
  | e => store e

def code : Error → String
  | config _ => "DOCQ_CLI_CONFIG_ERROR"
  | io _ => "DOCQ_CLI_IO_ERROR"
  | store e => e.code

def message : Error → String
  | config m => m
  | io m => m
  | store e => e.message

/-- Code and message on one line. -/
def text (e : Error) : String :=
  e.code ++ ": " ++ e.message

end Error

def liftStore {α : Type} (r : Except StoreError α) : Except Error α :=
  match r with
  | .ok a => .ok a
  | .error e => .error (.ofStore e)

/-! ## Commands -/

/-- The JSON value on the standard input. -/
def readInput (bytes : ByteArray) : Except Error Json :=
  match textOfBytes bytes with
  | .error e => .error (.io e.message)
  | .ok text =>
    if (Unicode.trimBlanks text).isEmpty then .error (.io "Empty input")
    else
      match Json.ofText? text Json.levelLimit with
      | some v => .ok v
      | none => .error (.io "JSON error: not a JSON value")

def cursorOf (collection : String) (input : Json) : Except Error Cursor :=
  match Predicate.sequence input with
  | .error e => .error (.ofStore e)
  | .ok ps => liftStore (DocStore.compile collection ps)

def compile (collection : String) (input : Json) : Except Error Json :=
  (cursorOf collection input).map (·.toJson)

def pipeline (collection : String) (input : Json) : Except Error Json :=
  (cursorOf collection input).map fun c =>
    .obj [("collection", .str collection), ("pipeline", .arr c.pipeline)]

/-- Load a configuration and log as it says. -/
def checkConfig (content : Except FileFault ByteArray) (console : Console) :
    Except Error Json × Console :=
  match Config.load content console with
  | (.error e, console) => (.error (.ofStore e), console)
  | (.ok c, console) =>
    match c.applyLogging console with
    | (.error e, console) => (.error (.ofStore e), console)
    | (.ok (), console) =>
      (.ok (.obj [("valid", .bool true), ("url", .str c.url), ("database", .str c.database),
        ("log_level", .str c.logLevel)]), console)

/-- What a program can read: the standard input, and files by their path. -/
structure Sources where
  input : ByteArray
  file : String → Except FileFault ByteArray

def answer (sources : Sources) (console : Console) : Command → Except Error Json × Console
  | .compile collection => ((readInput sources.input).bind (compile collection), console)
  | .pipeline collection => ((readInput sources.input).bind (pipeline collection), console)
  | .checkConfig path => checkConfig (sources.file path) console

/-! ## Runs -/

def okLine (data : Json) : String :=
  (Json.obj [("status", .str "ok"), ("data", data)]).render ++ "\n"

def errorLine (e : Error) : String :=
  (Json.obj [("status", .str "error"), ("code", .str e.code), ("message", .str e.message)]).render
    ++ "\n"

/-- Run a command and write its answer. -/
def run (sources : Sources) (console : Console) (c : Command) : Except Error Unit × Console :=
  match answer sources console c with
  | (.ok data, console) => (.ok (), { console with out := console.out ++ okLine data })
  | (.error e, console) => (.error e, { console with out := console.out ++ errorLine e })

def versionText : String := "docquery 0.1.0\n"

def usageText : String :=
  "Usage: docquery <COMMAND>\n\nCommands:\n"
    ++ "  compile --collection <NAME>   compile predicates from stdin into a cursor\n"
    ++ "  pipeline --collection <NAME>  compile predicates from stdin into a pipeline\n"
    ++ "  check-config --config <PATH>  load and validate a configuration file\n"
    ++ "  help                          print this message\n"

/-- What a run leaves behind. -/
structure Outcome where
  exit : UInt8
  out : String
  err : String

/-- The whole program. -/
def outcomeOf (sources : Sources) (args : List String) : Outcome :=
  match readArguments args with
  | .misuse => ⟨2, "", usageText⟩
  | .help => ⟨0, usageText, ""⟩
  | .version => ⟨0, versionText, ""⟩
  | .run c =>
    match run sources {} c with
    | (.ok (), console) => ⟨0, console.out, console.err⟩
    | (.error e, console) => ⟨1, console.out, console.err ++ e.text ++ "\n"⟩

end DocStore.CommandLine
