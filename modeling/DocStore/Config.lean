import DocStore.Error
import DocStore.Json.Grammar
import DocStore.Log
import DocStore.Unicode.Character

/-!
Configuration of a store: where it connects, its database, and how much it logs.

A configuration is read from a JSON text, an object or an array of its fields in order,
with defaults for what is left out (`Config.ofText?`).  `Config.load` also validates it
and reports that it was loaded.
-/

namespace DocStore

structure Config where
  url : String := "memory://default"
  database : String := "app"
  logLevel : String := "warn"
  deriving DecidableEq

/-! ## Files -/

/-- Why a file could not be read as text. -/
inductive FileFault where
  | missing
  | directory
  | notUtf8
  | other (reason : String)

def FileFault.message : FileFault → String
  | missing => "No such file or directory (os error 2)"
  | directory => "Is a directory (os error 21)"
  | notUtf8 => "stream did not contain valid UTF-8"
  | other reason => reason

/-- Bytes as text, if they are one. -/
def textOfBytes (bytes : ByteArray) : Except FileFault String :=
  match String.fromUTF8? bytes with
  | some s => .ok s
  | none => .error .notUtf8

namespace Config

/-! ## Validation -/

def severity (c : Config) : Except StoreError Severity :=
  match Severity.ofText c.logLevel with
  | .ok v => .ok v
  | .error reason => .error (.config reason)

/-- The severity that a valid configuration logs from. -/
def validate (c : Config) : Except StoreError Severity :=
  if (Unicode.trimBlanks c.url).isEmpty then .error (.config "url must not be empty")
  else if (Unicode.trimBlanks c.database).isEmpty then
    .error (.config "database must not be empty")
  else c.severity

/-! ## Reading -/

/-- The fields that a text has set. -/
structure Given where
  url : Option String := none
  database : Option String := none
  logLevel : Option String := none

def Given.config (g : Given) : Config :=
  let base : Config := {}
  { url := g.url.getD base.url
    database := g.database.getD base.database
    logLevel := g.logLevel.getD base.logLevel }

def textOfTree? : Json.Tree → Option String
  | .string s => s.string?
  | _ => none

/-- Set a field that is not set. -/
def setOnce? (old : Option String) (x : Json.Tree) : Option (Option String) :=
  match old with
  | some _ => none
  | none => (textOfTree? x).map some

/-- The entries of an object: known fields once and as texts, others whatever they are. -/
def givenByEntries? (g : Given) : List (Json.RawText × Json.Tree) → Option Given
  | [] => some g
  | (key, x) :: rest => do
    let g ← match (← key.string?) with
      | "url" => (setOnce? g.url x).map fun v => { g with url := v }
      | "database" => (setOnce? g.database x).map fun v => { g with database := v }
      | "log_level" => (setOnce? g.logLevel x).map fun v => { g with logLevel := v }
      | _ => some g
    givenByEntries? g rest

def givenByItems? : List Json.Tree → Option Given
  | [] => some {}
  | [u] => (textOfTree? u).map fun u => { url := some u }
  | [u, d] => do return { url := some (← textOfTree? u), database := some (← textOfTree? d) }
  | [u, d, l] => do
    return { url := some (← textOfTree? u), database := some (← textOfTree? d),
             logLevel := some (← textOfTree? l) }
  | _ => none

def ofTree? : Json.Tree → Option Config
  | .object fields => (givenByEntries? {} fields).map Given.config
  | .array items => (givenByItems? items).map Given.config
  | _ => none

/-- The configuration that a text holds. -/
def ofText? (text : String) : Option Config :=
  (Json.Tree.ofText? text).bind ofTree?

/-- The valid configuration in the bytes of a file. -/
def ofBytes (content : Except FileFault ByteArray) : Except StoreError Config := do
  let text ← match content.bind textOfBytes with
    | .ok text => .ok text
    | .error e => .error (StoreError.config ("Failed to read config: " ++ e.message))
  let c ← match ofText? text with
    | some c => .ok c
    | none => .error (StoreError.config "Invalid config JSON: not a configuration")
  let _ ← c.validate
  return c

/-- Load a configuration and report it. -/
def load (content : Except FileFault ByteArray) (console : Console) :
    Except StoreError Config × Console :=
  match ofBytes content with
  | .error e => (.error e, console)
  | .ok c => (.ok c, console.report .configLoaded [("database", c.database), ("url", c.url)])

/-- Log from the configured severity on. -/
def applyLogging (c : Config) (console : Console) : Except StoreError Unit × Console :=
  match c.severity with
  | .error e => (.error e, console)
  | .ok v => (.ok (), { console with threshold := v })

end Config

end DocStore
