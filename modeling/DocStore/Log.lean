import DocStore.Text.Escape
import DocStore.Text.Sorted

/-!
The event log: one line of JSON per event, to the standard output or, for errors, to the
error output.

A line holds the event, its severity and the event's fields in ascending order of their
keys (`Log.line`); lines below the threshold are not written (`Console.log`).
-/

namespace DocStore

inductive Severity where
  | trace | info | warn | error
  deriving DecidableEq

namespace Severity

def rank : Severity → Nat
  | trace => 0
  | info => 1
  | warn => 2
  | error => 3

def name : Severity → String
  | trace => "TRACE"
  | info => "INFO"
  | warn => "WARN"
  | error => "ERROR"

/-- The severity that a text names in any case. -/
def ofText (s : String) : Except String Severity :=
  let lower := s.map Char.toLower
  match [trace, info, warn, error].find? fun v => v.name.map Char.toLower == lower with
  | some v => .ok v
  | none => .error ("unknown log level '" ++ lower ++ "'")

end Severity

/-! ## Events -/

inductive Event where
  | configLoaded
  | connectBegin
  | connectComplete
  | connectFailed
  | indexCreated
  | indexCreateSkipped
  deriving DecidableEq

namespace Event

def all : List Event :=
  [configLoaded, connectBegin, connectComplete, connectFailed, indexCreated,
    indexCreateSkipped]

def name : Event → String
  | configLoaded => "CONFIG_LOADED"
  | connectBegin => "CONNECT_BEGIN"
  | connectComplete => "CONNECT_COMPLETE"
  | connectFailed => "CONNECT_FAILED"
  | indexCreated => "INDEX_CREATED"
  | indexCreateSkipped => "INDEX_CREATE_SKIPPED"

def severity : Event → Severity
  | configLoaded | connectBegin | connectComplete => .info
  | connectFailed => .error
  | indexCreated | indexCreateSkipped => .trace

end Event

/-! ## Lines -/

namespace Log

def isControl (c : Char) : Bool :=
  c.toNat < 0x20 || (0x7f ≤ c.toNat && c.toNat < 0xa0)

/-- In a line no control stands as it is, and so no line break. -/
def escapes : Escapes where
  letters := [('"', '"'), ('\\', '\\'), ('\n', 'n'), ('\r', 'r'), ('\t', 't')]
  isCoded := isControl
  code := Hex.code

/-- A member of the line. -/
def member (field : String × String) : List Char :=
  escapes.quote field.1 ++ ':' :: escapes.quote field.2

/-- Members with commas between them. -/
def written (fields : List (String × String)) : List Char :=
  [','].intercalate (fields.map member)

/-- Fields by key, those of one key in their order. -/
def sortFields (fields : List (String × String)) : List (String × String) :=
  sortStable (compareOn (·.1)) fields

/-- The fields of a line in their order, those of the event in front. -/
def members (severity : Severity) (event : String) (fields : List (String × String)) :
    List (String × String) :=
  ("event", event) :: ("severity", severity.name) :: sortFields fields

/-- The line of an event, its line break included. -/
def line (severity : Severity) (event : String) (fields : List (String × String)) : String :=
  String.ofList ('\x7b' :: written (members severity event fields) ++ ['\x7d', '\n'])

end Log

/-- What has been written, and the severity from which on lines are. -/
structure Console where
  threshold : Severity := .warn
  out : String := ""
  err : String := ""

namespace Console

def isEnabled (c : Console) (severity : Severity) : Bool :=
  c.threshold.rank ≤ severity.rank

/-- Write a line, if its severity is enabled. -/
def log (c : Console) (severity : Severity) (event : String) (fields : List (String × String)) :
    Console :=
  if c.isEnabled severity then
    let line := Log.line severity event fields
    if severity = .error then { c with err := c.err ++ line } else { c with out := c.out ++ line }
  else c

def report (c : Console) (event : Event) (fields : List (String × String)) : Console :=
  c.log event.severity event.name fields

end Console

end DocStore
