import DocStore.Regex
import DocStore.Text.Hex

/-!
The parts of a pattern that stand for one character, one class or one place: plain
characters and escapes (`readEscape`), read under the flags that are in force (`Flags`).
-/

namespace DocStore.Regex

open Unicode (CodeSet)

/-! ## Causes of failure -/

inductive Fault where
  | groupUnclosed
  | groupUnopened
  | groupName
  | lookAround
  | backReference
  | flag (c : Char)
  | flagRepeated
  | flagDangling
  | flagUnfinished
  | nothingToRepeat
  | countUnclosed
  | countMissing
  | countTooLarge
  | countReversed
  | escapeUnfinished
  | escapeUnknown
  | hexadecimal
  | boundaryName
  | property
  | classUnclosed
  | classMember
  | rangeReversed
  | notUtf8
  | tooDeep
  | tooLarge
  deriving DecidableEq

namespace Fault

def reason : Fault → String
  | groupUnclosed => "unclosed group"
  | groupUnopened => "unopened group"
  | groupName => "invalid or repeated group name"
  | lookAround => "look-around is not supported"
  | backReference => "back references are not supported"
  | flag c => "unknown flag '" ++ c.toString ++ "'"
  | flagRepeated => "repeated flag"
  | flagDangling => "negation of no flag"
  | flagUnfinished => "unfinished flags"
  | nothingToRepeat => "a repetition of nothing"
  | countUnclosed => "unclosed counted repetition"
  | countMissing => "a counted repetition without a count"
  | countTooLarge => "a count that is too large"
  | countReversed => "a range of counts whose start is above its end"
  | escapeUnfinished => "an escape at the end of the pattern"
  | escapeUnknown => "unknown escape"
  | hexadecimal => "an invalid hexadecimal code"
  | boundaryName => "an unknown word boundary"
  | property => "unknown property"
  | classUnclosed => "unclosed character class"
  | classMember => "an escape that stands for no character of a class"
  | rangeReversed => "a range of characters whose start is above its end"
  | notUtf8 => "the pattern could match invalid UTF-8"
  | tooDeep => "too many levels"
  | tooLarge => "the pattern is too large"

def message (f : Fault) : String :=
  "regex parse error: " ++ f.reason

end Fault

/-! ## Flags -/

structure Flags where
  ignoreCase : Bool
  multiLine : Bool
  dotAll : Bool
  lazyFirst : Bool
  unicode : Bool
  crlf : Bool
  freeLayout : Bool

def Flags.start : Flags where
  ignoreCase := false
  multiLine := false
  dotAll := false
  lazyFirst := false
  unicode := true
  crlf := false
  freeLayout := false

def Flags.set? (f : Flags) (name : Char) (on : Bool) : Option Flags :=
  match name with
  | 'i' => some { f with ignoreCase := on }
  | 'm' => some { f with multiLine := on }
  | 's' => some { f with dotAll := on }
  | 'U' => some { f with lazyFirst := on }
  | 'u' => some { f with unicode := on }
  | 'R' => some { f with crlf := on }
  | 'x' => some { f with freeLayout := on }
  | _ => none

/-- Drop blanks, and comments up to the line's end. -/
def skipLayout : Bool → List Char → List Char
  | _, [] => []
  | true, c :: rest => skipLayout (c != '\n') rest
  | false, c :: rest =>
    if Unicode.isBlank c then skipLayout false rest
    else if c = '#' then skipLayout true rest
    else c :: rest

/-- The text that the next thing is read from: free layout leaves out blanks and comments. -/
def Flags.skip (f : Flags) (cs : List Char) : List Char :=
  if f.freeLayout then skipLayout false cs else cs

/-! ## Escapes -/

/-- What one character or escape of a pattern says. -/
inductive Primitive where
  | literal (c : Char)
  | members (k : CharClass)
  | anchor (a : Anchor)

/-- Characters that mean something unescaped. -/
def isMeta (c : Char) : Bool :=
  "\\.+*?()|[]\x7b\x7d^$#&-~".toList.contains c

/-- Characters that may be escaped and then stand for themselves. -/
def isEscapable (c : Char) : Bool :=
  isMeta c || (c.toNat < 0x80 && !c.isAlphanum && c != '<' && c != '>')

def charOfCode (n : Nat) : Except Fault Char :=
  if n.isValidChar then .ok (Char.ofNat n) else .error .hexadecimal

/-- `count` hexadecimal digits. -/
def readHexFixed (f : Flags) : Nat → Nat → List Char → Except Fault (Char × List Char)
  | 0, n, cs => (charOfCode n).map (·, cs)
  | count + 1, n, cs =>
    match cs with
    | [] => .error .escapeUnfinished
    | c :: rest =>
      match Hex.value? c with
      | some d => readHexFixed f count (16 * n + d) (f.skip rest)
      | none => .error .hexadecimal

/-- Hexadecimal digits up to a closing brace. -/
def readHexBraced (f : Flags) : Nat → Option Nat → List Char → Except Fault (Char × List Char)
  | 0, _, _ => .error .escapeUnfinished
  | fuel + 1, n, cs =>
    match f.skip cs with
    | [] => .error .escapeUnfinished
    | '\x7d' :: rest =>
      match n with
      | some n => (charOfCode n).map (·, f.skip rest)
      | none => .error .hexadecimal
    | c :: rest =>
      match Hex.value? c with
      | some d => readHexBraced f fuel (some (16 * n.getD 0 + d)) rest
      | none => .error .hexadecimal

def readHex (f : Flags) (width : Nat) (cs : List Char) : Except Fault (Char × List Char) :=
  match f.skip cs with
  | [] => .error .escapeUnfinished
  | '\x7b' :: rest => readHexBraced f (rest.length + 1) none rest
  | cs => readHexFixed f width 0 cs

/-- Closed under case, where case is ignored; outside Unicode among the characters below
U+0080. -/
def Flags.closeCase (f : Flags) (k : CharClass) : CharClass :=
  if !f.ignoreCase then k
  else if f.unicode then Unicode.closeCase k
  else (Unicode.closeCase k).inter CodeSet.ascii

/-- The class of a property under the flags. -/
def propertyClass (f : Flags) (negated : Bool) (k : CharClass) : Except Fault Primitive :=
  if f.unicode then
    let k := f.closeCase k
    .ok (.members (if negated then k.compl else k))
  else .error .notUtf8

/-- The name between the braces of a property, and the text after them. -/
def readBraced (f : Flags) : Nat → List Char → Except Fault (List Char × List Char)
  | 0, _ => .error .escapeUnfinished
  | fuel + 1, cs =>
    match f.skip cs with
    | [] => .error .escapeUnfinished
    | '\x7d' :: rest => .ok ([], rest)
    | c :: rest => (readBraced f fuel rest).map fun (name, rest) => (c :: name, rest)

/-- The text before and behind a sign, where it first stands. -/
def splitAt? (sign : List Char) : List Char → Option (List Char × List Char)
  | [] => none
  | c :: rest =>
    if sign.isPrefixOf (c :: rest) then some ([], (c :: rest).drop sign.length)
    else (splitAt? sign rest).map fun (before, behind) => (c :: before, behind)

/-- The class that the text between braces names, and whether it is denied.  A sign between
name and value is looked for as `!=`, then as a colon, then as `=`. -/
def namedClass (text : List Char) : Except Fault (CharClass × Bool) :=
  let class? (k : Option CharClass) (denied : Bool) : Except Fault (CharClass × Bool) :=
    match k with
    | some k => .ok (k, denied)
    | none => .error .property
  let value (name value : List Char) : Option CharClass :=
    Unicode.valueSet? (Unicode.plainName name) (Unicode.plainName value)
  match splitAt? ['!', '='] text with
  | some (name, v) => class? (value name v) true
  | none =>
    match (splitAt? [':'] text).or (splitAt? ['='] text) with
    | some (name, v) => class? (value name v) false
    | none => class? (Unicode.namedSet? (Unicode.plainName text)) false

def readProperty (f : Flags) (negated : Bool) (cs : List Char) :
    Except Fault (Primitive × List Char) := do
  match f.skip cs with
  | [] => .error .escapeUnfinished
  | '\x7b' :: rest =>
    let (name, rest) ← readBraced f (rest.length + 1) rest
    let (k, denied) ← namedClass name
    return (← propertyClass f (negated != denied) k, rest)
  | c :: rest =>
    let (k, _) ← namedClass [c]
    return (← propertyClass f negated k, f.skip rest)

/-- `\d`, `\s`, `\w` and their negations. -/
def shortClass (f : Flags) (name : Char) : Except Fault Primitive :=
  let k := CharClass.ofLetter f.unicode name.toLower
  if name.isUpper then
    if f.unicode then .ok (.members k.compl) else .error .notUtf8
  else .ok (.members k)

/-- The boundary of a name in braces behind `\b`.  Braces that hold no name are left for a
counted repetition. -/
def readBoundary (f : Flags) (cs : List Char) : Except Fault (Anchor × List Char) :=
  let isName (c : Char) : Bool := c.isAlpha || c == '-'
  let rec name : Nat → List Char → List Char × List Char
    | 0, cs => ([], cs)
    | fuel + 1, cs =>
      match cs with
      | c :: rest =>
        if isName c then
          let (n, rest) := name fuel (f.skip rest)
          (c :: n, rest)
        else ([], cs)
      | [] => ([], [])
  match cs with
  | '\x7b' :: rest =>
    match f.skip rest with
    | [] => .error .boundaryName
    | c :: rest =>
      if isName c then
        match name (rest.length + 1) (c :: rest) with
        | (n, '\x7d' :: rest) =>
          match String.ofList n with
          | "start" => .ok (.wordStart f.unicode, rest)
          | "end" => .ok (.wordEnd f.unicode, rest)
          | "start-half" => .ok (.wordStartHalf f.unicode, rest)
          | "end-half" => .ok (.wordEndHalf f.unicode, rest)
          | _ => .error .boundaryName
        | _ => .error .boundaryName
      else .ok (.boundary f.unicode, cs)
  | _ => .ok (.boundary f.unicode, cs)

/-- An escape, read behind its backslash. -/
def readEscape (f : Flags) (cs : List Char) : Except Fault (Primitive × List Char) := do
  match cs with
  | [] => .error .escapeUnfinished
  | c :: rest =>
    if c.isDigit then .error .backReference
    else if c = 'x' then
      let (ch, rest') ← readHex f 2 rest
      let braced := (f.skip rest).head? == some '\x7b'
      if !f.unicode ∧ !braced ∧ 0x80 ≤ ch.toNat then .error .notUtf8
      else return (.literal ch, rest')
    else if c = 'u' then
      let (c, rest) ← readHex f 4 rest
      return (.literal c, rest)
    else if c = 'U' then
      let (c, rest) ← readHex f 8 rest
      return (.literal c, rest)
    else if c = 'p' ∨ c = 'P' then readProperty f (c = 'P') rest
    else if "dswDSW".toList.contains c then return (← shortClass f c, rest)
    else if isEscapable c then return (.literal c, rest)
    else
      match c with
      | 'a' => return (.literal '\x07', rest)
      | 'f' => return (.literal '\x0c', rest)
      | 't' => return (.literal '\t', rest)
      | 'n' => return (.literal '\n', rest)
      | 'r' => return (.literal '\r', rest)
      | 'v' => return (.literal '\x0b', rest)
      | 'A' => return (.anchor .textStart, rest)
      | 'z' => return (.anchor .textEnd, rest)
      | 'b' =>
        let (a, rest) ← readBoundary f rest
        return (.anchor a, rest)
      | 'B' => return (.anchor (.notBoundary f.unicode), rest)
      | '<' => return (.anchor (.wordStart f.unicode), rest)
      | '>' => return (.anchor (.wordEnd f.unicode), rest)
      | _ => .error .escapeUnknown

end DocStore.Regex
