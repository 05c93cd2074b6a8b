import DocStore.Regex.Bracket
import DocStore.Regex.Size

/-!
Reading regular expressions.

`Regex.parse?` reads a pattern.  Groups are kept on a stack of levels, so that the reader
goes through the characters once.  Flags act from where they stand to the end of their
group.
-/

namespace DocStore.Regex

open Unicode (CodeSet)

/-! ## Repetitions -/

/-- A count, with blanks around it. -/
def readCount (f : Flags) (cs : List Char) : Except Fault (Option Nat × List Char) :=
  let rec digits : Nat → List Char → List Char × List Char
    | 0, cs => ([], cs)
    | fuel + 1, cs =>
      match cs with
      | c :: rest =>
        if c.isDigit then
          let (ds, rest) := digits fuel (f.skip rest)
          (c :: ds, rest)
        else ([], cs)
      | [] => ([], [])
  let cs := cs.dropWhile Unicode.isBlank
  let (ds, rest) := digits cs.length cs
  let rest := f.skip (rest.dropWhile Unicode.isBlank)
  if ds.isEmpty then .ok (none, rest)
  else
    let n := ds.foldl (fun n c => 10 * n + (c.toNat - '0'.toNat)) 0
    if n < 0x100000000 then .ok (some n, rest) else .error .countTooLarge

/-- The counts of a repetition, read behind the opening brace up to the closing one. -/
def readCounts (f : Flags) (cs : List Char) :
    Except Fault (Nat × Option Nat × List Char) := do
  let cs := f.skip cs
  if cs.isEmpty then .error .countUnclosed
  let (least, rest) ← readCount f cs
  let (least, most, rest) ← match rest with
    | [] => Except.error .countUnclosed
    | ',' :: rest =>
      match f.skip rest with
      | [] => .error .countUnclosed
      | '\x7d' :: rest =>
        match least with
        | some n => .ok (n, none, '\x7d' :: rest)
        | none => .error .countMissing
      | rest =>
        match least with
        | some n => do
          let (most, rest) ← readCount f rest
          match most with
          | some m => .ok (n, some m, rest)
          | none => .error .countMissing
        | none => .error .countMissing
    | rest =>
      match least with
      | some n => .ok (n, some n, rest)
      | none => .error .countMissing
  match rest with
  | '\x7d' :: rest =>
    if most.any (· < least) then .error .countReversed else return (least, most, rest)
  | _ => .error .countUnclosed

/-! ## Groups and sequences -/

/-- An expression, and the levels on which it is written: groups, repetitions, sequences and
alternatives of several members, and those of its classes. -/
structure Written where
  regex : Regex
  levels : Nat

/-- A member of a sequence; a change of flags takes a place but matches nothing. -/
inductive Item where
  | expr (w : Written)
  | setting

def Item.written : Item → Written
  | expr w => w
  | setting => ⟨.empty, 0⟩

/-- Members side by side, made one expression. -/
def Written.ofMembers (combine : List Regex → Regex) (ws : List Written) : Written :=
  match ws with
  | [w] => w
  | ws =>
    let deepest := ws.foldl (fun n w => max n w.levels) 0
    ⟨combine (ws.map (·.regex)), if ws.isEmpty then 0 else deepest + 1⟩

/-- A group that is being read: its flags to return to, its number if it captures, and of
the group around it the alternatives before the current one and the items of that one, both
in reverse. -/
structure Level where
  flags : Flags
  group : Option Nat
  branches : List Written
  items : List Item

/-- What has been read: besides the innermost group that is open, the groups around it, the
names that are taken, and the number of the next group that captures; the whole is group 0. -/
structure State where
  flags : Flags
  branches : List Written
  items : List Item
  outer : List Level
  names : List (List Char)
  groups : Nat

def State.start : State := ⟨.start, [], [], [], [], 1⟩

/-- The sequence of items that stand in reverse. -/
def sequenceOf (items : List Item) : Written :=
  .ofMembers .sequence (items.reverse.map Item.written)

/-- The alternative of the branches before and the one being read. -/
def State.whole (st : State) : Written :=
  .ofMembers .choice (sequenceOf st.items :: st.branches).reverse

def State.push (st : State) (r : Regex) (levels : Nat) : State :=
  { st with items := .expr ⟨r, levels⟩ :: st.items }

def State.openGroup (st : State) (captures : Bool) (inner : Flags) : State :=
  { st with
    flags := inner
    branches := []
    items := []
    outer :=
      ⟨st.flags, if captures then some st.groups else none, st.branches, st.items⟩ :: st.outer
    groups := if captures then st.groups + 1 else st.groups }

def State.closeGroup (st : State) : Except Fault State :=
  match st.outer with
  | [] => .error .groupUnopened
  | level :: outer =>
    let ⟨r, levels⟩ := st.whole
    let r := match level.group with
      | some group => .capture r group
      | none => r
    if levelLimit ≤ levels then .error .tooDeep
    else
      .ok { st with
        flags := level.flags
        branches := level.branches
        items := .expr ⟨r, levels + 1⟩ :: level.items
        outer }

def State.nextBranch (st : State) : State :=
  { st with branches := sequenceOf st.items :: st.branches, items := [] }

/-- Repeat the last item; a question mark behind the repetition makes it lazy, or greedy
where lazy ones come first. -/
def State.repeat (st : State) (least : Nat) (most : Option Nat) (rest : List Char) :
    Except Fault (State × List Char) :=
  match st.items with
  | .expr ⟨r, levels⟩ :: before =>
    if levelLimit ≤ levels then .error .tooDeep
    else
      let (marked, rest) := match rest with
        | '?' :: rest => (true, rest)
        | _ => (false, rest)
      let r := r.repeated least most (marked == st.flags.lazyFirst)
      .ok ({ st with items := .expr ⟨r, levels + 1⟩ :: before }, rest)
  | _ => .error .nothingToRepeat

/-- A name of a group up to its closing angle bracket. -/
def readGroupName (seen : List (List Char)) (cs : List Char) :
    Except Fault (List Char × List Char) :=
  let name := cs.takeWhile (· != '>')
  let isFirst (c : Char) : Bool := c == '_' || Unicode.isAlphabetic c
  let isLater (c : Char) : Bool :=
    c == '_' || c == '.' || c == '[' || c == ']' || Unicode.isAlphanumeric c
  match name, cs.dropWhile (· != '>') with
  | c :: later, _ :: rest =>
    if isFirst c ∧ later.all isLater ∧ !seen.contains name then .ok (name, rest)
    else .error .groupName
  | _, _ => .error .groupName

/-- Flags up to a closing parenthesis or a colon; `seen` are the flags before, `negation`
stands for the hyphen. -/
def readFlags (f : Flags) (on : Bool) (seen : List Char) (dangling : Bool) :
    List Char → Except Fault (Flags × List Char × Char × List Char)
  | [] => .error .flagUnfinished
  | c :: rest =>
    if c = ':' ∨ c = ')' then
      if dangling then .error .flagDangling else .ok (f, seen, c, rest)
    else if seen.contains c then .error .flagRepeated
    else if c = '-' then readFlags f false (c :: seen) true rest
    else
      match f.set? c on with
      | some f => readFlags f on (c :: seen) false rest
      | none => .error (.flag c)

/-- What an opening parenthesis begins. -/
def readGroup (st : State) (cs : List Char) : Except Fault (State × List Char) := do
  let named (rest : List Char) : Except Fault (State × List Char) := do
    let (name, rest) ← readGroupName st.names rest
    return ({ st with names := name :: st.names }.openGroup true st.flags, rest)
  match st.flags.skip cs with
  | '?' :: '=' :: _ | '?' :: '!' :: _ | '?' :: '<' :: '=' :: _ | '?' :: '<' :: '!' :: _ =>
    .error .lookAround
  | '?' :: 'P' :: '<' :: rest | '?' :: '<' :: rest => named rest
  | '?' :: rest =>
    if rest.isEmpty then .error .groupUnclosed
    let (flags, seen, stop, rest) ← readFlags st.flags true [] false rest
    if stop = ')' then
      if seen.isEmpty then .error .nothingToRepeat
      else return ({ st with flags, items := .setting :: st.items }, rest)
    else return (st.openGroup false flags, rest)
  | rest => return (st.openGroup true st.flags, rest)

/-! ## Patterns -/

/-- A character of the pattern under the flags. -/
def literalRegex (f : Flags) (c : Char) : Regex :=
  if f.unicode ∨ c.toNat < 0x80 then .ofClass (f.closeCase (.single c)) f.unicode
  else .literal [c]

def primitiveRegex (f : Flags) : Primitive → Regex
  | .literal c => literalRegex f c
  | .members k => .ofClass k f.unicode
  | .anchor a => .anchor a

/-- The class of `.`: all but the line ends. -/
def dotClass (f : Flags) : Except Fault CharClass :=
  if !f.unicode then .error .notUtf8
  else if f.dotAll then .ok CodeSet.all
  else if f.crlf then .ok (CharClass.ofRanges [('\n', '\n'), ('\r', '\r')]).compl
  else .ok (CharClass.single '\n').compl

/-- One thing of a pattern: a parenthesis, a bar, a class, a repetition, a character. -/
def readItem (st : State) (c : Char) (rest : List Char) : Except Fault (State × List Char) := do
  let f := st.flags
  match c with
  | '(' => readGroup st rest
  | ')' => return (← st.closeGroup, rest)
  | '|' => return (st.nextBranch, rest)
  | '[' =>
    let (k, rest) ← readBracket f rest
    return (st.push (.ofClass k.members f.unicode) k.levels, rest)
  | '?' => st.repeat 0 (some 1) rest
  | '*' => st.repeat 0 none rest
  | '+' => st.repeat 1 none rest
  | '\x7b' =>
    let (least, most, rest) ← readCounts f rest
    st.repeat least most (f.skip rest)
  | '\\' =>
    let (p, rest) ← readEscape f rest
    return (st.push (primitiveRegex f p) 0, rest)
  | '.' => return (st.push (.ofClass (← dotClass f) true) 0, rest)
  | '^' =>
    return (st.push (.anchor (if f.multiLine then .lineStart f.crlf else .textStart)) 0, rest)
  | '$' => return (st.push (.anchor (if f.multiLine then .lineEnd f.crlf else .textEnd)) 0, rest)
  | c => return (st.push (literalRegex f c) 0, rest)

/-- Read items to the end of the pattern; each takes at least one character. -/
def readItems : Nat → State → List Char → Except Fault Written
  | 0, _, _ => .error .tooDeep
  | fuel + 1, st, cs =>
    match st.flags.skip cs with
    | [] => if st.outer.isEmpty then .ok st.whole else .error .groupUnclosed
    | c :: rest => do
      let (st, rest) ← readItem st c rest
      readItems fuel st rest

/-- The expression of a pattern. -/
def parse? (pattern : String) : Except Fault Regex := do
  let cs := pattern.toList
  let ⟨r, levels⟩ ← readItems (cs.length + 1) .start cs
  if levelLimit < levels then .error .tooDeep
  else if r.isTooLarge then .error .tooLarge
  else return r

end DocStore.Regex
