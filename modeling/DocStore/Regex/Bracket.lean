import DocStore.Regex.Escape

/-!
Bracketed classes (`readBracket`).

Brackets and operators that wait for what stands to their right are kept on a stack, so
that the reader goes through the characters once.  With each class it counts the levels on
which the class is written: a bracket, an operator, and two or more members side by side
are one level each.
-/

namespace DocStore.Regex

open Unicode (CodeSet)

inductive ClassOperator where
  | inter
  | diff
  | symmDiff

def ClassOperator.apply : ClassOperator → CharClass → CharClass → CharClass
  | inter, a, b => CodeSet.inter a b
  | diff, a, b => CodeSet.diff a b
  | symmDiff, a, b => CodeSet.symmDiff a b

/-- A class, and the levels on which it is written. -/
structure WrittenClass where
  members : CharClass
  levels : Nat

/-- Levels that a pattern may have. -/
def levelLimit : Nat := 250

/-- Members that stand side by side, so far: how many, and the levels of the deepest. -/
structure Members where
  union : CharClass
  count : Nat
  deepest : Nat

namespace Members

def none : Members := ⟨CodeSet.empty, 0, 0⟩

def add (ms : Members) (k : CharClass) (levels : Nat) : Members :=
  ⟨CodeSet.union ms.union k, ms.count + 1, max ms.deepest levels⟩

def toClass (ms : Members) : WrittenClass :=
  ⟨ms.union, if 2 ≤ ms.count then ms.deepest + 1 else ms.deepest⟩

end Members

/-- What waits for the bracket or the operand being read: the members before a nested
bracket, or the left operand of an operator. -/
inductive ClassFrame where
  | bracket (before : Members) (negated : Bool)
  | operator (op : ClassOperator) (left : WrittenClass)

/-- Close a class under case, then negate it.  Outside Unicode a negation would hold bytes
that are no character. -/
def finishClass (f : Flags) (negated : Bool) (k : CharClass) : Except Fault CharClass :=
  let k := f.closeCase k
  if negated then if f.unicode then .ok k.compl else .error .notUtf8
  else .ok k

/-- Apply the operator that waits, if one does. -/
def applyOperator (f : Flags) (stack : List ClassFrame) (right : WrittenClass) :
    WrittenClass × List ClassFrame :=
  match stack with
  | .operator op left :: rest =>
    (⟨op.apply (f.closeCase left.members) (f.closeCase right.members),
      max left.levels right.levels + 1⟩, rest)
  | _ => (right, stack)

/-- Hyphens at the front of a bracket are members. -/
def leadingHyphens (f : Flags) : Nat → Members → List Char → Members × List Char
  | 0, ms, cs => (ms, cs)
  | fuel + 1, ms, cs =>
    match cs with
    | '-' :: rest => leadingHyphens f fuel (ms.add (.single '-') 0) (f.skip rest)
    | _ => (ms, cs)

/-- What follows an opening bracket: its negation, its first members, the rest.  A closing
bracket in the first place is a member. -/
def openBracket (f : Flags) (fuel : Nat) (cs : List Char) :
    Except Fault (Bool × Members × List Char) :=
  let cs := f.skip cs
  let (negated, cs) := match cs with
    | '^' :: rest => (true, f.skip rest)
    | _ => (false, cs)
  let (ms, rest) := leadingHyphens f fuel .none cs
  match rest with
  | [] => .error .classUnclosed
  | ']' :: after =>
    if ms.count = 0 then
      match f.skip after with
      | [] => .error .classUnclosed
      | after => .ok (negated, ms.add (.single ']') 0, after)
    else .ok (negated, ms, rest)
  | _ => .ok (negated, ms, rest)

/-- A class written `[:name:]` or `[:^name:]`, read behind the first bracket. -/
def bracketName? (f : Flags) (cs : List Char) : Option (Except Fault CharClass × List Char) :=
  match cs with
  | ':' :: rest =>
    let (negated, rest) := match rest with
      | '^' :: rest => (true, rest)
      | _ => (false, rest)
    let name := rest.takeWhile (· != ':')
    match rest.dropWhile (· != ':') with
    | ':' :: ']' :: rest =>
      (CharClass.ofBracketName? (String.ofList name)).map fun k => (finishClass f negated k, rest)
    | _ => none
  | _ => none

/-- A member of a class: a character or an escape. -/
def readMember (f : Flags) (cs : List Char) : Except Fault (Primitive × List Char) :=
  match cs with
  | [] => .error .classUnclosed
  | '\\' :: rest => readEscape f rest
  | c :: rest => .ok (.literal c, rest)

/-- A character as a member.  Outside Unicode only those below U+0080 are. -/
def memberChar (f : Flags) : Primitive → Except Fault Char
  | .literal c => if f.unicode || c.toNat < 0x80 then .ok c else .error .notUtf8
  | _ => .error .classMember

def memberClass (f : Flags) : Primitive → Except Fault CharClass
  | .literal c => (memberChar f (.literal c)).map .single
  | .members k => .ok k
  | .anchor _ => .error .classMember

/-- The character behind a hyphen.  In free layout it is looked for behind blanks and behind
the first number sign, which begins no comment here. -/
def Flags.behindHyphen? (f : Flags) (cs : List Char) : Option Char :=
  if f.freeLayout then
    let ahead := match cs.dropWhile Unicode.isBlank with
      | '#' :: rest => rest.dropWhile Unicode.isBlank
      | cs => cs
    ahead.head?.or cs.head?
  else cs.head?

/-- One member, or a range of two.  A hyphen before a bracket or another hyphen makes no
range. -/
def readRange (f : Flags) (cs : List Char) : Except Fault (CharClass × List Char) := do
  let (low, rest) ← readMember f cs
  match f.skip rest with
  | [] => .error .classUnclosed
  | '-' :: rest =>
    let next := f.behindHyphen? rest
    if next = some ']' ∨ next = some '-' then return (← memberClass f low, '-' :: rest)
    else
      match f.skip rest with
      | [] => .error .classUnclosed
      | cs =>
        let (high, rest) ← readMember f cs
        let low ← memberChar f low
        let high ← memberChar f high
        if low ≤ high then return (.range low high, rest) else .error .rangeReversed
  | rest => return (← memberClass f low, rest)

/-- The rest of a class; `ms` are the members of the innermost bracket so far. -/
def readClass (f : Flags) :
    Nat → List ClassFrame → Members → List Char → Except Fault (WrittenClass × List Char)
  | 0, _, _, _ => .error .classUnclosed
  | fuel + 1, stack, ms, cs => do
    let waiting (op : ClassOperator) : List ClassFrame :=
      let (left, stack) := applyOperator f stack ms.toClass
      .operator op left :: stack
    match f.skip cs with
    | [] => .error .classUnclosed
    | '[' :: rest =>
      match bracketName? f rest with
      | some (k, rest) => readClass f fuel stack (ms.add (← k) 0) rest
      | none =>
        let (negated, first, rest) ← openBracket f fuel rest
        readClass f fuel (.bracket ms negated :: stack) first rest
    | ']' :: rest =>
      let (k, stack) := applyOperator f stack ms.toClass
      match stack with
      | .bracket before negated :: outer =>
        let members ← finishClass f negated k.members
        if levelLimit ≤ k.levels then .error .tooDeep
        else if outer.isEmpty then return (⟨members, k.levels + 1⟩, rest)
        else readClass f fuel outer (before.add members (k.levels + 1)) rest
      | _ => .error .classUnclosed
    | '&' :: '&' :: rest => readClass f fuel (waiting .inter) .none rest
    | '-' :: '-' :: rest => readClass f fuel (waiting .diff) .none rest
    | '~' :: '~' :: rest => readClass f fuel (waiting .symmDiff) .none rest
    | cs =>
      let (k, rest) ← readRange f cs
      readClass f fuel stack (ms.add k 0) rest

/-- A class, read behind its opening bracket. -/
def readBracket (f : Flags) (cs : List Char) : Except Fault (WrittenClass × List Char) := do
  let fuel := cs.length + 1
  let (negated, first, rest) ← openBracket f fuel cs
  readClass f fuel [.bracket .none negated] first rest

end DocStore.Regex
