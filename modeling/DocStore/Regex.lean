import DocStore.Regex.CharClass

/-!
Regular expressions and matching.

An expression takes a set of places in a text to the places where a match begun at one of
them can end: a sequence composes, an alternative unites, a repetition iterates.  A set of
places is a natural whose bit `i` stands for the place before character `i`.

Where the classes and the anchors of an expression hold in a text is looked up once
(`Regex.moves`); what is left are operations on sets (`Moves.ends`).  A text is matched
when some end is reached from some place (`Regex.isMatch`).
-/

namespace DocStore

open Unicode (CodeSet)
open Regex (CharClass)

/-! ## Expressions -/

/-- Conditions on a place.  With `crlf`, carriage returns end lines too, and the pair is
one line end. -/
inductive Regex.Anchor where
  | textStart
  | textEnd
  | lineStart (crlf : Bool)
  | lineEnd (crlf : Bool)
  | boundary (unicode : Bool)
  | notBoundary (unicode : Bool)
  | wordStart (unicode : Bool)
  | wordEnd (unicode : Bool)
  | wordStartHalf (unicode : Bool)
  | wordEndHalf (unicode : Bool)
  deriving DecidableEq

/-- Expressions.  With a class stands whether it was read as one of Unicode, with a repetition
whether it prefers more rounds to fewer, and with a group its number: expressions that differ
in these alone match alike, but they are not the same. -/
inductive Regex where
  | empty
  | literal (text : List Char)
  | char (k : CharClass) (unicode : Bool)
  | anchor (a : Regex.Anchor)
  | cat (a b : Regex)
  | alt (a b : Regex)
  | rep (r : Regex) (least : Nat) (most : Option Nat) (greedy : Bool)
  | capture (r : Regex) (group : Nat)
  deriving DecidableEq

namespace Regex

/-! ## Building -/

/-- A class.  The only member of a class is a text; a class without members is of no kind. -/
def ofClass (k : CharClass) (unicode : Bool) : Regex :=
  let k : CharClass := k.diff CodeSet.surrogates
  match k.only? with
  | some c => literal [c]
  | none => char k (unicode && !CodeSet.isEmpty k)

def parts : Regex → List Regex
  | empty => []
  | cat a b => a.parts ++ b.parts
  | r => [r]

/-- Texts side by side made one. -/
def joinLiterals (rs : List Regex) : List Regex :=
  rs.foldr (fun
    | literal s, literal t :: rest => literal (s ++ t) :: rest
    | r, rest => r :: rest) []

/-- The expressions joined from the right; `empty` if there are none. -/
def chain (join : Regex → Regex → Regex) : List Regex → Regex
  | [] => empty
  | [r] => r
  | r :: rest => join r (chain join rest)

/-- The expressions one behind the other; what matches only nothing is left out. -/
def sequence (rs : List Regex) : Regex :=
  chain cat (joinLiterals (rs.flatMap parts))

def branches : Regex → List Regex
  | alt a b => a.branches ++ b.branches
  | r => [r]

def literal? : Regex → Option (List Char)
  | literal text => some text
  | _ => none

def single? : Regex → Option CharClass
  | literal [c] => some (.single c)
  | _ => none

def class? : Regex → Option CharClass
  | char k _ => some k
  | _ => none

/-- One of the expressions.  Single characters are one class, and so are classes. -/
def oneOf (rs : List Regex) : Regex :=
  match rs.flatMap branches with
  | [r] => r
  | rs =>
    match (rs.mapM single?).or (rs.mapM class?) with
    | some ks => ofClass (CodeSet.unionAll ks) true
    | none => chain alt rs

/-- The longest beginning of both lists. -/
def commonStart {α : Type} [DecidableEq α] : List α → List α → List α
  | a :: as, b :: bs => if a = b then a :: commonStart as bs else []
  | _, _ => []

/-- The parts that sequences all begin with; none if an expression is no sequence. -/
def sharedParts (rs : List Regex) : List Regex :=
  let several (r : Regex) : Option (List Regex) :=
    match r with
    | cat _ _ => some r.parts
    | _ => none
  match rs.mapM several with
  | some (first :: rest) => rest.foldl commonStart first
  | _ => []

/-- One of the expressions.  Parts that all of them begin with stand once, in front of the
choice between the rests. -/
def choice (rs : List Regex) : Regex :=
  let rs := rs.flatMap branches
  match sharedParts rs with
  | [] => oneOf rs
  | shared => sequence (shared ++ [oneOf (rs.map fun r => chain cat (r.parts.drop shared.length))])

/-- Whether all that the expression matches is empty. -/
def isEmptyOnly : Regex → Bool
  | empty => true
  | literal text => text.isEmpty
  | char _ _ => false
  | anchor _ => true
  | cat a b => a.isEmptyOnly && b.isEmptyOnly
  | alt a b => a.isEmptyOnly && b.isEmptyOnly
  | rep r _ most _ => r.isEmptyOnly || most == some 0
  | capture r _ => r.isEmptyOnly

/-- The expression from `least` to `most` times; a second time changes nothing where all
matches are empty. -/
def repeated (r : Regex) (least : Nat) (most : Option Nat) (greedy : Bool) : Regex :=
  let (least, most) :=
    if r.isEmptyOnly then (min least 1, some (min (most.getD 1) 1)) else (least, most)
  if most = some 0 then empty
  else if least = 1 ∧ most = some 1 then r
  else rep r least most greedy

/-! ## Places of a text -/

/-- The condition, given the characters on both sides of the place. -/
def Anchor.holds (a : Anchor) (before after : Option Char) : Bool :=
  let isWord (unicode : Bool) (c : Option Char) : Bool :=
    c.any fun c => Unicode.isWord c && (unicode || c.toNat < 0x80)
  match a with
  | textStart => before.isNone
  | textEnd => after.isNone
  | lineStart crlf =>
    before.isNone || before == some '\n' || (crlf && before == some '\r' && after != some '\n')
  | lineEnd crlf =>
    after.isNone || (after == some '\n' && !(crlf && before == some '\r'))
      || (crlf && after == some '\r')
  | boundary u => isWord u before != isWord u after
  | notBoundary u => isWord u before == isWord u after
  | wordStart u => !isWord u before && isWord u after
  | wordEnd u => isWord u before && !isWord u after
  | wordStartHalf u => !isWord u before
  | wordEndHalf u => !isWord u after

/-- The indices at which a list has members with the property. -/
def indices {α : Type} (p : α → Bool) (xs : List α) : Nat :=
  xs.foldr (fun x s => 2 * s + (p x).toNat) 0

/-- The characters before and behind each place. -/
def sides (text : List Char) : List (Option Char × Option Char) :=
  (none :: text.map some).zip (text.map some ++ [none])

def classes : Regex → List CharClass
  | literal text => text.map .single
  | char k _ => [k]
  | cat a b => a.classes ++ b.classes
  | alt a b => a.classes ++ b.classes
  | rep r _ _ _ => r.classes
  | capture r _ => r.classes
  | _ => []

end Regex

/-! ## Moves -/

/-- What an expression does to the places of one text: it stays where it is, stays at some
places, or steps over the character behind some places. -/
inductive Moves where
  | idle
  | stay (places : Nat)
  | step (places : Nat)
  | andThen (a b : Moves)
  | either (a b : Moves)
  | again (m : Moves) (least : Nat) (most : Option Nat)

namespace Moves

/-- `f` applied `n` times; a set that stays as it is has been applied often enough. -/
def times (f : Nat → Nat) : Nat → Nat → Nat
  | 0, s => s
  | n + 1, s =>
    let t := f s
    if t = s then s else times f n t

/-- The places that at most `n` more rounds of `f` reach.  Only the places that the last
round added are gone on from. -/
def reach (f : Nat → Nat) : Nat → Nat → Nat → Nat
  | 0, reached, _ => reached
  | n + 1, reached, added =>
    if added = 0 then reached
    else
      let next := f added
      reach f n (reached ||| next) (next ^^^ (next &&& reached))

/-- Where matches end that begin at a place of `s`, in a text with `count` places.  An
unbounded repetition needs no more rounds than there are places. -/
def ends (count : Nat) : Moves → Nat → Nat
  | idle, s => s
  | stay places, s => s &&& places
  | step places, s => (s &&& places) <<< 1
  | andThen a b, s => b.ends count (a.ends count s)
  | either a b, s => a.ends count s ||| b.ends count s
  | again m least most, s =>
    let begun := times (m.ends count) least s
    let further := match most with
      | some most => most - least
      | none => count
    reach (m.ends count) further begun begun

/-- Repetitions of none or one, and at most one or any number, of such repetitions are one
repetition. -/
def repeatedly (m : Moves) (least : Nat) (most : Option Nat) : Moves :=
  let simple (least : Nat) (most : Option Nat) : Bool :=
    least ≤ 1 && (most == none || most == some 1)
  match m with
  | again inner least' most' =>
    if simple least most && simple least' most' then
      again inner (least * least') (if most == most' then most else none)
    else again m least most
  | _ => again m least most

end Moves

namespace Regex

/-! ## Matching -/

/-- The moves of the expression; `marks` says where each of its classes holds. -/
def moves (text : List Char) (marks : List (CharClass × Nat)) : Regex → Moves
  | empty => .idle
  | literal cs => cs.foldr (fun c m => .andThen (.step ((marks.lookup (.single c)).getD 0)) m) .idle
  | char k _ => .step ((marks.lookup k).getD 0)
  | anchor a => .stay (indices (fun (before, after) => a.holds before after) (sides text))
  | cat a b => .andThen (a.moves text marks) (b.moves text marks)
  | alt a b => .either (a.moves text marks) (b.moves text marks)
  | rep r least most _ => (r.moves text marks).repeatedly least most
  | capture r _ => r.moves text marks

def isMatch (r : Regex) (s : String) : Bool :=
  let text := s.toList
  let marks := r.classes.eraseDups.map fun k => (k, indices k.holds text)
  let count := text.length + 1
  (r.moves text marks).ends count ((1 <<< count) - 1) != 0

end Regex

end DocStore
