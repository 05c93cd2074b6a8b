import DocStore.Regex.Automaton
import DocStore.Regex.Openings

/-!
The size of a pattern: the bytes that automata for it would take, which have to stay below a
limit (`Regex.isTooLarge`).

Two automata count, one that reads the bytes of a text forward and one that reads them
backward.  A counted repetition builds its expression as often as it is counted, so that a
short pattern may be large.  A pattern that is decided by looking for texts needs neither.
-/

namespace DocStore.Regex

open Unicode (CodeSet)

inductive Direction where
  | forward
  | backward

/-! ## Plans of texts and classes -/

namespace Plan

/-- Words as they stand between those that are empty. -/
def chunks (ws : List (List UInt8)) : List (List (List UInt8)) :=
  ws.foldr (fun
    | [], cs => [] :: cs
    | w, c :: cs => (w :: c) :: cs
    | w, [] => [[w]]) [[]]

/-- A node of a tree of words and the nodes below it, from what is left of the words there, at
most `n` bytes each.  Where nothing is left a word ends; the words behind it come after it in
preference and begin a new chunk.  Ends before all else count once, and a node with ends alone
takes no state. -/
def wordNode : Nat → List (List UInt8) → Plan
  | 0, _ => nothing
  | n + 1, ws =>
    let longer := ws.dropWhile (·.isEmpty)
    if longer.isEmpty then nothing
    else
      let chunks := chunks (if longer.length < ws.length then [] :: longer else longer)
      let full := (chunks.filter (!·.isEmpty)).map fun c =>
        byHead (c.mergeSort fun v w => v.headD 0 ≤ w.headD 0)
      let below := full.flatMap fun c => c.map fun (_, ws) => wordNode n ws
      let states := full.map fun c =>
        fixed 1 (if c.length = 1 then 0 else Automaton.rangeSize * c.length)
      all (below ++ states ++ [fork (full.length + (chunks.length - 1))])

/-- The tree of words, and the state where all of them end. -/
def words (ws : List (List UInt8)) : Plan :=
  (plain 1).followed (wordNode (ws.foldl (fun n w => max n w.length) 0 + 1) ws)

/-- A class.  One below U+0080 is a state with its ranges, and one behind it. -/
def ofClass (d : Direction) (k : CharClass) : Plan :=
  if k.ranges.all fun r => r.2 < 0x80 then fixed 2 (Automaton.rangeSize * k.ranges.size)
  else
    match d with
    | .forward => tree (nodesOf (encodings k))
    | .backward => chains (encodings k)

/-- A choice between plans: two, a state before and a state behind them, and then more. -/
def choice : List Plan → Plan
  | [] => nothing
  | [p] => p
  | p :: q :: rest =>
    let more := rest.map fun r => r.followed (fixed 0 Automaton.linkSize)
    all ([p, q, fork 2, plain 1] ++ more)

end Plan

/-! ## Plans of expressions -/

/-- The fewest characters that a match takes; unknown where a class has no members. -/
def fewest? : Regex → Option Nat
  | empty => some 0
  | literal text => some text.length
  | char k _ => if CodeSet.isEmpty k then none else some 1
  | anchor _ => some 0
  | cat a b => do return (← a.fewest?) + (← b.fewest?)
  | alt a b => do return min (← a.fewest?) (← b.fewest?)
  | rep r least _ _ => r.fewest?.map (least * ·)
  | capture r _ => r.fewest?

/-- The plan of a repetition of `r`, which has the plan `p`. -/
def repetitionPlan (r : Regex) (p : Plan) (least : Nat) (most : Option Nat) : Plan :=
  match most with
  | none =>
    if 0 < least then (p.repeated least).followed (.fork 2)
    else if r.fewest?.any (0 < ·) then (Plan.fork 2).followed p
    else .all [p, .fork 2, .fork 2, .plain 1]
  | some most =>
    if least = most then p.repeated least
    else if least = 0 ∧ most = 1 then .all [.fork 2, p, .plain 1]
    else
      let begun := if least = 0 then .plain 1 else p.repeated least
      .all [begun, .plain 1, ((Plan.fork 2).followed p).repeated (most - least)]

/-- The plan of an expression from the plans of its branches; texts are built as one tree. -/
def joinedPlan (d : Direction) (r : Regex) (branches : List Plan) : Plan :=
  match r, r.branches.mapM literal? with
  | alt _ _, some texts =>
    let words := texts.map bytesOf
    .words (match d with
      | .forward => words
      | .backward => words.map List.reverse)
  | _, _ => .choice branches

/-- The plans of the branches of an expression.  Read backward, a sequence is built from its
end, and groups leave no states. -/
def branchPlans (d : Direction) : Regex → List Plan
  | empty => [.plain 1]
  | literal text => [.plain (bytesOf text).length]
  | char k _ => [.ofClass d k]
  | anchor _ => [.plain 1]
  | cat a b =>
    let p := joinedPlan d a (a.branchPlans d)
    let q := joinedPlan d b (b.branchPlans d)
    match d with
    | .forward => [p.followed q]
    | .backward => [q.followed p]
  | alt a b => a.branchPlans d ++ b.branchPlans d
  | rep r least most _ =>
    [repetitionPlan r (joinedPlan d r (r.branchPlans d)) least most]
  | capture r _ =>
    let p := joinedPlan d r (r.branchPlans d)
    match d with
    | .forward => [.all [.plain 1, p, .plain 1]]
    | .backward => [p]

def plan (d : Direction) (r : Regex) : Plan :=
  joinedPlan d r (r.branchPlans d)

/-! ## Sizes of patterns -/

/-- Whether a match can only begin, or for backward reading end, where the text does. -/
def isAnchored (d : Direction) : Regex → Bool
  | empty => false
  | literal _ => false
  | char _ _ => false
  | anchor a =>
    match d, a with
    | .forward, .textStart => true
    | .backward, .textEnd => true
    | _, _ => false
  | cat a b =>
    match d with
    | .forward => a.isAnchored d || a.isEmptyOnly && b.isAnchored d
    | .backward => b.isAnchored d || a.isAnchored d && b.isEmptyOnly
  | alt a b => a.isAnchored d && b.isAnchored d
  | rep r least _ _ => 0 < least && r.isAnchored d
  | capture r _ => r.isAnchored d

/-- The plan of the automaton of a pattern.  Unless the pattern is anchored, states before
those of the expression pass over what comes before a match; a state behind them ends the
match.  The whole is a group. -/
def automatonPlan (d : Direction) (r : Regex) : Plan :=
  let start :=
    if r.isAnchored d then .plain 1
    else .all [.fork 2, .plain 1, .fixed 1 Automaton.rangeSize]
  .all [start, (r.capture 0).plan d, .plain 1]

def automaton (d : Direction) (r : Regex) : Automaton :=
  (r.automatonPlan d).build ⟨0, 0⟩

/-- Whether one of the two automata is too large, for a pattern that needs them. -/
def isTooLarge (r : Regex) : Bool :=
  ((r.automaton .backward).isTooLarge || (r.automaton .forward).isTooLarge) && !r.isPlain

end DocStore.Regex
