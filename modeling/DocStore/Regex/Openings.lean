import DocStore.Regex.Encoding

/-!
Openings: texts of which every match of an expression begins with one (`Regex.openings`).

They are kept few and short; where that takes too much away, nothing is known.  When each is
a whole match and they are worth looking for, looking for them decides a pattern
(`Regex.isPlain`).
-/

namespace DocStore.Regex

open Unicode (CodeSet)

/-- What a match begins with; with `whole`, the match is no more than that. -/
structure Opening where
  text : List UInt8
  whole : Bool

/-- Openings in order of preference; `none` if nothing is known. -/
abbrev Openings : Type := Option (List Opening)

/-! ## Limits -/

/-- Members of a class, rounds of a repetition, bytes of an opening, and openings. -/
def memberLimit : Nat := 10

def roundLimit : Nat := 10

def textLimit : Nat := 100

def openingLimit : Nat := 250

/-! ## Operations -/

namespace Opening

/-- The first `n` bytes. -/
def cut (n : Nat) (o : Opening) : Opening :=
  if n < o.text.length then ⟨o.text.take n, false⟩ else o

/-- One opening behind another, if that is whole. -/
def followed (o p : Opening) : Opening :=
  ⟨o.text ++ p.text, p.whole⟩

/-- Equal texts side by side made one. -/
def merge (os : List Opening) : List Opening :=
  os.foldr (fun
    | o, p :: rest =>
      if o.text = p.text then ⟨p.text, o.whole && p.whole⟩ :: rest else o :: p :: rest
    | o, [] => [o]) []

end Opening

namespace Openings

/-- The opening of a match that is empty. -/
def unit : Openings := some [⟨[], true⟩]

def partly (s : Openings) : Openings :=
  s.map fun os => os.map fun o => { o with whole := false }

/-- Whether nothing that comes behind can be told. -/
def isPartial (s : Openings) : Bool :=
  s.all fun os => os.all fun o => !o.whole

/-- Openings of one expression behind another. -/
def cross (s t : Openings) : Openings :=
  s.bind fun os =>
    match t.filter fun ps => os.length * ps.length ≤ openingLimit with
    | none => if os.any (·.text.isEmpty) then none else partly s
    | some ps =>
      let longer := os.flatMap fun o => if o.whole then ps.map o.followed else [o]
      some ((Opening.merge longer).map (Opening.cut textLimit))

/-- Openings of one of two expressions.  Too many are cut to four bytes. -/
def union (s t : Openings) : Openings :=
  s.bind fun os => t.bind fun ps =>
    if os.length + ps.length ≤ openingLimit then some (Opening.merge (os ++ ps))
    else
      let os := Opening.merge (os.map (Opening.cut 4))
      let ps := Opening.merge (ps.map (Opening.cut 4))
      if os.length + ps.length ≤ openingLimit then some (Opening.merge (os ++ ps)) else none

/-- One more expression behind openings, which tells nothing once all of them are partial. -/
def behind (s t : Openings) : Openings :=
  if s.isPartial then s else s.cross t

def ofLiteral (text : List Char) : Openings :=
  some [Opening.cut textLimit ⟨bytesOf text, true⟩]

def ofClass (k : CharClass) : Openings :=
  let ranges := k.ranges.toList
  if ranges.foldl (fun n r => n + (r.2 + 1 - r.1)) 0 ≤ memberLimit then
    some (ranges.flatMap fun (first, last) =>
      (List.range' first (last + 1 - first)).map fun n => ⟨bytesOf [Char.ofNat n], true⟩)
  else none

def ofRepetition (s : Openings) (least : Nat) (most : Option Nat) (greedy : Bool) : Openings :=
  if least = 0 then
    let s := if most = some 1 then s else s.partly
    if greedy then s.union unit else unit.union s
  else
    let t := (List.range (min least roundLimit)).foldl (fun t _ => t.behind s) unit
    if most = some least ∧ least ≤ roundLimit then t else t.partly

end Openings

/-! ## Openings of expressions -/

/-- How the openings of an expression come to those read before it. -/
inductive Joint where
  | alone
  | behind
  | beside

def Joint.apply : Joint → Openings → Openings → Openings
  | alone, _, t => t
  | behind, s, t => s.behind t
  | beside, s, t => s.union t

/-- The openings of an expression, joined to those before it.  The parts of a sequence and
the branches of a choice are joined one by one. -/
def openings : Regex → Joint → Openings → Openings
  | empty, j, s => j.apply s .unit
  | literal text, j, s => j.apply s (.ofLiteral text)
  | char k _, j, s => j.apply s (.ofClass k)
  | anchor _, j, s => j.apply s .unit
  | cat a b, .behind, s => b.openings .behind (a.openings .behind s)
  | cat a b, j, s => j.apply s (b.openings .behind (a.openings .behind .unit))
  | alt a b, .beside, s => b.openings .beside (a.openings .beside s)
  | alt a b, j, s => j.apply s (b.openings .beside (a.openings .beside (some [])))
  | rep r least most greedy, j, s =>
    j.apply s (.ofRepetition (r.openings .alone .unit) least most greedy)
  | capture r _, j, s => j.apply s (r.openings .alone .unit)

/-! ## Openings to look for -/

/-- Whether a byte is common in texts, as all are that begin a longer encoding. -/
def isCommon (b : UInt8) : Bool :=
  0x80 ≤ b || (bytesOf "\n\r (),-./0129:_abcdefghilmnoprstuvxy|".toList).contains b

namespace Opening

/-- The openings without those that begin with an earlier one. -/
def minimal (os : List Opening) : List Opening :=
  (os.foldl (fun kept o =>
    if kept.any fun p => p.text.isPrefixOf o.text then kept else o :: kept) []).reverse

/-- The bytes that all openings begin with. -/
def sharedStart : List Opening → List UInt8
  | [] => []
  | o :: os => os.foldl (fun start p => commonStart start p.text) o.text

/-- Cut the openings as long as there are more than a limit. -/
def shortened (os : List Opening) : List (Nat × Nat) → List Opening
  | [] => os
  | (length, limit) :: rest =>
    if os.length ≤ limit then os else shortened (minimal (os.map (cut length))) rest

/-- Whether the openings, made better to look for, are still whole matches.  All of them are
replaced by a rare byte or a long text that they begin with; otherwise they are shortened, but
not to texts that are too short or too many. -/
def suffice (os : List Opening) : Bool :=
  let least := minimal os
  let start := sharedStart least
  let areWhole (os : List Opening) : Bool := os.all (·.whole)
  let replaced (n : Nat) : List Opening := merge (least.map (cut n))
  if os.isEmpty || os.any (·.text.isEmpty) then false
  else if 1 < os.length && start.length ≤ 3 && start.head?.any (!isCommon ·) then
    areWhole (replaced 1)
  else
    let areFew := areWhole least && least.length ≤ 16
    let chosen :=
      if 4 < start.length || (1 < start.length && !areFew) then replaced start.length else least
    let short := shortened chosen [(5, 10), (4, 10), (3, 64), (2, 64), (1, 10)]
    let areWorse := short.any (·.text.length ≤ 2) || 64 < short.length
    areWhole chosen && (areWorse || areWhole short)

end Opening

/-- Whether the expression has a group that captures or an anchor. -/
def marksPlaces : Regex → Bool
  | anchor _ => true
  | cat a b => a.marksPlaces || b.marksPlaces
  | alt a b => a.marksPlaces || b.marksPlaces
  | rep r _ _ _ => r.marksPlaces
  | capture _ _ => true
  | _ => false

/-- Texts that are as many as this are looked for at once. -/
def manyTexts : Nat := 3000

/-- Whether looking for texts decides whether the expression matches. -/
def isPlain (r : Regex) : Bool :=
  !r.marksPlaces &&
    ((r.openings .beside (some [])).any Opening.suffice ||
      (r.branches.mapM literal?).any fun texts => manyTexts ≤ texts.length)

end DocStore.Regex
