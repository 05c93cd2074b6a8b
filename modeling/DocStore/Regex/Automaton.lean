import Std.Data.HashMap
import DocStore.Regex.Encoding

/-!
Automata as far as their size goes: states, and the bytes that they take.

States are numbered as they are made.  Whether a class uses a state again depends on the
numbers (`Recent`), so what is built in which order is written down first (`Plan`) and then
built (`Plan.build`).
-/

namespace DocStore.Regex

/-! ## Automata -/

/-- An automaton that is being built: its states, and the bytes that they take beside their
own. -/
structure Automaton where
  states : Nat
  bytes : Nat

namespace Automaton

/-- Bytes of a state, of a link of a state to one of several, and of a byte range with a
link. -/
def stateSize : Nat := 32

def linkSize : Nat := 4

def rangeSize : Nat := 8

/-- The most bytes that an automaton may take: ten times 2^20. -/
def sizeLimit : Nat := 10485760

def add (x : Automaton) (states bytes : Nat) : Automaton :=
  ⟨x.states + states, x.bytes + bytes⟩

def isTooLarge (x : Automaton) : Bool :=
  sizeLimit < stateSize * x.states + x.bytes

end Automaton

/-! ## States of classes -/

/-- States made for a class, each as what it holds and its number.  What a state holds tells
its slot, and a slot keeps the last state that fell on it. -/
abbrev Recent : Type := Std.HashMap UInt64 (List Nat × Nat)

namespace Recent

/-- Slots for the states of a tree, and for those of chains. -/
def treeSlots : UInt64 := 10000

def chainSlots : UInt64 := 1000

def hash (key : List Nat) : UInt64 :=
  key.foldl (fun h n => (h ^^^ n.toUInt64) * 1099511628211) 14695981039346656037

/-- The number of the state that holds `key`.  Unless its slot has it, it is made anew, with
so many bytes beside its own. -/
def state (slots : UInt64) (key : List Nat) (bytes : Nat) (seen : Recent) (x : Automaton) :
    Nat × Recent × Automaton :=
  let slot := hash key % slots
  match seen[slot]?.filter fun made => made.1 = key with
  | some made => (made.2, seen, x)
  | none => (x.states, seen.insert slot (key, x.states), x.add 1 bytes)

end Recent

namespace Automaton

/-- A state for each node of a tree of encodings, behind the state where all of them end. -/
def addTree (x : Automaton) (nodes : Array Node) : Automaton :=
  let stop := x.states
  let step := fun (numbers, seen, x) (node : Node) =>
    let key := node.flatMap fun ((first, last), below) =>
      [first, last, (below.map fun i => numbers.getD i stop).getD stop]
    let (n, seen, x) := Recent.state Recent.treeSlots key (rangeSize * node.length) seen x
    (numbers.push n, seen, x)
  (nodes.foldl step ((#[] : Array Nat), (∅ : Recent), x.add 1 0)).2.2

/-- A state that branches to the encodings, the state where all of them end, and a state for
each range of an encoding.  Bytes are read from the last one on, so that a state leads to the
range before it, and the first range to the end. -/
def addChains (x : Automaton) (es : List (List ByteRange)) : Automaton :=
  let stop := x.states + 1
  let step := fun (seen, x) (e : List ByteRange) =>
    let (_, seen, x) := e.foldl (fun (n, seen, x) (first, last) =>
      Recent.state Recent.chainSlots [n, first, last] 0 seen x) (stop, seen, x)
    (seen, x.add 0 linkSize)
  (es.foldl step ((∅ : Recent), x.add 2 0)).2

end Automaton

/-! ## Plans -/

/-- What is built, in the order in which it is built: states that are the same wherever they
stand, a class as a tree or as chains, one plan behind another, and a plan several times. -/
inductive Plan where
  | fixed (states bytes : Nat)
  | tree (nodes : Array Node)
  | chains (es : List (List ByteRange))
  | andThen (p q : Plan)
  | times (n : Nat) (p : Plan)

namespace Plan

/-- States that have only themselves, and a state with `n` links. -/
def plain (states : Nat) : Plan := fixed states 0

def fork (n : Nat) : Plan := fixed 1 (n * Automaton.linkSize)

def nothing : Plan := plain 0

/-- One plan behind another. -/
def followed : Plan → Plan → Plan
  | fixed s b, fixed s' b' => fixed (s + s') (b + b')
  | p, q => andThen p q

def all (ps : List Plan) : Plan :=
  ps.foldr followed nothing

def repeated (n : Nat) : Plan → Plan
  | fixed s b => fixed (n * s) (n * b)
  | p => times n p

/-- Build `n` times; an automaton that is too large needs no more. -/
def rounds (build : Automaton → Automaton) : Nat → Automaton → Automaton
  | 0, x => x
  | n + 1, x => if x.isTooLarge then x else rounds build n (build x)

def build : Plan → Automaton → Automaton
  | fixed states bytes, x => x.add states bytes
  | tree nodes, x => x.addTree nodes
  | chains es, x => x.addChains es
  | andThen p q, x => q.build (p.build x)
  | times n p, x => rounds p.build n x

end Plan

end DocStore.Regex
