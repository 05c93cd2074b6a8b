import DocStore.Number.Shortest

/-!
Numbers of a document: whole numbers that fit a 64-bit word, signed or unsigned, and
finite doubles.

The two kinds are never equal (`Number.same`); they are compared through the nearest
doubles (`Number.order`).
-/

namespace DocStore

inductive Number where
  | whole (n : Int) (fits : -0x8000000000000000 ≤ n ∧ n < 0x10000000000000000)
  | real (x : Double)
  deriving DecidableEq

namespace Number

def ofInt? (n : Int) : Option Number :=
  if h : -0x8000000000000000 ≤ n ∧ n < 0x10000000000000000 then some (whole n h) else none

/-- An unsigned word as a number. -/
def ofWord (w : UInt64) : Number :=
  whole w.toNat ⟨by omega, by have := w.toNat_lt; omega⟩

def toDouble : Number → Double
  | whole n _ => .ofInt n
  | real x => x

/-- Equality of values within one kind. -/
def same : Number → Number → Bool
  | whole a _, whole b _ => a == b
  | real x, real y => x.same y
  | _, _ => false

def order (a b : Number) : Ordering :=
  a.toDouble.order b.toDouble

def text : Number → String
  | whole n _ => n.repr
  | real x => x.text

/-- The number written `± digits * 10 ^ exponent`.  Without a point or an exponent it is
whole where a word holds it, but a negative zero is a double. -/
def ofNumeral? (negative integral : Bool) (digits : Nat) (exponent : Int) : Option Number :=
  let asDouble := (Double.ofDecimal? negative digits exponent).map real
  if integral ∧ ¬ (negative ∧ digits = 0) then
    (ofInt? (if negative then -(digits : Int) else digits)).or asDouble
  else asDouble

/-! ## Sums -/

/-- A running sum: the sum in doubles, none once it has left their range, and the sum in
signed words, none once a member or the sum has left theirs. -/
structure Tally where
  real : Option Double
  whole : Option Int

def isSignedWord (n : Int) : Bool :=
  -0x8000000000000000 ≤ n ∧ n < 0x8000000000000000

def Tally.add (t : Tally) (n : Number) : Tally where
  real := t.real.bind (·.add? n.toDouble)
  whole := do
    let total ← t.whole
    match n with
    | .whole k _ => if isSignedWord k ∧ isSignedWord (total + k) then some (total + k) else none
    | .real _ => none

/-- The sum of numbers: whole if it stays among the signed words throughout, else a
double, and 0 if that overflows. -/
def sum (ns : List Number) : Number :=
  let t := ns.foldl Tally.add ⟨some (.zero false), some 0⟩
  match t.whole.bind ofInt? with
  | some n => n
  | none =>
    match t.real with
    | some x => real x
    | none => whole 0 (by decide)

end Number

end DocStore
