import DocStore.Number.Double

/-!
The fewest decimal digits that read back to a double (`Double.shortest`), and their
layout as text (`Double.text`).

For 1, 2, … digits the two decimals around the value are tried; the first length at
which one of them reads back wins, and of two the nearer.
-/

namespace DocStore

/-- The number `digits * 10 ^ exponent`. -/
structure Decimal where
  digits : Nat
  exponent : Int
  deriving DecidableEq

namespace Double

/-! ## Digits -/

/-- How many decimal digits a natural has. -/
def digitCount (n : Nat) : Nat :=
  (Nat.toDigits 10 n).length

/-- The greatest `e` with `10 ^ e ≤ num / den`. -/
def decimalExponent (num den : Nat) : Int :=
  if den ≤ num then (digitCount (num / den) : Int) - 1
  else -(digitCount ((den + num - 1) / num - 1) : Int)

/-- The decimals of `count` digits next to the value `num / den` that read back to
`x`, nearest first. -/
def nearbyDecimal? (x : Double) (num den : Nat) (count : Nat) : Option Decimal :=
  let p := decimalExponent num den - ((count : Int) - 1)
  let (n, d) := (num * Nat.pow 10 (-p).toNat, den * Nat.pow 10 p.toNat)
  let low := n / d
  let rest := n % d
  let upFirst : Bool := d < 2 * rest ∨ (2 * rest = d ∧ low % 2 = 1)
  let tries := if upFirst then [low + 1, low] else [low, low + 1]
  let readsBack (c : Nat) : Bool := ofDecimal? x.negative c p == some x
  (tries.find? readsBack).map (⟨·, p⟩)

/-- The shortest decimal that reads back to `x`, without its sign.  Seventeen digits
always read back. -/
def shortest (x : Double) : Decimal :=
  let (num, den) := scaleTwo x.significand x.exponent
  ((List.range 17).findSome? fun k => nearbyDecimal? x num den (k + 1)).getD ⟨0, 0⟩

/-! ## Layout -/

/-- Which numbers are written positionally, by the exponent of their first digit. -/
structure Layout where
  lowest : Int
  above : Int

/-- Documents write 0.00001 up to below 10 ^ 16 positionally. -/
def documentLayout : Layout := ⟨-5, 16⟩

def zeros (n : Nat) : String :=
  String.ofList (List.replicate n '0')

/-- Positional text with at least one place after the point.  `first` is the exponent
of the first digit. -/
def positional (digits : List Char) (first : Int) : String :=
  if first < 0 then
    "0." ++ zeros (-first - 1).toNat ++ String.ofList digits
  else
    let whole := first.toNat + 1
    let front := String.ofList (digits.take whole) ++ zeros (whole - digits.length)
    let back := digits.drop whole
    front ++ "." ++ (if back.isEmpty then "0" else String.ofList back)

/-- One digit, the others after a point, and the exponent with its sign. -/
def scientific (digits : List Char) (first : Int) : String :=
  let tail := digits.drop 1
  String.ofList (digits.take 1)
    ++ (if tail.isEmpty then "" else "." ++ String.ofList tail)
    ++ (if first < 0 then "e-" else "e+") ++ first.natAbs.repr

/-- The text of a double in a layout: its shortest decimal, trailing zeros dropped. -/
def textIn (layout : Layout) (x : Double) : String :=
  let sign := if x.negative then "-" else ""
  if x.isZero then sign ++ "0.0"
  else
    let d := x.shortest
    let all := Nat.toDigits 10 d.digits
    let first : Int := d.exponent + (all.length : Int) - 1
    let digits := (all.reverse.dropWhile (· == '0')).reverse
    sign ++ (if layout.lowest ≤ first ∧ first < layout.above then positional digits first
      else scientific digits first)

/-- The text of a double in a document. -/
def text (x : Double) : String :=
  x.textIn documentLayout

end Double

end DocStore
