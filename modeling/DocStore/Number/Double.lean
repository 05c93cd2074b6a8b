/-!
Finite doubles in exact arithmetic.

A double is held by its sign and the 63 bits below the sign (`Double`).  Read as a
natural number these bits grow with the value, so the order of the doubles is the
order of `Double.rank`, and the two zeros share a rank.  Every operation computes
the exact result in the naturals and rounds it once (`roundRatio`): to the nearest
double, and of two nearest to the one with the even significand.
-/

namespace DocStore

/-- A finite double: sign, and exponent field and fraction as one number, which lies below
that of infinity. -/
structure Double where
  negative : Bool
  magnitude : Nat
  finite : magnitude < 0x7ff0000000000000
  deriving DecidableEq

namespace Double

/-! ## Value and order

The fraction field has 52 bits, so the numbers in it lie below 0x10000000000000. -/

/-- The value without its sign is `significand * 2 ^ exponent`. -/
def significand (x : Double) : Nat :=
  if x.magnitude < 0x10000000000000 then x.magnitude
  else 0x10000000000000 + x.magnitude % 0x10000000000000

@[inherit_doc significand]
def exponent (x : Double) : Int :=
  if x.magnitude < 0x10000000000000 then -1074
  else (x.magnitude / 0x10000000000000 : Nat) - 1075

/-- Place of a double in the order of the values; both zeros stand at 0. -/
def rank (x : Double) : Int :=
  if x.negative then -(x.magnitude : Int) else x.magnitude

/-- Equality of values: the zeros are equal. -/
def same (x y : Double) : Bool :=
  x.rank == y.rank

def order (x y : Double) : Ordering :=
  compare x.rank y.rank

def isZero (x : Double) : Bool :=
  x.magnitude == 0

def zero (negative : Bool) : Double :=
  ⟨negative, 0, by decide⟩

/-! ## Rounding -/

/-- `num / den` to the nearest natural, a half to the even one. -/
def roundQuotient (num den : Nat) : Nat :=
  let floor := num / den
  let rest := num % den
  if den < 2 * rest ∨ (2 * rest = den ∧ floor % 2 = 1) then floor + 1 else floor

/-- The numerator and denominator of `m * 2 ^ q`. -/
def scaleTwo (m : Nat) (q : Int) : Nat × Nat :=
  (m * Nat.pow 2 q.toNat, Nat.pow 2 (-q).toNat)

/-- The exponent of the grid on which `num / den` is rounded: 53 bits above it, or
the lowest grid there is. -/
def gridExponent (num den : Nat) : Int :=
  let e : Int := num.log2 - den.log2
  let (n, d) := scaleTwo den e
  max (if n ≤ num * d then e - 52 else e - 53) (-1074)

/-- The magnitude of the double nearest to `num / den`.  A significand that rounds
up to 2 ^ 53 carries into the exponent field, which is the next double. -/
def roundRatio (num den : Nat) : Nat :=
  if num = 0 then 0 else
    let q := gridExponent num den
    let (n, d) := scaleTwo den q
    (q + 1074).toNat * 0x10000000000000 + roundQuotient (num * d) n

/-- The double nearest to `± num / den`, unless that lies beyond all of them. -/
def ofRatio? (negative : Bool) (num den : Nat) : Option Double :=
  let m := roundRatio num den
  if h : m < 0x7ff0000000000000 then some ⟨negative, m, h⟩ else none

/-- The double nearest to an integer; the greatest one where the integer lies beyond
all doubles. -/
def ofInt (n : Int) : Double :=
  ⟨n < 0, min (roundRatio n.natAbs 1) 0x7fefffffffffffff, by omega⟩

/-- The double nearest to `± digits * 10 ^ exponent`.  Exponents far outside the range
are answered without computing the power. -/
def ofDecimal? (negative : Bool) (digits : Nat) (exponent : Int) : Option Double :=
  if digits = 0 then some (zero negative)
  else if 400 < exponent then none
  else if exponent < -(400 + digits.log2 : Int) then some (zero negative)
  else ofRatio? negative (digits * Nat.pow 10 exponent.toNat) (Nat.pow 10 (-exponent).toNat)

/-- The sum, rounded once; a sum of two negative zeros keeps the sign. -/
def add? (x y : Double) : Option Double :=
  let q := min x.exponent y.exponent
  let part (z : Double) : Int :=
    let m : Int := (z.significand * Nat.pow 2 (z.exponent - q).toNat : Nat)
    if z.negative then -m else m
  let total := part x + part y
  if total = 0 then some (zero (x.negative && y.negative))
  else
    let (num, den) := scaleTwo total.natAbs q
    ofRatio? (total < 0) num den

end Double

end DocStore
