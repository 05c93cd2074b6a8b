import DocStore.Json

/-!
Orders on values.

* `Json.order?` compares values of one kind; values of different kinds, arrays, and
  objects that are no identifiers are unordered.
* `Json.sortOrder` compares any two fields for sorting: kinds in a fixed order, a missing
  field with the nulls, and unordered values of one kind alike.
-/

namespace DocStore

/-! ## Comparisons -/

/-- A one-sided bound. -/
inductive Comparison where
  | gt | gte | lt | lte
  deriving DecidableEq

namespace Comparison

def tag : Comparison → String
  | gt => "gt"
  | gte => "gte"
  | lt => "lt"
  | lte => "lte"

/-- The name of a comparison in filters. -/
def operator (op : Comparison) : String :=
  "$" ++ op.tag

/-- Whether a value that stands to the bound in this order is within it. -/
def accepts : Comparison → Ordering → Bool
  | gt, o => o == .gt
  | gte, o => o != .lt
  | lt, o => o == .lt
  | lte, o => o != .gt

end Comparison

/-! ## Values -/

/-- The key of the one entry that makes an object an identifier. -/
def oidKey : String := "$oid"

namespace Json

/-- The text of an identifier object. -/
def oidText? (o : Object) : Option String :=
  (o.get? oidKey).bind string?

def order? : Json → Json → Option Ordering
  | num a, num b => some (a.order b)
  | str a, str b => some (compare a b)
  | bool a, bool b => some (compare a.toNat b.toNat)
  | obj o, obj p =>
    match oidText? o, oidText? p with
    | some a, some b => some (compare a b)
    | _, _ => none
  | _, _ => none

/-- The place of a value's kind in the sort order. -/
def sortRank : Option Json → Nat
  | none | some null => 0
  | some (bool _) => 1
  | some (num _) => 2
  | some (str _) => 3
  | some (arr _) => 4
  | some (obj _) => 5

def sortOrder (a b : Option Json) : Ordering :=
  if sortRank a = sortRank b then
    match a, b with
    | some v, some w => (order? v w).getD .eq
    | _, _ => .eq
  else compare (sortRank a) (sortRank b)

end Json

end DocStore
