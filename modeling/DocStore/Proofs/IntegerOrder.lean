import DocStore.Proofs.Rounding
import DocStore.Proofs.SinglePredicate

/-!
The order of whole numbers.

Whole numbers are equal when the integers are, but they stand to each other as their nearest
doubles do, that is as the integers rounded to 53 binary digits.  So bounds and sorting go by
the rounded integers, and equality by the integers themselves:

    gt, gte, lt, lte hold ↔ the rounded integers stand so    (says_range)
    a filter holds ↔ the integers are the same               (says_filter_whole)

The order is exact but for different integers that round alike (ordersExactly_iff): these lie
beyond 2 ^ 53 and close together, tie when they are sorted, and of less, equal and greater
none holds.
-/

namespace DocStore

open Json (Object)
open DocStore.Filter
open Double (nearestInt)

/-! ## Bounds -/

/-- Whether the first integer is within the bound that the second one sets. -/
def Comparison.holds : Comparison → Int → Int → Bool
  | gt, a, b => b < a
  | gte, a, b => b ≤ a
  | lt, a, b => a < b
  | lte, a, b => a ≤ b

theorem Comparison.accepts_compare (op : Comparison) (a b : Int) :
    op.accepts (compare a b) = op.holds a b := by
  rcases Int.lt_trichotomy a b with h | rfl | h
  · have hle := Int.le_of_lt h
    rw [Int.compare_eq_lt.2 h]
    cases op <;> simp [accepts, holds, h, hle]
  · rw [Int.compare_eq_eq.2 rfl]
    cases op <;> simp [accepts, holds]
  · have hle := Int.le_of_lt h
    rw [Int.compare_eq_gt.2 h]
    cases op <;> simp [accepts, holds, h, hle]

/-! ## Whole numbers -/

namespace Json

/-- A whole number as a value. -/
abbrev whole (n : Int) (fits : -0x8000000000000000 ≤ n ∧ n < 0x10000000000000000) : Json :=
  .num (.whole n fits)

end Json

open Json (whole)

section

variable {a b : Int} (ha : -0x8000000000000000 ≤ a ∧ a < 0x10000000000000000)
  (hb : -0x8000000000000000 ≤ b ∧ b < 0x10000000000000000)

theorem order?_whole :
    (whole a ha).order? (whole b hb) = some (compare (nearestInt a) (nearestInt b)) := by
  have horder := Double.order_ofInt (by omega : a.natAbs < 2 ^ 65) (by omega : b.natAbs < 2 ^ 65)
  exact congrArg some horder

theorem sortOrder_whole :
    Json.sortOrder (some (whole a ha)) (some (whole b hb))
      = compare (nearestInt a) (nearestInt b) := by
  show ((whole a ha).order? (whole b hb)).getD .eq = _
  rw [order?_whole]
  rfl

variable {key : String} (hkey : key ≠ "") (hplain : startsWithDollar key = false)
  {doc : Object} (hdoc : Json.lookup doc key = some (whole a ha)) (coll : String)

include hkey hplain hdoc

/-- A bound is compared rounded. -/
theorem says_range (op : Comparison) :
    Says coll [.range op key (whole b hb)] doc (op.holds (nearestInt a) (nearestInt b)) := by
  have hvalid : (Predicate.range op key (whole b hb)).validate = .ok () :=
    Predicate.validate_of_key rfl hkey
  refine says_of_validate hvalid rfl ?_
  rw [matches?_range hplain, hdoc, ← op.accepts_compare]
  show Except.ok (((whole a ha).order? (whole b hb)).any op.accepts) = _
  rw [order?_whole]
  rfl

/-- A filter compares the integers as they are. -/
theorem says_filter_whole : Says coll [.filter [(key, whole b hb)]] doc (decide (a = b)) := by
  have hsays : Says coll [.filter [(key, whole b hb)]] doc
      (equals (Json.lookup doc key) (whole b hb)) := says_filter hkey hplain nofun
  rw [hdoc] at hsays
  exact hsays

end

/-! ## Where the order is exact -/

theorem compare_nearestInt {a b : Int} (h : nearestInt a = nearestInt b → a = b) :
    compare (nearestInt a) (nearestInt b) = compare a b := by
  rcases Int.lt_trichotomy a b with hlt | rfl | hgt
  · have hmono := Double.nearestInt_mono (Int.le_of_lt hlt)
    rw [Int.compare_eq_lt.2 hlt, Int.compare_eq_lt.2 (by omega)]
  · rw [Int.compare_eq_eq.2 rfl, Int.compare_eq_eq.2 rfl]
  · have hmono := Double.nearestInt_mono (Int.le_of_lt hgt)
    rw [Int.compare_eq_gt.2 hgt, Int.compare_eq_gt.2 (by omega)]

/-- A whole number in the field `key` stands to another one as the integers do: as values, to
each bound, and sorted; and it is less, the same or greater, and only one of these. -/
structure OrdersExactly (coll key : String) {a b : Int}
    (ha : -0x8000000000000000 ≤ a ∧ a < 0x10000000000000000)
    (hb : -0x8000000000000000 ≤ b ∧ b < 0x10000000000000000) : Prop where
  values : (whole a ha).order? (whole b hb) = some (compare a b)
  bounds : ∀ doc, Json.lookup doc key = some (whole a ha) → ∀ op,
    Says coll [.range op key (whole b hb)] doc (op.holds a b)
  one : ∀ doc, Json.lookup doc key = some (whole a ha) → ∃ less same greater,
    Says coll [.range .lt key (whole b hb)] doc less ∧
    Says coll [.filter [(key, whole b hb)]] doc same ∧
    Says coll [.range .gt key (whole b hb)] doc greater ∧
    [less, same, greater].count true = 1
  sorted : Json.sortOrder (some (whole a ha)) (some (whole b hb)) = .eq → a = b

/-- Whole numbers are ordered exactly, unless the integers differ and round alike.  Always they
stand to each other as the rounded integers, which keep the order but may tie, and are equal as
the integers are; and those that tie without being equal lie beyond 2 ^ 53 and close together. -/
theorem ordersExactly_iff (coll : String) {key : String} (hkey : key ≠ "")
    (hplain : startsWithDollar key = false) {a b : Int}
    (ha : -0x8000000000000000 ≤ a ∧ a < 0x10000000000000000)
    (hb : -0x8000000000000000 ≤ b ∧ b < 0x10000000000000000) :
    (OrdersExactly coll key ha hb ↔ (nearestInt a = nearestInt b → a = b)) ∧
    (whole a ha).order? (whole b hb) = some (compare (nearestInt a) (nearestInt b)) ∧
    Json.sortOrder (some (whole a ha)) (some (whole b hb))
      = compare (nearestInt a) (nearestInt b) ∧
    (∀ doc, Json.lookup doc key = some (whole a ha) →
      (∀ op, Says coll [.range op key (whole b hb)] doc
        (op.holds (nearestInt a) (nearestInt b))) ∧
      Says coll [.filter [(key, whole b hb)]] doc (decide (a = b))) ∧
    (a ≤ b → nearestInt a ≤ nearestInt b) ∧ (b ≤ a → nearestInt b ≤ nearestInt a) ∧
    (nearestInt a = nearestInt b → a ≠ b →
      2 ^ 53 ≤ a.natAbs ∧ 2 ^ 53 ≤ b.natAbs ∧ (a - b).natAbs ≤ 2048) := by
  have hrange : ∀ doc, Json.lookup doc key = some (whole a ha) → ∀ op,
      Says coll [.range op key (whole b hb)] doc (op.holds (nearestInt a) (nearestInt b)) :=
    fun _ hdoc => says_range ha hb hkey hplain hdoc coll
  have hfilter : ∀ doc, Json.lookup doc key = some (whole a ha) →
      Says coll [.filter [(key, whole b hb)]] doc (decide (a = b)) :=
    fun _ hdoc => says_filter_whole ha hb hkey hplain hdoc coll
  refine ⟨⟨fun h htie => ?_, fun h => ?_⟩, order?_whole ha hb, sortOrder_whole ha hb,
    fun doc hdoc => ⟨hrange doc hdoc, hfilter doc hdoc⟩, Double.nearestInt_mono,
    Double.nearestInt_mono, Double.near_of_nearestInt_eq (by omega) (by omega)⟩
  · refine h.sorted ?_
    rw [sortOrder_whole, Int.compare_eq_eq.2 htie]
  · have hexact := compare_nearestInt h
    have hbounds : ∀ doc, Json.lookup doc key = some (whole a ha) → ∀ op,
        Says coll [.range op key (whole b hb)] doc (op.holds a b) := by
      intro doc hdoc op
      rw [← op.accepts_compare, ← hexact, op.accepts_compare]
      exact hrange doc hdoc op
    refine ⟨?_, hbounds, fun doc hdoc => ?_, fun hsort => ?_⟩
    · rw [order?_whole, hexact]
    · refine ⟨_, _, _, hbounds doc hdoc .lt, hfilter doc hdoc, hbounds doc hdoc .gt, ?_⟩
      rcases Int.lt_trichotomy a b with hlt | rfl | hgt
      · simp [Comparison.holds, hlt, Int.ne_of_lt hlt, Int.le_of_lt hlt]
      · simp [Comparison.holds]
      · simp [Comparison.holds, hgt, Int.ne_of_gt hgt, Int.le_of_lt hgt]
    · rw [sortOrder_whole, hexact] at hsort
      exact Int.compare_eq_eq.1 hsort

/-- The least whole number against the greatest. -/
theorem ordersExactly_extremes :
    "n" ≠ "" ∧ startsWithDollar "n" = false ∧
    nearestInt (-0x8000000000000000) ≠ nearestInt 0xffffffffffffffff ∧
    OrdersExactly "c" "n" (a := -0x8000000000000000) (b := 0xffffffffffffffff)
      (by decide) (by decide) := by
  have hne : nearestInt (-0x8000000000000000) ≠ nearestInt 0xffffffffffffffff := by decide +kernel
  obtain ⟨hiff, -⟩ := ordersExactly_iff "c" (by decide : "n" ≠ "") (by decide)
    (a := -0x8000000000000000) (b := 0xffffffffffffffff) (by decide) (by decide)
  exact ⟨by decide, by decide, hne, hiff.2 fun htie => absurd htie hne⟩

/-- The first integer that is no double, in a field. -/
def beyond53 : Object :=
  [("n", whole 0x20000000000001 (by decide))]

/-- It ties with the one in front of it: it is not greater, nor less, nor the same. -/
theorem not_ordersExactly_beyond53 :
    Json.lookup beyond53 "n" = some (whole 0x20000000000001 (by decide)) ∧
    (whole 0x20000000000001 (by decide)).order? (whole 0x20000000000000 (by decide)) = some .eq ∧
    Says "c" [.range .lt "n" (whole 0x20000000000000 (by decide))] beyond53 false ∧
    Says "c" [.filter [("n", whole 0x20000000000000 (by decide))]] beyond53 false ∧
    Says "c" [.range .gt "n" (whole 0x20000000000000 (by decide))] beyond53 false ∧
    ¬ OrdersExactly "c" "n" (a := 0x20000000000001) (b := 0x20000000000000)
      (by decide) (by decide) := by
  refine ⟨rfl, rfl, ⟨_, rfl, rfl⟩, ⟨_, rfl, rfl⟩, ⟨_, rfl, rfl⟩, fun h => ?_⟩
  have hvalues := h.values
  have htie : (whole 0x20000000000001 (by decide)).order? (whole 0x20000000000000 (by decide))
    = some .eq := rfl
  rw [htie] at hvalues
  cases hvalues

end DocStore
