import DocStore.Number.Double
import Mathlib.Algebra.Order.Ring.Nat
import Mathlib.Tactic.Ring

/-!
Integers as doubles.

A double has 53 binary digits, so an integer with more of them is rounded to a multiple of
a power of two, a half to the even one (`Double.nearestInt`).  The bits of the nearest
doubles stand to each other as these integers do:

    (ofInt a).order (ofInt b) = compare (nearestInt a) (nearestInt b)
                                                             (order_ofInt)
    a ≤ b → nearestInt a ≤ nearestInt b                      (nearestInt_mono)

So integers with the same double lie close together, and beyond 2 ^ 53
                                                             (near_of_nearestInt_eq).
-/

namespace DocStore.Double

/-! ## Rounded quotients -/

theorem roundQuotient_mono {m n : Nat} (h : m ≤ n) (den : Nat) :
    roundQuotient m den ≤ roundQuotient n den := by
  have hfloor : m / den ≤ n / den := Nat.div_le_div_right h
  have hm := Nat.div_add_mod m den
  have hn := Nat.div_add_mod n den
  unfold roundQuotient
  simp only
  rcases hfloor.lt_or_eq with hlt | heq
  · split <;> split <;> omega
  · -- the same floor, so the rests decide
    rw [heq] at hm ⊢
    split <;> split <;> omega

theorem roundQuotient_mul (k : Nat) {den : Nat} (hden : 0 < den) :
    roundQuotient (k * den) den = k := by
  unfold roundQuotient
  simp only [Nat.mul_mod_left, Nat.mul_div_cancel k hden]
  rw [if_neg (by omega)]

/-- A rounded quotient is off by no more than half. -/
theorem roundQuotient_near (num : Nat) {den : Nat} (hden : 0 < den) :
    2 * num ≤ 2 * (roundQuotient num den * den) + den ∧
    2 * (roundQuotient num den * den) ≤ 2 * num + den := by
  have hnum := Nat.div_add_mod' num den
  have hrest := Nat.mod_lt num hden
  have hnext := Nat.add_one_mul (num / den) den
  unfold roundQuotient
  simp only
  split <;> omega

/-! ## Naturals to 53 digits -/

/-- The power of two to whose multiples a natural is rounded, so that 53 digits are left. -/
def unit (n : Nat) : Nat :=
  2 ^ (n.log2 - 52)

/-- The natural that the double nearest to `n` stands for. -/
def nearestNat (n : Nat) : Nat :=
  roundQuotient n (unit n) * unit n

theorem unit_pos (n : Nat) : 0 < unit n :=
  Nat.two_pow_pos _

theorem nearestNat_zero : nearestNat 0 = 0 := rfl

theorem nearestNat_of_dvd {n : Nat} (h : unit n ∣ n) : nearestNat n = n := by
  obtain ⟨k, hk⟩ := h
  have hround := roundQuotient_mul k (unit_pos n)
  rw [Nat.mul_comm, ← hk] at hround
  unfold nearestNat
  rw [hround, Nat.mul_comm, ← hk]

theorem nearestNat_near (n : Nat) :
    2 * n ≤ 2 * nearestNat n + unit n ∧ 2 * nearestNat n ≤ 2 * n + unit n :=
  roundQuotient_near n (unit_pos n)

/-- Naturals of up to 53 digits, and the least one with 54, are doubles. -/
theorem nearestNat_of_le {n : Nat} (h : n ≤ 2 ^ 53) : nearestNat n = n := by
  rcases h.lt_or_eq with hlt | rfl
  · have hone : unit n = 1 := by
      have hlog : n.log2 < 53 := by
        by_cases hn : n = 0
        · subst hn
          decide
        · exact (Nat.log2_lt hn).2 hlt
      unfold unit
      rw [Nat.sub_eq_zero_of_le (by omega), Nat.pow_zero]
    exact nearestNat_of_dvd (by rw [hone]; exact Nat.one_dvd n)
  · refine nearestNat_of_dvd ?_
    unfold unit
    rw [Nat.log2_two_pow]
    exact Nat.pow_dvd_pow 2 (by decide)

theorem unit_le {n : Nat} (h : n < 2 ^ 64) : unit n ≤ 2048 := by
  by_cases hn : n = 0
  · subst hn
    decide
  · have hlog : n.log2 < 64 := (Nat.log2_lt hn).2 h
    exact Nat.pow_le_pow_right (by decide) (by omega : n.log2 - 52 ≤ 11)

/-! ## The bits of the nearest double -/

/-- The 53 digits that are left of a natural. -/
def digits (n : Nat) : Nat :=
  roundQuotient (n * 2 ^ (52 - n.log2)) (unit n)

theorem gridExponent_one {n : Nat} (hn : n ≠ 0) : gridExponent n 1 = (n.log2 : Int) - 52 := by
  have hle : 2 ^ n.log2 ≤ n := Nat.log2_self_le hn
  have hone : Nat.log2 1 = 0 := rfl
  unfold gridExponent scaleTwo
  simp [hone, hle]
  omega

theorem roundRatio_one {n : Nat} (hn : n ≠ 0) :
    roundRatio n 1 = (n.log2 + 1022) * 0x10000000000000 + digits n := by
  have hplace : ((n.log2 : Int) - 52 + 1074).toNat = n.log2 + 1022 := by omega
  have hup : (-((n.log2 : Int) - 52)).toNat = 52 - n.log2 := by omega
  have hdown : ((n.log2 : Int) - 52).toNat = n.log2 - 52 := by omega
  unfold roundRatio
  rw [if_neg hn, gridExponent_one hn]
  simp only [scaleTwo, hplace, hup, hdown, Nat.one_mul]
  rfl

/-- Where the digits stand, they make up the rounded natural. -/
theorem digits_mul (n : Nat) : digits n * 2 ^ n.log2 = nearestNat n * 2 ^ 52 := by
  unfold digits nearestNat unit
  rcases Nat.le_total n.log2 52 with h | h
  · have hwhole : ∀ k, roundQuotient k (2 ^ 0) = k := fun k => by
      simpa using roundQuotient_mul k Nat.one_pos
    rw [Nat.sub_eq_zero_of_le h, hwhole, hwhole, Nat.mul_assoc, ← Nat.pow_add,
      Nat.sub_add_cancel h, Nat.pow_zero, Nat.mul_one]
  · rw [Nat.sub_eq_zero_of_le h, Nat.pow_zero, Nat.mul_one, Nat.mul_assoc, ← Nat.pow_add,
      Nat.sub_add_cancel h]

/-- The first of the 53 digits is 1, unless they were rounded up to the next power of two. -/
theorem digits_bounds {n : Nat} (hn : n ≠ 0) : 2 ^ 52 ≤ digits n ∧ digits n ≤ 2 ^ 53 := by
  have hscale : 2 ^ n.log2 * 2 ^ (52 - n.log2) = 2 ^ 52 * unit n := by
    unfold unit
    rw [← Nat.pow_add, ← Nat.pow_add]
    congr 1
    omega
  have hlow : 2 ^ 52 * unit n ≤ n * 2 ^ (52 - n.log2) := by
    rw [← hscale]
    exact Nat.mul_le_mul_right _ (Nat.log2_self_le hn)
  have hhigh : n * 2 ^ (52 - n.log2) ≤ 2 ^ 53 * unit n := by
    have hlt : n ≤ 2 ^ n.log2 * 2 := by
      have := Nat.lt_log2_self (n := n)
      omega
    calc n * 2 ^ (52 - n.log2)
        ≤ 2 ^ n.log2 * 2 * 2 ^ (52 - n.log2) := Nat.mul_le_mul_right _ hlt
      _ = 2 ^ 53 * unit n := by rw [Nat.mul_right_comm, hscale]; ring
  unfold digits
  constructor
  · rw [← roundQuotient_mul (2 ^ 52) (unit_pos n)]
    exact roundQuotient_mono hlow _
  · rw [← roundQuotient_mul (2 ^ 53) (unit_pos n)]
    exact roundQuotient_mono hhigh _

theorem nearestNat_bounds {n : Nat} (hn : n ≠ 0) :
    2 ^ n.log2 ≤ nearestNat n ∧ nearestNat n ≤ 2 ^ (n.log2 + 1) := by
  obtain ⟨hlow, hhigh⟩ := digits_bounds hn
  have hmul := digits_mul n
  constructor
  · refine Nat.le_of_mul_le_mul_right ?_ (Nat.two_pow_pos 52)
    rw [← hmul, Nat.mul_comm]
    exact Nat.mul_le_mul_right _ hlow
  · refine Nat.le_of_mul_le_mul_right ?_ (Nat.two_pow_pos 52)
    rw [← hmul]
    calc digits n * 2 ^ n.log2 ≤ 2 ^ 53 * 2 ^ n.log2 := Nat.mul_le_mul_right _ hhigh
      _ = 2 ^ (n.log2 + 1) * 2 ^ 52 := by ring

theorem nearestNat_mono {m n : Nat} (h : m ≤ n) : nearestNat m ≤ nearestNat n := by
  by_cases hm : m = 0
  · rw [hm, nearestNat_zero]
    exact Nat.zero_le _
  have hn : n ≠ 0 := by omega
  have hlog : m.log2 ≤ n.log2 := (Nat.le_log2 hn).2 ((Nat.log2_self_le hm).trans h)
  rcases hlog.lt_or_eq with hlt | heq
  · calc nearestNat m ≤ 2 ^ (m.log2 + 1) := (nearestNat_bounds hm).2
      _ ≤ 2 ^ n.log2 := Nat.pow_le_pow_right (by decide) hlt
      _ ≤ nearestNat n := (nearestNat_bounds hn).1
  · have hunit : unit m = unit n := by
      unfold unit
      rw [heq]
    unfold nearestNat
    rw [hunit]
    exact Nat.mul_le_mul_right _ (roundQuotient_mono h _)

/-- Digits at a greater place make up no less. -/
theorem place_digits_le {p q d e : Nat} (hd : d ≤ 2 ^ 53) (he : 2 ^ 52 ≤ e) (h : p < q) :
    p * 0x10000000000000 + d ≤ q * 0x10000000000000 + e ∧ d * 2 ^ p ≤ e * 2 ^ q := by
  refine ⟨by omega, ?_⟩
  calc d * 2 ^ p ≤ 2 ^ 53 * 2 ^ p := Nat.mul_le_mul_right _ hd
    _ = 2 ^ 52 * 2 ^ (p + 1) := by ring
    _ ≤ e * 2 ^ q := Nat.mul_le_mul he (Nat.pow_le_pow_right (by decide) h)

/-- Place and digits, one behind the other, grow with the value. -/
theorem place_digits_lt_iff {p q d e : Nat} (hd : 2 ^ 52 ≤ d ∧ d ≤ 2 ^ 53)
    (he : 2 ^ 52 ≤ e ∧ e ≤ 2 ^ 53) :
    p * 0x10000000000000 + d < q * 0x10000000000000 + e ↔ d * 2 ^ p < e * 2 ^ q := by
  rcases Nat.lt_trichotomy p q with hpq | rfl | hpq
  · obtain ⟨k, rfl⟩ := Nat.exists_eq_add_of_lt hpq
    have hvalue : e * 2 ^ (p + k + 1) = e * 2 * 2 ^ k * 2 ^ p := by ring
    rw [hvalue, Nat.mul_lt_mul_right (Nat.two_pow_pos p)]
    cases k with
    | zero => omega
    | succ k =>
      -- two places apart there is nothing between
      have hgap : e * 2 * 2 ≤ e * 2 * 2 ^ (k + 1) :=
        Nat.mul_le_mul_left _ (Nat.le_self_pow (by omega) 2)
      omega
  · rw [Nat.mul_lt_mul_right (Nat.two_pow_pos p)]
    omega
  · obtain ⟨hplace, hvalue⟩ := place_digits_le he.2 hd.1 hpq
    exact iff_of_false (Nat.not_lt.2 hplace) (Nat.not_lt.2 hvalue)

/-- The bits of the nearest doubles stand to each other as the rounded naturals do. -/
theorem roundRatio_lt_iff (m n : Nat) :
    roundRatio m 1 < roundRatio n 1 ↔ nearestNat m < nearestNat n := by
  have hzero : roundRatio 0 1 = 0 := rfl
  have hpos : ∀ {k : Nat}, k ≠ 0 → 0 < roundRatio k 1 ∧ 0 < nearestNat k := by
    intro k hk
    have hlow := (nearestNat_bounds hk).1
    have hpow := Nat.two_pow_pos k.log2
    rw [roundRatio_one hk]
    omega
  by_cases hn : n = 0
  · subst hn
    rw [hzero, nearestNat_zero]
    exact iff_of_false (Nat.not_lt_zero _) (Nat.not_lt_zero _)
  by_cases hm : m = 0
  · subst hm
    rw [hzero, nearestNat_zero]
    exact iff_of_true (hpos hn).1 (hpos hn).2
  have hplaces := place_digits_lt_iff (p := m.log2) (q := n.log2) (digits_bounds hm)
    (digits_bounds hn)
  rw [digits_mul, digits_mul, Nat.mul_lt_mul_right (Nat.two_pow_pos 52)] at hplaces
  have hbits := roundRatio_one hm
  have hbits' := roundRatio_one hn
  rw [← hplaces]
  omega

/-! ## Signs -/

/-- The integer that the double nearest to `n` stands for. -/
def nearestInt (n : Int) : Int :=
  if n < 0 then -(nearestNat n.natAbs : Int) else nearestNat n.natAbs

/-- Far below the greatest double the nearest one is not cut off. -/
theorem rank_ofInt {n : Int} (h : n.natAbs < 2 ^ 65) :
    (ofInt n).rank = if n < 0 then -(roundRatio n.natAbs 1 : Int) else roundRatio n.natAbs 1 := by
  have hfinite : roundRatio n.natAbs 1 ≤ 0x7fefffffffffffff := by
    by_cases hn : n.natAbs = 0
    · rw [hn]
      decide
    · have hlog : n.natAbs.log2 < 65 := (Nat.log2_lt hn).2 h
      have hdigits := (digits_bounds hn).2
      rw [roundRatio_one hn]
      omega
  unfold ofInt rank
  simp only [Nat.min_eq_left hfinite, decide_eq_true_eq]

theorem rank_ofInt_lt_iff {a b : Int} (ha : a.natAbs < 2 ^ 65) (hb : b.natAbs < 2 ^ 65) :
    (ofInt a).rank < (ofInt b).rank ↔ nearestInt a < nearestInt b := by
  have hup := roundRatio_lt_iff a.natAbs b.natAbs
  have hdown := roundRatio_lt_iff b.natAbs a.natAbs
  -- zero separates the signs
  have hzero := roundRatio_lt_iff 0 a.natAbs
  have hzero' := roundRatio_lt_iff 0 b.natAbs
  have hbits : roundRatio 0 1 = 0 := rfl
  rw [hbits, nearestNat_zero] at hzero hzero'
  rw [rank_ofInt ha, rank_ofInt hb]
  unfold nearestInt
  split <;> split <;> omega

/-- The nearest doubles of integers stand to each other as the integers rounded to 53 digits
do. -/
theorem order_ofInt {a b : Int} (ha : a.natAbs < 2 ^ 65) (hb : b.natAbs < 2 ^ 65) :
    (ofInt a).order (ofInt b) = compare (nearestInt a) (nearestInt b) := by
  have hlt := rank_ofInt_lt_iff ha hb
  have hgt := rank_ofInt_lt_iff hb ha
  unfold order
  rcases Int.lt_trichotomy (nearestInt a) (nearestInt b) with h | h | h
  · rw [Int.compare_eq_lt.2 h, Int.compare_eq_lt.2 (hlt.2 h)]
  · rw [Int.compare_eq_eq.2 h, Int.compare_eq_eq.2 (by omega)]
  · rw [Int.compare_eq_gt.2 h, Int.compare_eq_gt.2 (hgt.2 h)]

theorem nearestInt_mono {a b : Int} (h : a ≤ b) : nearestInt a ≤ nearestInt b := by
  unfold nearestInt
  rcases Int.lt_or_le b 0 with hb | hb
  · have hmono := nearestNat_mono (by omega : b.natAbs ≤ a.natAbs)
    rw [if_pos hb, if_pos (by omega)]
    omega
  · rcases Int.lt_or_le a 0 with ha | ha
    · rw [if_pos ha, if_neg (by omega)]
      omega
    · have hmono := nearestNat_mono (by omega : a.natAbs ≤ b.natAbs)
      rw [if_neg (by omega), if_neg (by omega)]
      omega

/-- Integers of up to 53 digits are doubles. -/
theorem nearestInt_of_le {n : Int} (h : n.natAbs ≤ 2 ^ 53) : nearestInt n = n := by
  unfold nearestInt
  rw [nearestNat_of_le h]
  omega

theorem nearestInt_near {n : Int} (h : n.natAbs < 2 ^ 64) :
    n ≤ nearestInt n + 1024 ∧ nearestInt n ≤ n + 1024 := by
  have hnear := nearestNat_near n.natAbs
  have hunit := unit_le h
  unfold nearestInt
  split <;> omega

/-- An integer of less than 54 digits shares its double with no other. -/
theorem eq_of_nearestInt_eq {a b : Int} (ha : a.natAbs < 2 ^ 53)
    (h : nearestInt a = nearestInt b) : a = b := by
  rw [nearestInt_of_le (Nat.le_of_lt ha)] at h
  have hb : b.natAbs < 2 ^ 53 := by
    have hedge : ∀ n : Int, n.natAbs = 2 ^ 53 → nearestInt n = n :=
      fun n hn => nearestInt_of_le (Nat.le_of_eq hn)
    have habove := hedge 0x20000000000000 rfl
    have hbelow := hedge (-0x20000000000000) rfl
    rcases Int.lt_or_le b 0x20000000000000 with hlt | hle
    · rcases Int.lt_or_le (-0x20000000000000) b with hgt | hge
      · omega
      · have hmono := nearestInt_mono hge
        omega
    · have hmono := nearestInt_mono hle
      omega
  rwa [nearestInt_of_le (Nat.le_of_lt hb)] at h

/-- Of integers with the same double, none has less than 53 digits, and they lie close
together. -/
theorem near_of_nearestInt_eq {a b : Int} (ha : a.natAbs < 2 ^ 64) (hb : b.natAbs < 2 ^ 64)
    (h : nearestInt a = nearestInt b) (hne : a ≠ b) :
    2 ^ 53 ≤ a.natAbs ∧ 2 ^ 53 ≤ b.natAbs ∧ (a - b).natAbs ≤ 2048 := by
  have hnear := nearestInt_near ha
  have hnear' := nearestInt_near hb
  refine ⟨?_, ?_, by omega⟩
  · exact Nat.not_lt.1 fun hlt => hne (eq_of_nearestInt_eq hlt h)
  · exact Nat.not_lt.1 fun hlt => hne (eq_of_nearestInt_eq hlt h.symm).symm

end DocStore.Double
