import DocStore.Engine
import Mathlib.Algebra.BigOperators.Group.List.Basic
import Mathlib.Algebra.Order.BigOperators.Group.List
import Mathlib.Algebra.Ring.Int.Defs
import Mathlib.Data.List.Induction
import Mathlib.Data.List.Perm.Subperm

/-!
Sums of numbers, and when they are exact.

A sum is whole as long as signed words can add it up: every number is one, and so is what
the first of them come to, however many they are (`Number.AddsUp`).  Then it is the exact
total.  Else it is the sum in doubles, and 0 where that leaves their range:

    AddsUp ns → (sum ns).int? = some (total ns)              (int?_sum_of_addsUp)
    ¬ AddsUp ns → sum ns = inDoubles ns                      (sum_of_not_addsUp)

So a total that a signed word holds may be missed, and it hangs on the order of the numbers
whether it is, unless a signed word holds what the positive ones come to, and another one
what the negative ones do                                    (forall_perm_addsUp_iff).
-/

namespace DocStore

namespace Number

/-! ## Exact totals -/

/-- The integer that a whole number is. -/
def int? : Number → Option Int
  | whole n _ => some n
  | real _ => none

/-- The integers among numbers. -/
def ints (ns : List Number) : List Int :=
  ns.filterMap int?

/-- What the whole numbers come to. -/
def total (ns : List Number) : Int :=
  (ints ns).sum

/-- The sum in doubles, one number after the other; none once it has left their range. -/
def doubleTotal (ns : List Number) : Option Double :=
  ns.foldlM (fun x n => x.add? n.toDouble) (.zero false)

/-- All numbers are whole. -/
def AreWhole (ns : List Number) : Prop :=
  ∀ n ∈ ns, ∃ k, n.int? = some k

/-- The numbers are whole, and a signed word holds what they come to. -/
def HasWordTotal (ns : List Number) : Prop :=
  AreWhole ns ∧ isSignedWord (total ns) = true

/-- The sum is whole exactly if the numbers are and a signed word holds their total, and
then it is that total. -/
def SumsExactly (ns : List Number) : Prop :=
  ∀ k, (sum ns).int? = some k ↔ HasWordTotal ns ∧ k = total ns

/-- Signed words can add the numbers up: each of them is one, and what the first of them
come to is one, however many they are. -/
structure AddsUp (ns : List Number) : Prop where
  members : ∀ n ∈ ns, ∃ k, n.int? = some k ∧ isSignedWord k = true
  totals : ∀ ms, ms <+: ns → isSignedWord (total ms) = true

theorem isSignedWord_iff (n : Int) :
    isSignedWord n = true ↔ -0x8000000000000000 ≤ n ∧ n < 0x8000000000000000 := by
  unfold isSignedWord
  exact decide_eq_true_iff

theorem AddsUp.hasWordTotal {ns : List Number} (h : AddsUp ns) : HasWordTotal ns := by
  refine ⟨fun n hn => ?_, h.totals ns List.prefix_rfl⟩
  obtain ⟨k, hk, -⟩ := h.members n hn
  exact ⟨k, hk⟩

theorem total_concat {n : Number} {k : Int} (h : n.int? = some k) (ns : List Number) :
    total (ns ++ [n]) = total ns + k := by
  unfold total ints
  rw [List.filterMap_append, List.sum_append]
  simp [h]

theorem addsUp_nil : AddsUp [] := by
  refine ⟨fun n hn => absurd hn List.not_mem_nil, fun ms h => ?_⟩
  have hzero : total ms = 0 := by
    rw [List.prefix_nil.1 h]
    rfl
  rw [isSignedWord_iff, hzero]
  omega

theorem addsUp_concat_iff (ns : List Number) (n : Number) :
    AddsUp (ns ++ [n]) ↔
      AddsUp ns ∧ ∃ k, n.int? = some k ∧ isSignedWord k = true ∧
        isSignedWord (total ns + k) = true := by
  constructor
  · intro h
    obtain ⟨k, hk, hword⟩ := h.members n (List.mem_append_right _ List.mem_cons_self)
    have hlast := h.totals _ List.prefix_rfl
    rw [total_concat hk] at hlast
    have hfirst : AddsUp ns :=
      ⟨fun m hm => h.members m (List.mem_append_left _ hm),
        fun ms hms => h.totals ms (hms.trans (List.prefix_append ns [n]))⟩
    exact ⟨hfirst, k, hk, hword, hlast⟩
  · rintro ⟨h, k, hk, hword, hlast⟩
    constructor
    · intro m hm
      rcases List.mem_append.1 hm with hm | hm
      · exact h.members m hm
      · rw [List.mem_singleton.1 hm]
        exact ⟨k, hk, hword⟩
    · intro ms hms
      rcases List.prefix_concat_iff.1 hms with rfl | hms
      · rw [total_concat hk]
        exact hlast
      · exact h.totals ms hms

/-! ## The tally -/

/-- The tally of numbers. -/
def tally (ns : List Number) : Tally :=
  ns.foldl Tally.add ⟨some (.zero false), some 0⟩

theorem tally_concat (ns : List Number) (n : Number) : tally (ns ++ [n]) = (tally ns).add n :=
  List.foldl_concat ..

/-- One step of the whole sum. -/
theorem Tally.whole_add (t : Tally) (n : Number) (r : Int) :
    (t.add n).whole = some r ↔
      ∃ k m, t.whole = some k ∧ n.int? = some m ∧ isSignedWord m = true ∧
        isSignedWord (k + m) = true ∧ r = k + m := by
  obtain ⟨x, whole⟩ := t
  cases whole with
  | none =>
    constructor
    · intro h
      cases h
    · rintro ⟨_, _, h, -⟩
      cases h
  | some k =>
    cases n with
    | real x =>
      constructor
      · intro h
        cases h
      · rintro ⟨_, _, -, h, -⟩
        cases h
    | whole m hm =>
      show (if isSignedWord m = true ∧ isSignedWord (k + m) = true then some (k + m) else none)
        = some r ↔ _
      constructor
      · intro h
        split at h
        · next hword => exact ⟨k, m, rfl, rfl, hword.1, hword.2, (Option.some.inj h).symm⟩
        · cases h
      · rintro ⟨_, _, hk, hm, hword, hlast, rfl⟩
        cases hk
        cases hm
        rw [if_pos ⟨hword, hlast⟩]

/-- The whole sum is there exactly while signed words can add the numbers up. -/
theorem whole_tally (ns : List Number) (r : Int) :
    (tally ns).whole = some r ↔ AddsUp ns ∧ r = total ns := by
  -- on what is added last, which is the last prefix too
  induction ns using List.reverseRecOn generalizing r with
  | nil =>
    constructor
    · intro h
      cases h
      exact ⟨addsUp_nil, rfl⟩
    · rintro ⟨-, rfl⟩
      rfl
  | append_singleton ns n ih =>
    rw [tally_concat, Tally.whole_add, addsUp_concat_iff]
    constructor
    · rintro ⟨k, m, hk, hm, hword, hlast, rfl⟩
      obtain ⟨hns, rfl⟩ := (ih k).1 hk
      exact ⟨⟨hns, m, hm, hword, hlast⟩, (total_concat hm ns).symm⟩
    · rintro ⟨⟨hns, m, hm, hword, hlast⟩, rfl⟩
      exact ⟨total ns, m, (ih _).2 ⟨hns, rfl⟩, hm, hword, hlast, total_concat hm ns⟩

theorem real_tally (ns : List Number) : (tally ns).real = doubleTotal ns := by
  induction ns using List.reverseRecOn with
  | nil => rfl
  | append_singleton ns n ih =>
    unfold doubleTotal at ih ⊢
    rw [tally_concat, List.foldlM_append, ← ih]
    cases h : (tally ns).real <;> simp [Tally.add, h]

/-! ## Sums -/

theorem zero_fits : -0x8000000000000000 ≤ (0 : Int) ∧ (0 : Int) < 0x10000000000000000 := by
  decide

/-- What a sum is when it is not whole: the sum in doubles, and 0 beyond them. -/
def inDoubles (ns : List Number) : Number :=
  (doubleTotal ns).elim (.whole 0 zero_fits) .real

theorem sum_eq (ns : List Number) :
    sum ns = ((tally ns).whole.bind ofInt?).getD (inDoubles ns) := by
  unfold sum inDoubles
  rw [← real_tally]
  unfold tally
  dsimp only
  cases (List.foldl Tally.add _ ns).whole.bind ofInt? with
  | some n => rfl
  | none => cases (List.foldl Tally.add _ ns).real <;> rfl

/-- What signed words can add up is summed exactly. -/
theorem int?_sum_of_addsUp {ns : List Number} (h : AddsUp ns) :
    (sum ns).int? = some (total ns) := by
  have hword := (isSignedWord_iff _).1 h.hasWordTotal.2
  have hfits : -0x8000000000000000 ≤ total ns ∧ total ns < 0x10000000000000000 :=
    ⟨hword.1, by omega⟩
  have hwhole : (tally ns).whole = some (total ns) := (whole_tally ns _).2 ⟨h, rfl⟩
  have hsum : sum ns = .whole (total ns) hfits := by
    rw [sum_eq, hwhole, Option.bind_some, ofInt?, dif_pos hfits, Option.getD_some]
  rw [hsum]
  rfl

theorem sum_of_not_addsUp {ns : List Number} (h : ¬ AddsUp ns) : sum ns = inDoubles ns := by
  have hwhole : (tally ns).whole = none := by
    cases hw : (tally ns).whole with
    | none => rfl
    | some r => exact absurd ((whole_tally ns r).1 hw).1 h
  rw [sum_eq, hwhole, Option.bind_none, Option.getD_none]

/-- A sum in doubles is whole only where it has left their range. -/
theorem int?_inDoubles (ns : List Number) (k : Int) :
    (inDoubles ns).int? = some k ↔ doubleTotal ns = none ∧ k = 0 := by
  unfold inDoubles
  cases doubleTotal ns with
  | none => simp [int?, eq_comm]
  | some x => simp [int?]

theorem int?_sum_iff (ns : List Number) (k : Int) :
    (sum ns).int? = some k ↔
      AddsUp ns ∧ k = total ns ∨ ¬ AddsUp ns ∧ doubleTotal ns = none ∧ k = 0 := by
  by_cases h : AddsUp ns
  · rw [int?_sum_of_addsUp h, Option.some.injEq]
    constructor
    · intro hk
      exact .inl ⟨h, hk.symm⟩
    · rintro (⟨-, hk⟩ | ⟨hno, -⟩)
      · exact hk.symm
      · exact absurd h hno
  · rw [sum_of_not_addsUp h, int?_inDoubles]
    constructor
    · intro hk
      exact .inr ⟨h, hk⟩
    · rintro (⟨hyes, -⟩ | ⟨-, hk⟩)
      · exact absurd hyes h
      · exact hk

/-- Sums are exact where signed words can add up, and where neither a signed word holds the
total nor the doubles are left; beyond the doubles only a total of 0 is met. -/
theorem sumsExactly_iff (ns : List Number) :
    SumsExactly ns ↔
      AddsUp ns ∨ ¬ HasWordTotal ns ∧ doubleTotal ns ≠ none ∨
        HasWordTotal ns ∧ doubleTotal ns = none ∧ total ns = 0 := by
  by_cases h : AddsUp ns
  · refine iff_of_true (fun k => ?_) (.inl h)
    simp [int?_sum_of_addsUp h, h.hasWordTotal, eq_comm]
  · have hsum : ∀ k, (sum ns).int? = some k ↔ doubleTotal ns = none ∧ k = 0 := by
      simp [int?_sum_iff, h]
    simp only [SumsExactly, hsum, h, false_or]
    constructor
    · intro hexact
      by_cases hd : doubleTotal ns = none
      · obtain ⟨hword, hzero⟩ := (hexact 0).1 ⟨hd, rfl⟩
        exact .inr ⟨hword, hd, hzero.symm⟩
      · exact .inl ⟨fun hword => hd ((hexact _).2 ⟨hword, rfl⟩).1, hd⟩
    · rintro (⟨hword, hd⟩ | ⟨hword, hd, hzero⟩) k
      · simp [hword, hd]
      · simp [hword, hd, hzero]

/-! ## The order of the numbers -/

/-- What the positive whole numbers come to. -/
def gains (ns : List Number) : Int :=
  ((ints ns).filter (0 < ·)).sum

/-- What the negative whole numbers come to. -/
def losses (ns : List Number) : Int :=
  ((ints ns).filter (· < 0)).sum

theorem sum_negative_cons (k : Int) (ks : List Int) :
    ((k :: ks).filter (· < 0)).sum = min k 0 + (ks.filter (· < 0)).sum := by
  rw [List.filter_cons]
  by_cases hk : k < 0
  · rw [if_pos (decide_eq_true hk), List.sum_cons, Int.min_eq_left hk.le]
  · rw [if_neg fun h => hk (of_decide_eq_true h), Int.min_eq_right (Int.not_lt.1 hk), zero_add]

theorem sum_positive_cons (k : Int) (ks : List Int) :
    ((k :: ks).filter (0 < ·)).sum = max k 0 + (ks.filter (0 < ·)).sum := by
  rw [List.filter_cons]
  by_cases hk : 0 < k
  · rw [if_pos (decide_eq_true hk), List.sum_cons, Int.max_eq_left hk.le]
  · rw [if_neg fun h => hk (of_decide_eq_true h), Int.max_eq_right (Int.not_lt.1 hk), zero_add]

/-- What is picked from integers comes to no less than the negative and no more than the
positive ones. -/
theorem sum_bounds {js ks : List Int} (h : js.Sublist ks) :
    (ks.filter (· < 0)).sum ≤ js.sum ∧ js.sum ≤ (ks.filter (0 < ·)).sum := by
  induction h with
  | slnil => exact ⟨le_rfl, le_rfl⟩
  | cons k _ ih =>
    rw [sum_negative_cons, sum_positive_cons]
    omega
  | cons_cons k _ ih =>
    rw [sum_negative_cons, sum_positive_cons, List.sum_cons]
    omega

theorem total_bounds {ms ns : List Number} (h : ms.Subperm ns) :
    losses ns ≤ total ms ∧ total ms ≤ gains ns := by
  obtain ⟨ls, hperm, hsub⟩ := h
  have htotal : total ls = total ms := (hperm.filterMap int?).sum_eq
  rw [← htotal]
  exact sum_bounds (hsub.filterMap int?)

/-- Numbers whose gains and losses are signed words add up in every order. -/
theorem addsUp_of_perm {ms ns : List Number} (hms : ms.Perm ns) (hwhole : AreWhole ns)
    (hgains : isSignedWord (gains ns) = true) (hlosses : isSignedWord (losses ns) = true) :
    AddsUp ms := by
  rw [isSignedWord_iff] at hgains hlosses
  constructor
  · intro n hn
    obtain ⟨k, hk⟩ := hwhole n (hms.mem_iff.1 hn)
    have hsingle : total [n] = k := by simp [total, ints, hk]
    have hbounds := total_bounds (List.singleton_subperm_iff.2 (hms.mem_iff.1 hn))
    refine ⟨k, hk, (isSignedWord_iff k).2 ?_⟩
    omega
  · intro ls hls
    have hbounds := total_bounds (hls.sublist.subperm.trans hms.subperm)
    rw [isSignedWord_iff]
    omega

end Number

namespace Engine

open Number

/-- The value is a whole number that passes the test. -/
def isWhole (test : Int → Bool) (v : Json) : Bool :=
  (ints (numbers [v])).any test

theorem ints_numbers_cons (v : Json) (vs : List Json) :
    ints (numbers (v :: vs)) = ints (numbers [v]) ++ ints (numbers vs) := by
  unfold ints
  rw [← List.filterMap_append]
  unfold numbers
  rw [← List.filterMap_append]
  rfl

theorem ints_numbers_single (v : Json) :
    ints (numbers [v]) = [] ∨ ∃ k, ints (numbers [v]) = [k] := by
  cases v with
  | num n =>
    cases n with
    | whole k _ => exact .inr ⟨k, rfl⟩
    | real x => exact .inl rfl
  | _ => exact .inl rfl

/-- The values whose numbers pass a test, brought together. -/
theorem total_filter (test : Int → Bool) (vs : List Json) :
    total (numbers (vs.filter (isWhole test))) = ((ints (numbers vs)).filter test).sum := by
  induction vs with
  | nil => rfl
  | cons v vs ih =>
    unfold total at ih ⊢
    rw [List.filter_cons, ints_numbers_cons, List.filter_append, List.sum_append, ← ih]
    rcases ints_numbers_single v with hv | ⟨k, hv⟩
    · simp [isWhole, hv]
    · by_cases hk : test k = true
      · rw [if_pos (by simp [isWhole, hv, hk]), ints_numbers_cons, List.sum_append]
        simp [hv, hk]
      · simp [isWhole, hv, hk]

/-- In every order of the values the numbers add up, if they are whole and both gains and
losses are signed words, and only then. -/
theorem forall_perm_addsUp_iff (vs : List Json) :
    (∀ ws, ws.Perm vs → AddsUp (numbers ws)) ↔
      AreWhole (numbers vs) ∧ isSignedWord (gains (numbers vs)) = true ∧
        isSignedWord (losses (numbers vs)) = true := by
  constructor
  · intro h
    -- in the order that puts first what passes a test
    have hfirst : ∀ test : Int → Bool,
        isSignedWord ((ints (numbers vs)).filter test).sum = true := by
      intro test
      have hperm := List.filter_append_perm (isWhole test) vs
      have hfront := List.prefix_append (vs.filter (isWhole test))
        (vs.filter fun v => !isWhole test v)
      rw [← total_filter]
      exact (h _ hperm).totals _ (hfront.filterMap _)
    exact ⟨(h vs (.refl vs)).hasWordTotal.1, hfirst _, hfirst _⟩
  · rintro ⟨hwhole, hgains, hlosses⟩ ws hws
    exact addsUp_of_perm (hws.filterMap _) hwhole hgains hlosses

theorem total_perm {vs ws : List Json} (h : ws.Perm vs) :
    total (numbers ws) = total (numbers vs) :=
  ((h.filterMap _).filterMap int?).sum_eq

/-- The sum of the numbers among values is exact where signed words can add the numbers up
one after the other; where a signed word does not hold the total, and the doubles are not
left; and, by accident, where they are left and the total is 0.  In every order of the values
it is the exact total, if all are whole and both the gains and the losses are signed words,
and only then can signed words add them up in every order. -/
theorem sumsExactly_numbers (vs : List Json) :
    (SumsExactly (numbers vs) ↔
      AddsUp (numbers vs) ∨ ¬ HasWordTotal (numbers vs) ∧ doubleTotal (numbers vs) ≠ none ∨
        HasWordTotal (numbers vs) ∧ doubleTotal (numbers vs) = none ∧ total (numbers vs) = 0) ∧
    (AreWhole (numbers vs) ∧ isSignedWord (gains (numbers vs)) = true ∧
        isSignedWord (losses (numbers vs)) = true ↔
      ∀ ws, ws.Perm vs → AddsUp (numbers ws) ∧
        (Number.sum (numbers ws)).int? = some (total (numbers vs))) := by
  refine ⟨sumsExactly_iff _, ?_⟩
  rw [← forall_perm_addsUp_iff]
  constructor
  · intro h ws hws
    rw [← total_perm hws]
    exact ⟨h ws hws, int?_sum_of_addsUp (h ws hws)⟩
  · intro h ws hws
    exact (h ws hws).1

/-- The greatest signed word, one more and one less. -/
def upAndDown : List Json :=
  ([0x7fffffffffffffff, 1, -1].filterMap ofInt?).map .num

/-- The greatest double, twice. -/
def beyondDoubles : List Json :=
  List.replicate 2 (.num (.real ⟨false, 0x7fefffffffffffff, by decide⟩))

/-- The first are whole and a signed word holds their total, but their sum is not whole,
though it is in another order; the others are not whole, but their sum is. -/
theorem not_sumsExactly_upAndDown :
    HasWordTotal (numbers upAndDown) ∧ (Number.sum (numbers upAndDown)).int? = none ∧
    (Number.sum (numbers upAndDown.reverse)).int? = some (total (numbers upAndDown)) ∧
    ¬ AreWhole (numbers beyondDoubles) ∧
    (Number.sum (numbers beyondDoubles)).int? = some 0 := by
  refine ⟨⟨?_, by decide +kernel⟩, by decide +kernel, by decide +kernel, ?_, by decide +kernel⟩
  · refine List.forall_mem_cons.2 ⟨⟨_, rfl⟩, List.forall_mem_cons.2 ⟨⟨_, rfl⟩, ?_⟩⟩
    exact List.forall_mem_singleton.2 ⟨_, rfl⟩
  · intro h
    obtain ⟨k, hk⟩ := h _ List.mem_cons_self
    cases hk

end Engine

end DocStore
