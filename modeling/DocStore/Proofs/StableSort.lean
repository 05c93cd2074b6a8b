import DocStore.Text.Sorted
import Mathlib.Data.List.Induction

/-!
Stable sorting by a comparison.

A list is sorted stably when nothing is lost, no element stands behind a smaller one, and the
elements that tie with any one of them keep their order (`StablySorted`).  Where the comparison
is transitive on a list, sorting by insertion gives such a list, and there is no other:

    TransOn order xs → StablySorted order xs (sortStable order xs)
                                                             (stablySorted_sortStable)
    StablySorted order xs ys → StablySorted order xs zs → ys = zs
                                                             (StablySorted.unique)
-/

namespace DocStore

/-- Among the elements of a list, what is not greater than one that is not greater is not
greater. -/
def TransOn {α : Type} (order : α → α → Ordering) (xs : List α) : Prop :=
  ∀ a ∈ xs, ∀ b ∈ xs, ∀ c ∈ xs, (order a b).isLE → (order b c).isLE → (order a c).isLE

/-- Whether an element ties with `v`. -/
def ties {α : Type} (order : α → α → Ordering) (v x : α) : Bool :=
  order v x == .eq

structure StablySorted {α : Type} (order : α → α → Ordering) (xs ys : List α) : Prop where
  perm : ys.Perm xs
  ordered : ys.Pairwise fun a b => (order a b).isLE
  stable : ∀ v ∈ xs, ys.filter (ties order v) = xs.filter (ties order v)

variable {α : Type} {order : α → α → Ordering}

theorem TransOn.subset {xs ys : List α} (h : TransOn order xs) (hsub : ∀ x ∈ ys, x ∈ xs) :
    TransOn order ys :=
  fun a ha b hb c hc => h a (hsub a ha) b (hsub b hb) c (hsub c hc)

theorem ties_iff (v x : α) : ties order v x = true ↔ order v x = .eq :=
  beq_iff_eq

/-! ## Insertion -/

/-- An element goes in front of those that tie with it. -/
theorem filter_insertDescending (p : α → Bool) {x : α} {ys : List α}
    (h : p x = true → ∀ y ∈ ys, p y = true → order x y ≠ .lt) :
    (insertDescending order x ys).filter p = [x].filter p ++ ys.filter p := by
  induction ys with
  | nil => simp [insertDescending]
  | cons y rest ih =>
    have hrest := ih fun hx z hz => h hx z (List.mem_cons_of_mem _ hz)
    unfold insertDescending
    split
    · next hlt =>
      rw [List.filter_cons, hrest, List.filter_cons (x := y)]
      by_cases hx : p x = true
      · -- what it passes does not tie with it
        have hy : p y ≠ true := fun hy => h hx y List.mem_cons_self hy hlt
        simp [hy]
      · simp [hx]
    · rw [← List.filter_append]
      rfl

theorem sortStable_concat (xs : List α) (x : α) :
    sortStable order (xs ++ [x])
      = (insertDescending order x (sortStable order xs).reverse).reverse := by
  simp [sortStable]

/-- Elements of which none is less than another keep their order. -/
theorem filter_sortStable (p : α → Bool) {xs : List α}
    (h : ∀ x ∈ xs, ∀ y ∈ xs, p x = true → p y = true → order x y ≠ .lt) :
    (sortStable order xs).filter p = xs.filter p := by
  induction xs using List.reverseRecOn with
  | nil => rfl
  | append_singleton xs x ih =>
    have hx : x ∈ xs ++ [x] := List.mem_append_right _ List.mem_cons_self
    have hxs : ∀ y ∈ xs, y ∈ xs ++ [x] := fun y hy => List.mem_append_left _ hy
    have hfront : (insertDescending order x (sortStable order xs).reverse).filter p
        = [x].filter p ++ (sortStable order xs).reverse.filter p :=
      filter_insertDescending p fun hpx y hy hpy => by
        rw [List.mem_reverse, (sortStable_perm order xs).mem_iff] at hy
        exact h x hx y (hxs y hy) hpx hpy
    rw [sortStable_concat, List.filter_reverse, hfront, List.reverse_append,
      List.filter_reverse, List.reverse_reverse, ih fun y hy z hz => h y (hxs y hy) z (hxs z hz),
      ← List.filter_reverse, List.filter_append]
    rfl

section

variable [Std.OrientedCmp order]

theorem pairwise_insertDescending {x : α} {ys : List α} (ht : TransOn order (x :: ys))
    (h : ys.Pairwise fun a b => (order b a).isLE) :
    (insertDescending order x ys).Pairwise fun a b => (order b a).isLE := by
  induction ys with
  | nil => exact List.pairwise_singleton _ x
  | cons y rest ih =>
    obtain ⟨hy, hrest⟩ := List.pairwise_cons.1 h
    have htail : TransOn order (x :: rest) := ht.subset fun z hz => by
      rcases List.mem_cons.1 hz with rfl | hz
      · exact List.mem_cons_self
      · exact List.mem_cons_of_mem _ (List.mem_cons_of_mem _ hz)
    unfold insertDescending
    split
    · next hlt =>
      refine List.pairwise_cons.2 ⟨fun z hz => ?_, ih htail hrest⟩
      rcases List.mem_cons.1 ((insertDescending_perm order x rest).mem_iff.1 hz) with rfl | hz
      · exact Ordering.isLE_of_eq_lt hlt
      · exact hy z hz
    · next hge =>
      have hyx : (order y x).isLE := Std.OrientedCmp.isGE_iff_isLE.1 (Ordering.isGE_iff_ne_lt.2 hge)
      refine List.pairwise_cons.2 ⟨fun z hz => ?_, h⟩
      rcases List.mem_cons.1 hz with rfl | hz
      · exact hyx
      · exact ht z (by simp [hz]) y (by simp) x (by simp) (hy z hz) hyx

/-! ## Sorting -/

theorem pairwise_sortStable {xs : List α} (ht : TransOn order xs) :
    (sortStable order xs).Pairwise fun a b => (order a b).isLE := by
  induction xs using List.reverseRecOn with
  | nil => exact .nil
  | append_singleton xs x ih =>
    have hxs := ih (ht.subset fun z hz => List.mem_append_left _ hz)
    rw [sortStable_concat, List.pairwise_reverse]
    refine pairwise_insertDescending (ht.subset fun z hz => ?_) (List.pairwise_reverse.2 hxs)
    rw [List.mem_cons, List.mem_reverse, (sortStable_perm order xs).mem_iff] at hz
    rw [List.mem_append, List.mem_singleton]
    exact hz.symm

/-- Elements that tie with the same one tie with each other. -/
theorem TransOn.eq_of_ties {xs : List α} (ht : TransOn order xs) {v x y : α} (hv : v ∈ xs)
    (hx : x ∈ xs) (hy : y ∈ xs) (hvx : ties order v x = true) (hvy : ties order v y = true) :
    order x y = .eq := by
  rw [ties_iff] at hvx hvy
  have hle : ∀ {a b : α}, a ∈ xs → b ∈ xs → order v a = .eq → order v b = .eq →
      (order a b).isLE := fun ha hb hva hvb =>
    ht _ ha v hv _ hb (Ordering.isLE_of_eq_eq (Std.OrientedCmp.eq_symm hva))
      (Ordering.isLE_of_eq_eq hvb)
  exact Std.OrientedCmp.isLE_antisymm (hle hx hy hvx hvy) (hle hy hx hvy hvx)

/-- Sorting by insertion is stable. -/
theorem stablySorted_sortStable {xs : List α} (ht : TransOn order xs) :
    StablySorted order xs (sortStable order xs) where
  perm := sortStable_perm order xs
  ordered := pairwise_sortStable ht
  stable _ hv := filter_sortStable _ fun x hx y hy hvx hvy => by
    rw [ht.eq_of_ties hv hx hy hvx hvy]
    decide

/-! ## Uniqueness -/

/-- Lists in order that hold the same elements, and ties in the same order, are the same. -/
theorem eq_of_pairwise_of_filter {ys zs : List α} (hp : ys.Perm zs)
    (hys : ys.Pairwise fun a b => (order a b).isLE)
    (hzs : zs.Pairwise fun a b => (order a b).isLE)
    (hf : ∀ v ∈ ys, ys.filter (ties order v) = zs.filter (ties order v)) : ys = zs := by
  induction ys generalizing zs with
  | nil => exact hp.nil_eq
  | cons y ys ih =>
    cases zs with
    | nil => exact absurd hp.length_eq (by simp)
    | cons z zs =>
      obtain ⟨hy, hyrest⟩ := List.pairwise_cons.1 hys
      obtain ⟨hz, hzrest⟩ := List.pairwise_cons.1 hzs
      have hself : ∀ a : α, order a a = .eq := fun a => Std.ReflCmp.compare_self
      -- neither head is greater than the other
      have hyz : order y z = .eq := by
        rcases List.mem_cons.1 (hp.mem_iff.2 List.mem_cons_self) with rfl | hzin
        · exact hself z
        rcases List.mem_cons.1 (hp.mem_iff.1 List.mem_cons_self) with rfl | hyin
        · exact hself y
        exact Std.OrientedCmp.isLE_antisymm (hy z hzin) (hz y hyin)
      have hheads := hf y List.mem_cons_self
      rw [List.filter_cons_of_pos ((ties_iff y y).2 (hself y)),
        List.filter_cons_of_pos ((ties_iff y z).2 hyz)] at hheads
      obtain ⟨rfl, -⟩ := List.cons_eq_cons.1 hheads
      congr 1
      refine ih hp.cons_inv hyrest hzrest fun v hv => ?_
      have htails := hf v (List.mem_cons_of_mem _ hv)
      rw [List.filter_cons, List.filter_cons] at htails
      split at htails
      · exact (List.cons_eq_cons.1 htails).2
      · exact htails

/-- What a stable sort gives is determined. -/
theorem StablySorted.unique {xs ys zs : List α} (h : StablySorted order xs ys)
    (h' : StablySorted order xs zs) : ys = zs := by
  refine eq_of_pairwise_of_filter (h.perm.trans h'.perm.symm) h.ordered h'.ordered fun v hv => ?_
  have hvx : v ∈ xs := h.perm.mem_iff.1 hv
  rw [h.stable v hvx, h'.stable v hvx]

end

end DocStore
