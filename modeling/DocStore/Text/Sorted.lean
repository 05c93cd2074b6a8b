/-!
Lists of texts in ascending order without repetitions, and stable sorting by insertion.

    s ∈ sortTexts ss ↔ s ∈ ss                                (mem_sortTexts)
    (sortTexts ss).Pairwise (· < ·)                          (pairwise_sortTexts)
    (sortStable order xs).Perm xs                            (sortStable_perm)
-/

namespace DocStore

/-- Put a text at its place, unless it is there. -/
def insertText (s : String) : List String → List String
  | [] => [s]
  | t :: rest =>
    if s = t then t :: rest
    else if s < t then s :: t :: rest
    else t :: insertText s rest

/-- The texts of a list, ascending and each once. -/
def sortTexts (ss : List String) : List String :=
  ss.foldr insertText []

theorem mem_insertText (s t : String) (ss : List String) :
    t ∈ insertText s ss ↔ t = s ∨ t ∈ ss := by
  induction ss with
  | nil => simp [insertText]
  | cons u rest ih =>
    unfold insertText
    split
    · next h => simp [h]
    · split
      · rw [List.mem_cons]
      · rw [List.mem_cons, List.mem_cons, ih]
        exact or_left_comm

theorem mem_sortTexts (s : String) (ss : List String) : s ∈ sortTexts ss ↔ s ∈ ss := by
  induction ss with
  | nil => rfl
  | cons t rest ih =>
    show s ∈ insertText t (sortTexts rest) ↔ _
    rw [mem_insertText, ih, List.mem_cons]

theorem pairwise_insertText (s : String) {ss : List String} (h : ss.Pairwise (· < ·)) :
    (insertText s ss).Pairwise (· < ·) := by
  induction ss with
  | nil => simp [insertText]
  | cons t rest ih =>
    obtain ⟨ht, hr⟩ := List.pairwise_cons.1 h
    unfold insertText
    split
    · exact h
    · next hne =>
      split
      · next hlt =>
        refine List.pairwise_cons.2 ⟨?_, h⟩
        intro u hu
        rcases List.mem_cons.1 hu with rfl | hu
        · exact hlt
        · exact String.lt_trans hlt (ht u hu)
      · next hge =>
        refine List.pairwise_cons.2 ⟨?_, ih hr⟩
        intro u hu
        rcases (mem_insertText s u rest).1 hu with rfl | hu
        · exact Std.lt_of_le_of_ne (String.not_lt.1 hge) (fun e => hne e.symm)
        · exact ht u hu

theorem pairwise_sortTexts (ss : List String) : (sortTexts ss).Pairwise (· < ·) := by
  induction ss with
  | nil => exact .nil
  | cons t rest ih => exact pairwise_insertText t ih

/-- Sorted texts depend on nothing but what is among them. -/
theorem sortTexts_congr {ss ts : List String} (h : ∀ s, s ∈ ss ↔ s ∈ ts) :
    sortTexts ss = sortTexts ts := by
  have hnodup : ∀ us, (sortTexts us).Nodup := fun us =>
    (pairwise_sortTexts us).imp fun hlt => String.ne_of_lt hlt
  have hp : (sortTexts ss).Perm (sortTexts ts) := by
    rw [List.perm_ext_iff_of_nodup (hnodup ss) (hnodup ts)]
    intro s
    rw [mem_sortTexts, mem_sortTexts, h]
  exact hp.eq_of_pairwise (fun _ _ _ _ hst hts => absurd hts (String.lt_asymm hst))
    (pairwise_sortTexts ss) (pairwise_sortTexts ts)

/-- Put `x` behind the elements that are not greater; the list is descending. -/
def insertDescending {α : Type} (order : α → α → Ordering) (x : α) : List α → List α
  | [] => [x]
  | y :: rest =>
    if order x y = .lt then y :: insertDescending order x rest else x :: y :: rest

/-- Sort by insertion: elements that tie keep their order. -/
def sortStable {α : Type} (order : α → α → Ordering) (xs : List α) : List α :=
  (xs.foldl (fun sorted x => insertDescending order x sorted) []).reverse

theorem insertDescending_perm {α : Type} (order : α → α → Ordering) (x : α) (xs : List α) :
    (insertDescending order x xs).Perm (x :: xs) := by
  induction xs with
  | nil => exact .refl _
  | cons y rest ih =>
    unfold insertDescending
    split
    · exact (ih.cons y).trans (.swap x y rest)
    · exact .refl _

theorem sortStable_perm {α : Type} (order : α → α → Ordering) (xs : List α) :
    (sortStable order xs).Perm xs := by
  have gen : ∀ ys sorted : List α,
      (ys.foldl (fun sorted x => insertDescending order x sorted) sorted).Perm
        (ys.reverse ++ sorted) := by
    intro ys
    induction ys with
    | nil => intro sorted; exact .refl _
    | cons y ys ih =>
      intro sorted
      simp only [List.foldl_cons, List.reverse_cons, List.append_assoc, List.singleton_append]
      exact (ih _).trans (List.Perm.append_left _ (insertDescending_perm order y sorted))
  refine (List.reverse_perm _).trans ((gen xs []).trans ?_)
  rw [List.append_nil]
  exact List.reverse_perm xs

end DocStore
