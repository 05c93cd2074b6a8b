import DocStore.Engine
import Mathlib.Order.Basic

/-!
The sort order of fields, and where it is no order.

Two fields stand as their kinds do, and within a kind by the place of a truth value or a
number and by the text of a string or an identifier (`Json.gradeOrder`, a lexicographic
order).  Only an identifier and an object that is none (`Json.Unlike`) tie although their
grades differ:

    ¬ Unlike a b → sortOrder a b = gradeOrder a b            (sortOrder_of_not_unlike)
    sortOrder b a = (sortOrder a b).swap                     (sortOrder_swap)

So the one way in which it fails to be transitive is that an object that is no identifier
stands between two identifiers, which both tie with it       (sortOrder_preorder_iff).
-/

namespace DocStore

open Json (Object)

namespace Json

/-! ## Objects -/

/-- The field is an identifier with this text. -/
def IsIdentifier (a : Option Json) (text : String) : Prop :=
  ∃ o, a = some (.obj o) ∧ oidText? o = some text

/-- The field is an object, but no identifier. -/
def IsPlainObject (a : Option Json) : Prop :=
  ∃ o, a = some (.obj o) ∧ oidText? o = none

/-- One of the fields is an identifier, and the other one an object that is none. -/
def Unlike (a b : Option Json) : Prop :=
  (∃ s, IsIdentifier a s) ∧ IsPlainObject b ∨ IsPlainObject a ∧ ∃ t, IsIdentifier b t

theorem Unlike.symm {a b : Option Json} (h : Unlike a b) : Unlike b a := by
  rcases h with ⟨ha, hb⟩ | ⟨ha, hb⟩
  · exact .inr ⟨hb, ha⟩
  · exact .inl ⟨hb, ha⟩

theorem IsIdentifier.not_plain {a : Option Json} {s : String} (h : IsIdentifier a s) :
    ¬ IsPlainObject a := by
  rintro ⟨p, hp, hnone⟩
  obtain ⟨o, ho, hsome⟩ := h
  rw [ho] at hp
  cases hp
  rw [hsome] at hnone
  cases hnone

theorem sortOrder_obj (o p : Object) :
    sortOrder (some (.obj o)) (some (.obj p)) = (order? (.obj o) (.obj p)).getD .eq :=
  if_pos rfl

theorem sortOrder_of_unlike {a b : Option Json} (h : Unlike a b) : sortOrder a b = .eq := by
  rcases h with ⟨⟨s, o, rfl, ho⟩, p, rfl, hp⟩ | ⟨⟨o, rfl, ho⟩, t, p, rfl, hp⟩
  · simp only [sortOrder_obj, order?, ho, hp, Option.getD_none]
  · simp only [sortOrder_obj, order?, ho, hp, Option.getD_none]

/-- Identifiers stand as their texts do. -/
theorem sortOrder_identifiers {a b : Option Json} {s t : String} (ha : IsIdentifier a s)
    (hb : IsIdentifier b t) : sortOrder a b = compare s t := by
  obtain ⟨o, rfl, ho⟩ := ha
  obtain ⟨p, rfl, hp⟩ := hb
  simp only [sortOrder_obj, order?, ho, hp, Option.getD_some]

theorem sortOrder_plainObjects {a b : Option Json} (ha : IsPlainObject a) (hb : IsPlainObject b) :
    sortOrder a b = .eq := by
  obtain ⟨o, rfl, ho⟩ := ha
  obtain ⟨p, rfl, hp⟩ := hb
  simp only [sortOrder_obj, order?, ho, hp, Option.getD_none]

/-! ## Grades -/

/-- The place of a truth value or a number in the order of its kind. -/
def place : Option Json → Int
  | some (bool b) => b.toNat
  | some (num n) => n.toDouble.rank
  | _ => 0

/-- The text that a string or an identifier is sorted by. -/
def sortText : Option Json → String
  | some (str s) => s
  | some (obj o) => (oidText? o).getD ""
  | _ => ""

/-- First the kind, then the place, then the text. -/
def gradeOrder : Option Json → Option Json → Ordering :=
  compareLex (compareOn sortRank) (compareLex (compareOn place) (compareOn sortText))

instance : Std.TransCmp gradeOrder :=
  inferInstanceAs (Std.TransCmp (compareLex _ (compareLex _ _)))

theorem gradeOrder_of_rank_ne {a b : Option Json} (h : sortRank a ≠ sortRank b) :
    gradeOrder a b = compare (sortRank a) (sortRank b) := by
  have hne : compare (sortRank a) (sortRank b) ≠ .eq := fun he => h (Nat.compare_eq_eq.1 he)
  show (compare (sortRank a) (sortRank b)).then _ = _
  cases hc : compare (sortRank a) (sortRank b) with
  | eq => exact absurd hc hne
  | lt => rfl
  | gt => rfl

theorem gradeOrder_of_rank_eq {a b : Option Json} (h : sortRank a = sortRank b) :
    gradeOrder a b
      = (compare (place a) (place b)).then (compare (sortText a) (sortText b)) := by
  show (compare (sortRank a) (sortRank b)).then _ = _
  rw [Nat.compare_eq_eq.2 h]
  rfl

/-- Where no identifier meets an object that is none, the grades decide. -/
theorem sortOrder_of_not_unlike {a b : Option Json} (h : ¬ Unlike a b) :
    sortOrder a b = gradeOrder a b := by
  by_cases hrank : sortRank a = sortRank b
  · rw [gradeOrder_of_rank_eq hrank]
    -- of the pairs of kinds only those that share a rank are left
    rcases a with _ | _ | x | n | s | xs | o <;> rcases b with _ | _ | y | m | t | ys | p <;>
      simp [sortRank] at hrank
    case some.bool.some.bool =>
      cases x <;> cases y <;> rfl
    case some.num.some.num =>
      exact Ordering.then_eq.symm
    case some.obj.some.obj =>
      cases ho : oidText? o with
      | none =>
        cases hp : oidText? p with
        | none => simp [sortOrder_obj, order?, place, sortText, ho, hp]
        | some t => exact absurd (.inr ⟨⟨o, rfl, ho⟩, t, p, rfl, hp⟩) h
      | some s =>
        cases hp : oidText? p with
        | none => exact absurd (.inl ⟨⟨s, o, rfl, ho⟩, p, rfl, hp⟩) h
        | some t => simp [sortOrder_obj, order?, place, sortText, ho, hp]
    all_goals rfl
  · rw [gradeOrder_of_rank_ne hrank]
    exact if_neg hrank

/-! ## The two ways round -/

theorem sortOrder_swap (a b : Option Json) : sortOrder b a = (sortOrder a b).swap := by
  by_cases h : Unlike a b
  · rw [sortOrder_of_unlike h, sortOrder_of_unlike h.symm]
    rfl
  · rw [sortOrder_of_not_unlike h, sortOrder_of_not_unlike fun h' => h h'.symm]
    exact Std.OrientedCmp.eq_swap

instance : Std.OrientedCmp sortOrder where
  eq_swap {a b} := sortOrder_swap b a

/-! ## Transitivity -/

theorem sortRank_eq_five_iff (a : Option Json) : sortRank a = 5 ↔ ∃ o, a = some (.obj o) := by
  rcases a with _ | _ | x | n | s | xs | o <;> simp [sortRank]

theorem Unlike.sortRank {a b : Option Json} (h : Unlike a b) : sortRank a = 5 ∧ sortRank b = 5 := by
  simp only [sortRank_eq_five_iff]
  rcases h with ⟨⟨-, o, ho, -⟩, p, hp, -⟩ | ⟨⟨o, ho, -⟩, -, p, hp, -⟩
  · exact ⟨⟨o, ho⟩, p, hp⟩
  · exact ⟨⟨o, ho⟩, p, hp⟩

/-- Of two objects that are unlike, one is also unlike any third. -/
theorem Unlike.third {a b c : Option Json} (h : Unlike a b) (hc : Json.sortRank c = 5) :
    Unlike a c ∨ Unlike b c := by
  obtain ⟨q, rfl⟩ := (sortRank_eq_five_iff c).1 hc
  cases hq : oidText? q with
  | none =>
    have hplain : IsPlainObject (some (.obj q)) := ⟨q, rfl, hq⟩
    rcases h with ⟨ha, hb⟩ | ⟨ha, hb⟩
    · exact .inl (.inl ⟨ha, hplain⟩)
    · exact .inr (.inl ⟨hb, hplain⟩)
  | some u =>
    have hid : ∃ s, IsIdentifier (some (.obj q)) s := ⟨u, q, rfl, hq⟩
    rcases h with ⟨ha, hb⟩ | ⟨ha, hb⟩
    · exact .inr (.inr ⟨hb, hid⟩)
    · exact .inl (.inr ⟨ha, hid⟩)

/-- To a field that is unlike neither, an identifier and an object that is none stand
alike. -/
theorem sortOrder_eq_left {a b c : Option Json} (h : Unlike a b) (hac : ¬ Unlike a c)
    (hbc : ¬ Unlike b c) : sortOrder a c = sortOrder b c := by
  have hc : sortRank c ≠ 5 := fun hc => (h.third hc).elim hac hbc
  obtain ⟨ha, hb⟩ := h.sortRank
  unfold sortOrder
  rw [ha, hb, if_neg hc.symm, if_neg hc.symm]

/-- An object that is no identifier, between the identifiers with the texts `s` and `t`. -/
def Straddles (a b c : Option Json) (s t : String) : Prop :=
  IsIdentifier a s ∧ IsPlainObject b ∧ IsIdentifier c t

theorem Straddles.symm {a b c : Option Json} {s t : String} (h : Straddles a b c s t) :
    Straddles c b a t s :=
  ⟨h.2.2, h.2.1, h.1⟩

theorem sortOrder_of_straddles {a b c : Option Json} {s t : String} (h : Straddles a b c s t) :
    sortOrder a b = .eq ∧ sortOrder b c = .eq ∧ sortOrder a c = compare s t := by
  obtain ⟨ha, hb, hc⟩ := h
  exact ⟨sortOrder_of_unlike (.inl ⟨⟨s, ha⟩, hb⟩), sortOrder_of_unlike (.inr ⟨hb, t, hc⟩),
    sortOrder_identifiers ha hc⟩

theorem sortOrder_isLE_trans {a b c : Option Json}
    (hmiddle : ∀ s t, Straddles a b c s t → (compare s t).isLE) (hab : (sortOrder a b).isLE)
    (hbc : (sortOrder b c).isLE) : (sortOrder a c).isLE := by
  by_cases hac' : Unlike a c
  · rw [sortOrder_of_unlike hac']
    rfl
  by_cases hab' : Unlike a b <;> by_cases hbc' : Unlike b c
  · -- both outer ones are of the sort that the middle is not
    rcases hab' with ⟨⟨s, ha⟩, hb⟩ | ⟨ha, s, hb⟩
    · rcases hbc' with ⟨⟨t, hb'⟩, -⟩ | ⟨-, t, hc⟩
      · exact absurd hb hb'.not_plain
      · rw [sortOrder_identifiers ha hc]
        exact hmiddle s t ⟨ha, hb, hc⟩
    · rcases hbc' with ⟨-, hc⟩ | ⟨hb', -⟩
      · rw [sortOrder_plainObjects ha hc]
        rfl
      · exact absurd hb' hb.not_plain
  · rwa [sortOrder_eq_left hab' hac' hbc']
  · -- the same with the last two, read the other way round
    have hright : sortOrder b a = sortOrder c a :=
      sortOrder_eq_left hbc' (fun h => hab' h.symm) (fun h => hac' h.symm)
    rwa [sortOrder_swap, ← hright, ← sortOrder_swap]
  · rw [sortOrder_of_not_unlike hab'] at hab
    rw [sortOrder_of_not_unlike hbc'] at hbc
    rw [sortOrder_of_not_unlike hac']
    exact Std.TransCmp.isLE_trans hab hbc

theorem sortOrder_eq_trans {a b c : Option Json} (hmiddle : ∀ s t, Straddles a b c s t → s = t)
    (hab : sortOrder a b = .eq) (hbc : sortOrder b c = .eq) : sortOrder a c = .eq := by
  have hle : ∀ s t : String, s = t → (compare s t).isLE := by
    rintro s _ rfl
    exact Std.ReflCmp.isLE_rfl
  -- not greater either way round
  have hac : (sortOrder a c).isLE :=
    sortOrder_isLE_trans (fun s t h => hle s t (hmiddle s t h)) (Ordering.isLE_of_eq_eq hab)
      (Ordering.isLE_of_eq_eq hbc)
  have hca : (sortOrder c a).isLE :=
    sortOrder_isLE_trans (fun s t h => hle s t (hmiddle t s h.symm).symm)
      (Ordering.isLE_of_eq_eq (Std.OrientedCmp.eq_symm hbc))
      (Ordering.isLE_of_eq_eq (Std.OrientedCmp.eq_symm hab))
  exact Std.OrientedCmp.isLE_antisymm hac hca

/-- The sort order is the reverse of itself the other way round, and it is transitive, in what
is not greater and in what ties, unless an object that is no identifier stands between two
identifiers: that one ties with both, and they stand to each other as their texts do. -/
theorem sortOrder_preorder_iff (a b c : Option Json) :
    sortOrder b a = (sortOrder a b).swap ∧
    ((sortOrder a b ≠ .gt → sortOrder b c ≠ .gt → sortOrder a c ≠ .gt) ↔
      ∀ s t, Straddles a b c s t → compare s t ≠ .gt) ∧
    ((sortOrder a b = .eq → sortOrder b c = .eq → sortOrder a c = .eq) ↔
      ∀ s t, Straddles a b c s t → s = t) := by
  refine ⟨sortOrder_swap a b, ⟨fun h s t hst => ?_, fun h => ?_⟩,
    ⟨fun h s t hst => ?_, sortOrder_eq_trans⟩⟩
  · obtain ⟨hab, hbc, hac⟩ := sortOrder_of_straddles hst
    rw [← hac]
    exact h (by rw [hab]; decide) (by rw [hbc]; decide)
  · simp only [← Ordering.isLE_iff_ne_gt] at h ⊢
    exact sortOrder_isLE_trans h
  · obtain ⟨hab, hbc, hac⟩ := sortOrder_of_straddles hst
    exact Std.compare_eq_iff_eq.1 (hac.symm.trans (h hab hbc))

/-- Two identifiers, the greater one first, and between them an object that is none. -/
def keptApart : List Object :=
  [[("k", .obj [(oidKey, .str "b")])], [("k", .obj [])], [("k", .obj [(oidKey, .str "a")])]]

/-- The object ties with both, the first identifier is greater than the last, and sorting
leaves them in this order. -/
theorem sorted_keptApart :
    sortOrder (some (.obj [(oidKey, .str "b")])) (some (.obj [])) = .eq ∧
    sortOrder (some (.obj [])) (some (.obj [(oidKey, .str "a")])) = .eq ∧
    sortOrder (some (.obj [(oidKey, .str "b")])) (some (.obj [(oidKey, .str "a")])) = .gt ∧
    Engine.sorted (some ⟨"k", false⟩) keptApart = keptApart :=
  ⟨rfl, rfl, rfl, rfl⟩

end Json

end DocStore
