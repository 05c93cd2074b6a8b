import DocStore.Filter
import DocStore.Proofs.Document
import Mathlib.Data.List.Forall2
import Mathlib.Data.List.Perm.Subperm

/-!
Equality of values, which looks through the order of entries at every depth.

For values in which no object has a key twice (`Json.WellFormed`) equality compares arrays
item by item and objects key by key, and values that are equal are `Json.Alike`:

    (obj o).same (obj p) ↔ o.keys.Perm p.keys ∧ equal values under equal keys
                                                             (same_obj)

Equality, the orders and the readers of one kind do not tell values apart that are alike,
and paths lead to values that are alike:

    Alike v w → v.same e = w.same e                          (Alike.same_left)
    Alike (obj d) (obj d') → Option.Rel Alike (lookup d path) (lookup d' path)
                                                             (Alike.lookup)
-/

namespace DocStore

open Json (Object)

/-! ## Lists side by side -/

theorem map_eq_of_forall₂ {α β γ : Type} {f : α → γ} {g : β → γ} {xs : List α} {ys : List β}
    (h : List.Forall₂ (fun x y => f x = g y) xs ys) : xs.map f = ys.map g := by
  have hmap : List.Forall₂ (· = ·) (xs.map f) (ys.map g) := by
    rw [List.forall₂_map_left_iff, List.forall₂_map_right_iff]
    exact h
  rwa [List.forall₂_eq_eq_eq] at hmap

/-- A relation between items also knows where they stand. -/
theorem forall₂_of_mem {α β : Type} {R S : α → β → Prop} {xs : List α} {ys : List β}
    (h : List.Forall₂ R xs ys) (hS : ∀ x ∈ xs, ∀ y ∈ ys, R x y → S x y) :
    List.Forall₂ S xs ys :=
  List.forall₂_iff_zip.2 ⟨h.length_eq, fun hmem =>
    hS _ (List.of_mem_zip hmem).1 _ (List.of_mem_zip hmem).2 (List.forall₂_zip h hmem)⟩

/-- Members that are each related to something are related side by side to a list. -/
theorem exists_forall₂_iff {α β : Type} {R : α → β → Prop} (xs : List α) :
    (∃ ys, List.Forall₂ R xs ys) ↔ ∀ x ∈ xs, ∃ y, R x y := by
  induction xs with
  | nil => simp
  | cons x xs ih =>
    rw [List.forall_mem_cons, ← ih]
    constructor
    · rintro ⟨_, h⟩
      cases h with
      | cons hx hxs => exact ⟨⟨_, hx⟩, _, hxs⟩
    · rintro ⟨⟨y, hx⟩, ys, hxs⟩
      exact ⟨y :: ys, .cons hx hxs⟩

/-! ## Numbers -/

namespace Number

/-- What equality sees of a number: its kind, and its value. -/
def reading : Number → Int ⊕ Int
  | whole n _ => .inl n
  | real x => .inr x.rank

theorem same_eq (a b : Number) : a.same b = decide (a.reading = b.reading) := by
  cases a <;> cases b <;> simp [same, reading, Double.same, beq_eq_decide]

/-- Equal numbers stand alike to every number. -/
theorem rank_toDouble {a b : Number} (h : a.same b = true) : a.toDouble.rank = b.toDouble.rank := by
  rw [same_eq, decide_eq_true_iff] at h
  cases a with
  | whole n _ =>
    cases b with
    | whole m _ => rw [toDouble, toDouble, Sum.inl.inj h]
    | real y => cases h
  | real x =>
    cases b with
    | whole m _ => cases h
    | real y => exact Sum.inr.inj h

end Number

namespace Json

/-! ## Values -/

/-- Induction on a value, the items of an array and the values of an object. -/
@[elab_as_elim]
theorem induction {motive : Json → Prop} (null : motive .null) (bool : ∀ b, motive (.bool b))
    (num : ∀ n, motive (.num n)) (str : ∀ s, motive (.str s))
    (arr : ∀ xs, (∀ x ∈ xs, motive x) → motive (.arr xs))
    (obj : ∀ o, (∀ e ∈ o, motive e.2) → motive (.obj o)) (v : Json) : motive v :=
  @Json.rec motive (fun xs => ∀ x ∈ xs, motive x) (fun o => ∀ e ∈ o, motive e.2)
    (fun e => motive e.2) null bool num str arr obj
    nofun (fun _ _ hx hxs => List.forall_mem_cons.2 ⟨hx, hxs⟩)
    nofun (fun _ _ he ho => List.forall_mem_cons.2 ⟨he, ho⟩) (fun _ _ hv => hv) v

/-- The items of an array, or the values of an object. -/
def parts : Json → List Json
  | arr xs => xs
  | obj o => o.map (·.2)
  | _ => []

theorem Object.mem_parts {o : Object} {e : String × Json} (h : e ∈ o) : e.2 ∈ (obj o).parts :=
  List.mem_map_of_mem h

@[elab_as_elim]
theorem induction_parts {motive : Json → Prop}
    (step : ∀ v, (∀ x ∈ v.parts, motive x) → motive v) (v : Json) : motive v := by
  induction v using Json.induction with
  | null | bool _ | num _ | str _ => exact step _ nofun
  | arr xs ih => exact step _ ih
  | obj o ih => exact step _ (List.forall_mem_map.2 ih)

/-- No object in the value has a key twice. -/
inductive WellFormed : Json → Prop
  | null : WellFormed null
  | bool (b : Bool) : WellFormed (bool b)
  | num (n : Number) : WellFormed (num n)
  | str (s : String) : WellFormed (str s)
  | arr {xs : List Json} : (∀ x ∈ xs, WellFormed x) → WellFormed (arr xs)
  | obj {o : Object} : o.Distinct → (∀ e ∈ o, WellFormed e.2) → WellFormed (obj o)

instance (o : Object) : Decidable o.Distinct :=
  inferInstanceAs (Decidable o.keys.Nodup)

attribute [simp] WellFormed.null WellFormed.bool WellFormed.num WellFormed.str

@[simp]
theorem wellFormed_arr (xs : List Json) : WellFormed (.arr xs) ↔ ∀ x ∈ xs, x.WellFormed := by
  constructor
  · intro h
    cases h with
    | arr h => exact h
  · exact .arr

@[simp]
theorem wellFormed_obj (o : Object) :
    WellFormed (.obj o) ↔ o.Distinct ∧ ∀ e ∈ o, e.2.WellFormed := by
  constructor
  · intro h
    cases h with
    | obj hd h => exact ⟨hd, h⟩
  · rintro ⟨hd, h⟩
    exact .obj hd h

theorem WellFormed.item {xs : List Json} (h : WellFormed (.arr xs)) :
    ∀ x ∈ xs, x.WellFormed :=
  (wellFormed_arr xs).1 h

theorem WellFormed.distinct {o : Object} (h : WellFormed (.obj o)) : o.Distinct :=
  ((wellFormed_obj o).1 h).1

theorem Object.mem_of_get? {o : Object} {key : String} {v : Json} (h : o.get? key = some v) :
    (key, v) ∈ o := by
  obtain ⟨before, after, rfl, -⟩ := List.lookup_eq_some_iff.1 h
  exact List.mem_append_right _ List.mem_cons_self

/-- Objects with the same keys have values, or none, under the same keys. -/
theorem Object.rel_get? {o p : Object} (hkeys : o.keys.Perm p.keys) {key : String}
    {R : Json → Json → Prop}
    (h : ∀ v w, o.get? key = some v → p.get? key = some w → R v w) :
    Option.Rel R (o.get? key) (p.get? key) := by
  have hnone : o.get? key = none ↔ p.get? key = none := by
    rw [Object.get?_eq_none_iff, Object.get?_eq_none_iff, hkeys.mem_iff]
  cases hv : o.get? key with
  | none =>
    rw [hnone.1 hv]
    exact .none
  | some v =>
    cases hw : p.get? key with
    | none =>
      rw [hnone.2 hw] at hv
      cases hv
    | some w => exact .some (h v w hv hw)

theorem WellFormed.get? {o : Object} (h : WellFormed (.obj o)) {key : String} {v : Json}
    (hv : o.get? key = some v) : v.WellFormed :=
  ((wellFormed_obj o).1 h).2 _ (Object.mem_of_get? hv)

theorem WellFormed.part {v : Json} (h : v.WellFormed) : ∀ x ∈ v.parts, x.WellFormed := by
  cases h with
  | arr h => exact h
  | obj _ h => exact List.forall_mem_map.2 h
  | _ => exact nofun

/-! ## Equality -/

theorem sameItems_iff (xs ys : List Json) :
    sameItems xs ys = true ↔ List.Forall₂ (fun x y => x.same y = true) xs ys := by
  induction xs generalizing ys with
  | nil => cases ys <;> simp [sameItems]
  | cons x xs ih => cases ys <;> simp [sameItems, ih]

theorem sameFields_iff (o p : Object) :
    sameFields o p = true ↔ ∀ e ∈ o, ∃ w, p.get? e.1 = some w ∧ e.2.same w = true := by
  induction o with
  | nil => simp [sameFields]
  | cons e o ih =>
    obtain ⟨k, v⟩ := e
    rw [sameFields, Bool.and_eq_true, ih, List.forall_mem_cons]
    cases p.get? k <;> simp

theorem same_arr (xs ys : List Json) :
    (arr xs).same (arr ys) = true ↔ List.Forall₂ (fun x y => x.same y = true) xs ys := by
  rw [same, sameItems_iff]

/-- Objects are equal when they have the same keys, and equal values under them. -/
theorem same_obj {o : Object} (ho : o.Distinct) (p : Object) :
    (obj o).same (obj p) = true ↔ o.keys.Perm p.keys ∧
      ∀ key v w, o.get? key = some v → p.get? key = some w → v.same w = true := by
  rw [same, Bool.and_eq_true, beq_iff_eq, sameFields_iff]
  constructor
  · rintro ⟨hlength, hfields⟩
    have hsub : o.keys ⊆ p.keys := by
      intro key hkey
      obtain ⟨e, he, rfl⟩ := List.mem_map.1 hkey
      obtain ⟨w, hw, -⟩ := hfields e he
      exact List.mem_map.2 ⟨(e.1, w), Object.mem_of_get? hw, rfl⟩
    refine ⟨(List.Nodup.subperm ho hsub).perm_of_length_le (by simp [Object.keys, hlength]), ?_⟩
    intro key v w hv hw
    obtain ⟨w', hw', hsame⟩ := hfields _ (Object.mem_of_get? hv)
    rw [hw] at hw'
    cases hw'
    exact hsame
  · rintro ⟨hkeys, hvalues⟩
    refine ⟨by simpa [Object.keys] using hkeys.length_eq, fun e he => ?_⟩
    have hv : o.get? e.1 = some e.2 := (Object.mem_iff_get? ho _ _).1 he
    cases hw : p.get? e.1 with
    | none =>
      exact absurd (hkeys.mem_iff.1 (List.mem_map_of_mem he)) ((Object.get?_eq_none_iff p e.1).1 hw)
    | some w => exact ⟨w, rfl, hvalues _ _ _ hv hw⟩

/-! ## Values that are alike -/

/-- Equality as a relation: arrays item by item, objects key by key. -/
inductive Alike : Json → Json → Prop
  | null : Alike null null
  | bool (b : Bool) : Alike (bool b) (bool b)
  | num {a b : Number} : a.same b = true → Alike (num a) (num b)
  | str (s : String) : Alike (str s) (str s)
  | arr {xs ys : List Json} : List.Forall₂ Alike xs ys → Alike (arr xs) (arr ys)
  | obj {o p : Object} : o.Distinct → p.Distinct → o.keys.Perm p.keys →
      (∀ key v w, o.get? key = some v → p.get? key = some w → Alike v w) →
      Alike (obj o) (obj p)

theorem alike_of_same {v w : Json} (hv : v.WellFormed) (hw : w.WellFormed)
    (h : v.same w = true) : Alike v w := by
  induction v using Json.induction generalizing w with
  | null =>
    cases w with
    | null => exact .null
    | _ => simp [same] at h
  | bool b =>
    cases w with
    | bool c =>
      rw [same, beq_iff_eq] at h
      rw [h]
      exact .bool c
    | _ => simp [same] at h
  | num n =>
    cases w with
    | num m => exact .num h
    | _ => simp [same] at h
  | str s =>
    cases w with
    | str t =>
      rw [same, beq_iff_eq] at h
      rw [h]
      exact .str t
    | _ => simp [same] at h
  | arr xs ih =>
    cases w with
    | arr ys =>
      exact .arr (forall₂_of_mem ((same_arr xs ys).1 h)
        fun x hx y hy hxy => ih x hx (hv.item x hx) (hw.item y hy) hxy)
    | _ => simp [same] at h
  | obj o ih =>
    cases w with
    | obj p =>
      obtain ⟨hkeys, hvalues⟩ := (same_obj hv.distinct p).1 h
      refine .obj hv.distinct hw.distinct hkeys fun key v w hget hget' => ?_
      exact ih _ (Object.mem_of_get? hget) (hv.get? hget) (hw.get? hget')
        (hvalues key v w hget hget')
    | _ => simp [same] at h

namespace Alike

theorem refl {v : Json} (h : v.WellFormed) : Alike v v := by
  induction v using Json.induction with
  | null => exact .null
  | bool b => exact .bool b
  | num n => exact .num (by rw [Number.same_eq, decide_eq_true rfl])
  | str s => exact .str s
  | arr xs ih => exact .arr (List.forall₂_same.2 fun x hx => ih x hx (h.item x hx))
  | obj o ih =>
    refine .obj h.distinct h.distinct (.refl _) fun key v w hv hw => ?_
    rw [hv] at hw
    cases hw
    exact ih _ (Object.mem_of_get? hv) (h.get? hv)

/-- Under every key, objects that are alike have alike values, or both none. -/
theorem get? {o p : Object} (h : Alike (.obj o) (.obj p)) (key : String) :
    Option.Rel Alike (o.get? key) (p.get? key) := by
  cases h with
  | obj _ _ hkeys hvalues => exact Object.rel_get? hkeys (hvalues key)

theorem length_eq {o p : Object} (h : Alike (.obj o) (.obj p)) : o.length = p.length := by
  cases h with
  | obj _ _ hkeys _ => simpa [Object.keys] using hkeys.length_eq

/-! ## What does not tell them apart -/

theorem sameItems_left {xs ys : List Json}
    (h : List.Forall₂ (fun x y => ∀ e, x.same e = y.same e) xs ys) (zs : List Json) :
    sameItems xs zs = sameItems ys zs := by
  induction h generalizing zs with
  | nil => rfl
  | cons hxy _ ih =>
    cases zs with
    | nil => rfl
    | cons z zs => rw [sameItems, sameItems, hxy, ih]

theorem sameItems_right {xs ys : List Json} (h : List.Forall₂ Alike xs ys) {zs : List Json}
    (ih : ∀ z ∈ zs, ∀ v w, Alike v w → z.same v = z.same w) :
    sameItems zs xs = sameItems zs ys := by
  induction h generalizing zs with
  | nil => rfl
  | cons hxy _ ih' =>
    cases zs with
    | nil => rfl
    | cons z zs =>
      obtain ⟨hz, hzs⟩ := List.forall_mem_cons.1 ih
      rw [sameItems, sameItems, hz _ _ hxy, ih' hzs]

theorem same_obj_left {o p : Object} (h : Alike (.obj o) (.obj p))
    (ih : ∀ e ∈ o, ∀ w, Alike e.2 w → ∀ x, e.2.same x = w.same x) (q : Object) :
    (Json.obj o).same (.obj q) = (Json.obj p).same (.obj q) := by
  have hget := h.get?
  cases h with
  | obj ho hp hkeys _ =>
    rw [Bool.eq_iff_iff, same_obj ho, same_obj hp]
    refine and_congr (hkeys.congr_left _) (forall_congr' fun key => ?_)
    -- the values under one key
    have hvalue := hget key
    generalize hv : Object.get? o key = v at hvalue ⊢
    generalize Object.get? p key = w at hvalue ⊢
    cases hvalue with
    | none => simp
    | some hvw =>
      have hsame := ih _ (Object.mem_of_get? hv) _ hvw
      constructor
      · rintro h _ x ⟨⟩ hx
        exact (hsame x).symm.trans (h _ x rfl hx)
      · rintro h _ x ⟨⟩ hx
        exact (hsame x).trans (h _ x rfl hx)

theorem sameFields_right {o p : Object} (h : Alike (.obj o) (.obj p)) {q : Object}
    (ih : ∀ e ∈ q, ∀ v w, Alike v w → e.2.same v = e.2.same w) :
    sameFields q o = sameFields q p := by
  rw [Bool.eq_iff_iff, sameFields_iff, sameFields_iff]
  refine forall₂_congr fun e he => ?_
  have hvalue := h.get? e.1
  generalize Object.get? o e.1 = v at hvalue ⊢
  generalize Object.get? p e.1 = w at hvalue ⊢
  cases hvalue with
  | none => simp
  | some hvw => simp [ih e he _ _ hvw]

theorem same_left {v w : Json} (h : Alike v w) (e : Json) : v.same e = w.same e := by
  induction v using Json.induction generalizing w e with
  | null | bool _ | str _ =>
    cases h
    rfl
  | num a =>
    cases h with
    | num h =>
      rw [Number.same_eq, decide_eq_true_iff] at h
      cases e <;> simp [same, Number.same_eq, h]
  | arr xs ih =>
    cases h with
    | arr h =>
      cases e with
      | arr zs => exact sameItems_left (forall₂_of_mem h fun x hx y _ hxy => ih x hx hxy) zs
      | _ => simp [same]
  | obj o ih =>
    cases w with
    | obj p =>
      cases e with
      | obj q => exact h.same_obj_left (fun e he _ h x => ih e he h x) q
      | _ => simp [same]
    | _ => cases h

theorem same_right {v w : Json} (h : Alike v w) (e : Json) : e.same v = e.same w := by
  induction e using Json.induction generalizing v w with
  | null | bool _ | str _ => cases h <;> simp [same]
  | num a =>
    cases h with
    | num h =>
      rw [Number.same_eq, decide_eq_true_iff] at h
      simp [same, Number.same_eq, h]
    | _ => simp [same]
  | arr zs ih =>
    cases h with
    | arr h => exact sameItems_right h fun z hz _ _ hvw => ih z hz hvw
    | _ => simp [same]
  | obj q ih =>
    cases v with
    | obj o =>
      cases w with
      | obj p =>
        rw [same, same, h.length_eq, h.sameFields_right fun e he _ _ hvw => ih e he hvw]
      | _ => cases h
    | _ =>
      cases h
      all_goals simp [same]

theorem string?_eq {v w : Json} (h : Alike v w) : v.string? = w.string? := by
  cases h <;> rfl

theorem bool?_eq {v w : Json} (h : Alike v w) : v.bool? = w.bool? := by
  cases h <;> rfl

theorem isNull_eq {v w : Json} (h : Alike v w) : v.isNull = w.isNull := by
  cases h <;> rfl

theorem oidText?_eq {o p : Object} (h : Alike (.obj o) (.obj p)) : oidText? o = oidText? p := by
  have hvalue := h.get? oidKey
  unfold oidText?
  generalize Object.get? o oidKey = v at hvalue ⊢
  generalize Object.get? p oidKey = w at hvalue ⊢
  cases hvalue with
  | none => rfl
  | some hvw => exact hvw.string?_eq

theorem order?_left {v w : Json} (h : Alike v w) (bound : Json) :
    v.order? bound = w.order? bound := by
  cases h with
  | num h => cases bound <;> simp [order?, Number.order, Double.order, Number.rank_toDouble h]
  | obj ho hp hkeys hvalues =>
    cases bound with
    | obj q => simp [order?, (Alike.obj ho hp hkeys hvalues).oidText?_eq]
    | _ => rfl
  | _ => cases bound <;> rfl

theorem order?_right {v w : Json} (h : Alike v w) (e : Json) : e.order? v = e.order? w := by
  cases h with
  | num h => cases e <;> simp [order?, Number.order, Double.order, Number.rank_toDouble h]
  | obj ho hp hkeys hvalues =>
    cases e with
    | obj q => simp [order?, (Alike.obj ho hp hkeys hvalues).oidText?_eq]
    | _ => rfl
  | _ => cases e <;> rfl

/-! ## Paths -/

theorem descend {v w : Json} (h : Alike v w) (keys : List String) :
    Option.Rel Alike (v.descend keys) (w.descend keys) := by
  induction keys generalizing v w with
  | nil =>
    rw [Json.descend, Json.descend]
    exact .some h
  | cons key keys ih =>
    cases v with
    | obj o =>
      cases w with
      | obj p =>
        have hvalue := h.get? key
        unfold Json.descend
        generalize Object.get? o key = a at hvalue ⊢
        generalize Object.get? p key = b at hvalue ⊢
        cases hvalue with
        | none => exact .none
        | some hvw => exact ih hvw
      | _ => cases h
    | _ =>
      cases h
      all_goals exact .none

theorem lookup {d d' : Object} (h : Alike (.obj d) (.obj d')) (path : String) :
    Option.Rel Alike (Json.lookup d path) (Json.lookup d' path) :=
  h.descend (segments path)

end Alike

end Json

end DocStore
