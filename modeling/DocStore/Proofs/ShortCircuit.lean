import DocStore.Filter
import Mathlib.Data.List.Forall2

/-!
Answers asked one after the other, up to their order.

A filter, a document of operators, the clauses of `$and` and `$or` and the elements of an
array are all evaluated by one loop: the first answer of one kind, or the first fault,
settles it (`settle`).  A verdict of the loop says something about all of its answers,
whatever their order,

    settle stop as = .ok stop  → .ok stop ∈ as               (mem_of_settle)
    settle stop as = .ok !stop ↔ all of `as` are .ok !stop   (settle_eq_not_iff)

so loops whose answers do not contradict each other do not either, in whatever order and
however often the answers stand there                        (Paired.settle)
-/

namespace DocStore.Filter

variable {ε : Type}

/-! ## The loop -/

/-- The first answer that is `stop`, or a fault, settles it; else it is the other one. -/
def settle (stop : Bool) : List (Except ε Bool) → Except ε Bool
  | [] => .ok !stop
  | .ok b :: rest => if b = stop then .ok stop else settle stop rest
  | .error e :: _ => .error e

theorem settle_false_cons (a : Except ε Bool) (as : List (Except ε Bool)) :
    settle false (a :: as) = andThen a (settle false as) := by
  rcases a with e | _ | _ <;> rfl

theorem settle_true_cons (a : Except ε Bool) (as : List (Except ε Bool)) :
    settle true (a :: as) = orElse a (settle true as) := by
  rcases a with e | _ | _ <;> rfl

theorem mem_of_settle {stop : Bool} {as : List (Except ε Bool)} (h : settle stop as = .ok stop) :
    .ok stop ∈ as := by
  induction as with
  | nil => cases stop <;> cases h
  | cons a as ih =>
    rcases a with e | b
    · cases h
    · unfold settle at h
      split at h
      · next hb =>
        rw [hb]
        exact List.mem_cons_self
      · exact List.mem_cons_of_mem _ (ih h)

theorem all_of_settle {stop : Bool} {as : List (Except ε Bool)}
    (h : settle stop as = .ok !stop) : ∀ a ∈ as, a = .ok !stop := by
  induction as with
  | nil => exact nofun
  | cons a as ih =>
    rcases a with e | b
    · cases h
    · unfold settle at h
      split at h
      · cases stop <;> cases h
      · next hb => exact List.forall_mem_cons.2 ⟨by rw [Bool.eq_not.2 hb], ih h⟩

/-- A fault of the loop is one of its answers. -/
theorem mem_of_settle_error {stop : Bool} {as : List (Except ε Bool)} {e : ε}
    (h : settle stop as = .error e) : .error e ∈ as := by
  induction as with
  | nil => cases h
  | cons a as ih =>
    rcases a with e' | b
    · cases h
      exact List.mem_cons_self
    · unfold settle at h
      split at h
      · cases h
      · exact List.mem_cons_of_mem _ (ih h)

theorem settle_eq_not_iff {stop : Bool} {as : List (Except ε Bool)} :
    settle stop as = .ok !stop ↔ ∀ a ∈ as, a = .ok !stop := by
  refine ⟨all_of_settle, fun h => ?_⟩
  induction as with
  | nil => rfl
  | cons a as ih =>
    obtain ⟨ha, has⟩ := List.forall_mem_cons.1 h
    rw [ha, settle, if_neg (by cases stop <;> decide), ih has]

/-- A verdict is `stop` just when one of the answers is. -/
theorem eq_stop_iff_of_settle {stop b : Bool} {as : List (Except ε Bool)}
    (h : settle stop as = .ok b) : b = stop ↔ .ok stop ∈ as := by
  constructor
  · rintro rfl
    exact mem_of_settle h
  · intro hmem
    by_contra hb
    rw [Bool.eq_not.2 hb] at h
    have hstop : (.ok stop : Except ε Bool) = .ok !stop := all_of_settle h _ hmem
    cases stop <;> cases hstop

theorem settle_false_append (as bs : List (Except ε Bool)) :
    settle false (as ++ bs) = andThen (settle false as) (settle false bs) := by
  induction as with
  | nil => rfl
  | cons a as ih =>
    rw [List.cons_append, settle_false_cons, settle_false_cons, ih]
    rcases a with e | _ | _ <;> rfl

/-- The loop over answers without a fault. -/
theorem settle_map_ok {α : Type} (stop : Bool) (test : α → Bool) (xs : List α) :
    settle stop (xs.map fun x => (.ok (test x) : Except ε Bool))
      = .ok (xs.any (test · == stop) == stop) := by
  induction xs with
  | nil => cases stop <;> rfl
  | cons x xs ih =>
    rw [List.map_cons, settle, ih, List.any_cons]
    cases stop <;> cases test x <;> rfl

/-! ## Answers without contradiction -/

/-- Two answers do not contradict each other: they are the same, or one is a fault. -/
def Compatible (a b : Except ε Bool) : Prop :=
  ∀ x y, a = .ok x → b = .ok y → x = y

namespace Compatible

variable {a b : Except ε Bool}

theorem refl (a : Except ε Bool) : Compatible a a := by
  rintro x y hx hy
  rw [hx] at hy
  cases hy
  rfl

theorem of_eq (h : a = b) : Compatible a b := by
  rw [h]
  exact refl b

theorem of_error_left (e : ε) (b : Except ε Bool) : Compatible (.error e) b :=
  nofun

theorem of_error_right (a : Except ε Bool) (e : ε) : Compatible a (.error e) :=
  nofun

end Compatible

/-- Every answer of either list has one in the other list that it does not contradict. -/
structure Paired (as bs : List (Except ε Bool)) : Prop where
  left : ∀ a ∈ as, ∃ b ∈ bs, Compatible a b
  right : ∀ b ∈ bs, ∃ a ∈ as, Compatible a b

namespace Paired

variable {as bs cs : List (Except ε Bool)}

theorem of_forall₂ (h : List.Forall₂ Compatible as bs) : Paired as bs := by
  induction h with
  | nil => exact ⟨nofun, nofun⟩
  | cons hab _ ih =>
    refine ⟨List.forall_mem_cons.2 ⟨⟨_, List.mem_cons_self, hab⟩, fun a ha => ?_⟩,
      List.forall_mem_cons.2 ⟨⟨_, List.mem_cons_self, hab⟩, fun b hb => ?_⟩⟩
    · obtain ⟨b, hb, hab⟩ := ih.left a ha
      exact ⟨b, List.mem_cons_of_mem _ hb, hab⟩
    · obtain ⟨a, ha, hab⟩ := ih.right b hb
      exact ⟨a, List.mem_cons_of_mem _ ha, hab⟩

theorem perm_right (h : Paired as bs) (hp : bs.Perm cs) : Paired as cs where
  left a ha := by
    obtain ⟨b, hb, hab⟩ := h.left a ha
    exact ⟨b, hp.mem_iff.1 hb, hab⟩
  right c hc := h.right c (hp.mem_iff.2 hc)

theorem of_perm (h : as.Perm bs) : Paired as bs :=
  (of_forall₂ (List.forall₂_same.2 fun a _ => .refl a)).perm_right h

/-- Two questions asked about the same things. -/
theorem map {α : Type} {f g : α → Except ε Bool} {xs : List α}
    (h : ∀ x ∈ xs, Compatible (f x) (g x)) : Paired (xs.map f) (xs.map g) := by
  refine of_forall₂ ?_
  rw [List.forall₂_map_left_iff, List.forall₂_map_right_iff, List.forall₂_same]
  exact h

end Paired

/-- Verdicts on paired answers do not contradict each other. -/
theorem Paired.settle {as bs : List (Except ε Bool)} (h : Paired as bs) (stop : Bool) :
    Compatible (settle stop as) (settle stop bs) := by
  intro x y hx hy
  -- the one that stopped has an answer that the other one does not allow
  by_cases hxs : x = stop <;> by_cases hys : y = stop
  · rw [hxs, hys]
  · rw [hxs] at hx
    rw [Bool.eq_not.2 hys] at hy
    obtain ⟨b, hb, hab⟩ := h.left _ (mem_of_settle hx)
    rw [hxs, Bool.eq_not.2 hys]
    exact hab _ _ rfl (all_of_settle hy b hb)
  · rw [Bool.eq_not.2 hxs] at hx
    rw [hys] at hy
    obtain ⟨a, ha, hab⟩ := h.right _ (mem_of_settle hy)
    rw [hys, Bool.eq_not.2 hxs]
    exact hab _ _ (all_of_settle hx a ha) rfl
  · rw [Bool.eq_not.2 hxs, Bool.eq_not.2 hys]

/-! ## The evaluation as loops -/

/-- The answer of one clause; what is no document is passed over. -/
def clause (stop : Bool) (doc : Json.Object) : Json → Except Fault Bool
  | .obj filter => matchEntries filter doc
  | _ => .ok !stop

theorem matchEntries_eq (es doc : Json.Object) :
    matchEntries es doc = settle false (es.map fun e => matchEntry e.1 e.2 doc) := by
  induction es with
  | nil => rfl
  | cons e es ih =>
    rw [List.map_cons, settle_false_cons, ← ih]
    rfl

theorem matchOperators_eq (flags : String) (ops : Json.Object) (actual : Option Json) :
    matchOperators flags ops actual
      = settle false (ops.map fun e => matchOperator flags e.1 e.2 actual) := by
  induction ops with
  | nil => rfl
  | cons e ops ih =>
    rw [List.map_cons, settle_false_cons, ← ih]
    rfl

theorem matchAll_eq (items : List Json) (doc : Json.Object) :
    matchAll items doc = settle false (items.map (clause false doc)) := by
  induction items with
  | nil => rfl
  | cons v items ih =>
    rw [List.map_cons, settle_false_cons, ← ih]
    cases v <;> rfl

theorem matchAny_eq (items : List Json) (doc : Json.Object) :
    matchAny items doc = settle true (items.map (clause true doc)) := by
  induction items with
  | nil => rfl
  | cons v items ih =>
    rw [List.map_cons, settle_true_cons, ← ih]
    cases v <;> rfl

theorem anyOk_eq {α : Type} (test : α → Except ε Bool) (xs : List α) :
    anyOk test xs = settle true (xs.map test) := by
  induction xs with
  | nil => rfl
  | cons x xs ih =>
    rw [List.map_cons, settle_true_cons, ← ih, anyOk]
    rcases test x with e | _ | _ <;> rfl

/-- The keys that clauses stand under, with the answer that settles them. -/
def stopOf? (key : String) : Option Bool :=
  if key = "$and" then some false else if key = "$or" then some true else none

theorem matchEntry_clauses {key : String} {stop : Bool} (h : stopOf? key = some stop) (v : Json)
    (doc : Json.Object) :
    matchEntry key v doc =
      match checkClauses key v with
      | .error e => .error e
      | .ok () => settle stop ((v.items?.getD []).map (clause stop doc)) := by
  unfold stopOf? at h
  unfold matchEntry
  split at h
  · next hand =>
    cases h
    rw [if_pos hand]
    cases v <;> simp only [matchAll_eq, Json.items?, Option.getD_some, Option.getD_none] <;> rfl
  · next hand =>
    split at h
    · next hor =>
      cases h
      rw [if_neg hand, if_pos hor]
      cases v <;> simp only [matchAny_eq, Json.items?, Option.getD_some, Option.getD_none] <;> rfl
    · cases h

/-- What a condition says of a field. -/
def matchCondition (condition : Json) (actual : Option Json) : Except Fault Bool :=
  match condition with
  | .obj o =>
    match operators? o with
    | .error e => .error e
    | .ok true => matchOperators (flagsOf o) o actual
    | .ok false => .ok (equals actual (.obj o))
  | v => .ok (equals actual v)

theorem matchEntry_condition {key : String} (h : stopOf? key = none) (v : Json)
    (doc : Json.Object) :
    matchEntry key v doc =
      if startsWithDollar key then .error (.unknownClause key)
      else matchCondition v (Json.lookup doc key) := by
  unfold stopOf? at h
  unfold matchEntry
  split at h
  · cases h
  · next hand =>
    split at h
    · cases h
    · next hor =>
      rw [if_neg hand, if_neg hor]
      rfl

/-- What an element filter says of one element: operators are asked of any element, a filter
of those that are documents. -/
def element (sub : Json.Object) (ops : Bool) (x : Json) : Except Fault Bool :=
  match ops, x with
  | true, x => matchOperators (flagsOf sub) sub (some x)
  | false, .obj doc => matchEntries sub doc
  | false, _ => .ok false

/-- What an element filter says of a list of elements. -/
def matchElements (operand : Json) (xs : List Json) : Except Fault Bool :=
  match operand with
  | .obj sub =>
    match operators? sub with
    | .error e => .error e
    | .ok ops => settle true (xs.map (element sub ops))
  | _ => .error .elementNoDocument

theorem matchOperator_elemMatch {name : String} (h : Operator.ofName? name = some .elemMatch)
    (flags : String) (operand : Json) (actual : Option Json) :
    matchOperator flags name operand actual =
      match actual with
      | some (.arr xs) => matchElements operand xs
      | _ => .ok false := by
  unfold matchOperator
  simp only [h]
  cases actual with
  | none => rfl
  | some v =>
    cases v with
    | arr xs =>
      cases operand with
      | obj sub =>
        simp only [matchElements]
        cases operators? sub with
        | error e => rfl
        | ok ops =>
          cases ops with
          | true => exact anyOk_eq _ xs
          | false =>
            refine (anyOk_eq _ xs).trans (congrArg _ (List.map_congr_left fun x _ => ?_))
            cases x <;> rfl
      | _ => rfl
    | _ => rfl

end DocStore.Filter
