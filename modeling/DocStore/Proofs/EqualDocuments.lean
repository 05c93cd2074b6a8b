import DocStore.Proofs.Equality
import DocStore.Proofs.ShortCircuit

/-!
Filters over documents that are equal.

A filter reads a field through equality, an order, a text or its presence, and none of
these tells alike fields apart.  So a filter says the same of alike documents, faults
included, by induction on what stands in it (`Filter.Blind`):

    Option.Rel Alike a a' → equals a v = equals a' v         (equals_left)
    Alike (obj d) (obj d') → matches? f d = matches? f d'    (matches?_alike)
-/

namespace DocStore

open Json (Object Alike)

namespace Filter

/-! ## Fields -/

theorem any_eq_of_forall₂ {f g : Json → Bool} {xs ys : List Json}
    (h : List.Forall₂ (fun x y => f x = g y) xs ys) : xs.any f = ys.any g := by
  have hany := congrArg (List.any · id) (map_eq_of_forall₂ h)
  simpa using hany

theorem equals_left {a a' : Option Json} (h : Option.Rel Alike a a') (expected : Json) :
    equals a expected = equals a' expected := by
  cases h with
  | none => rfl
  | some h =>
    have hsame := h.same_left expected
    cases h with
    | arr hitems =>
      have hany := any_eq_of_forall₂ (hitems.imp fun _ _ h => h.same_left expected)
      rw [equals, equals, hsame, hany]
    | _ => exact hsame

theorem equals_right {v w : Json} (h : Alike v w) (actual : Option Json) :
    equals actual v = equals actual w := by
  fun_cases equals actual v with
  | case1 => exact h.isNull_eq
  | case2 xs => simp only [equals, h.same_right]
  | case3 u hu =>
    rw [h.same_right]
    cases u with
    | arr xs => exact absurd rfl (hu xs)
    | _ => rfl

theorem anyElement_congr {a a' : Option Json} (h : Option.Rel Alike a a') {test : Json → Bool}
    (htest : ∀ v w, Alike v w → test v = test w) : anyElement a test = anyElement a' test := by
  cases h with
  | none => rfl
  | some h =>
    have hself := htest _ _ h
    cases h with
    | arr hitems => exact any_eq_of_forall₂ (hitems.imp htest)
    | _ => exact hself

theorem inRange_left {a a' : Option Json} (h : Option.Rel Alike a a') (op : Comparison)
    (bound : Json) : inRange op a bound = inRange op a' bound :=
  anyElement_congr h fun _ _ hvw => by rw [hvw.order?_left]

theorem inRange_right {v w : Json} (h : Alike v w) (op : Comparison) (actual : Option Json) :
    inRange op actual v = inRange op actual w := by
  unfold inRange
  simp only [h.order?_right]

theorem matchesText_left {a a' : Option Json} (h : Option.Rel Alike a a') (r : Regex) :
    matchesText a r = matchesText a' r :=
  anyElement_congr h fun _ _ hvw => by rw [hvw.string?_eq]

/-! ## Equal documents -/

/-- What stands somewhere in a filter says the same of fields and documents that are
equal. -/
structure Blind (v : Json) : Prop where
  clause : ∀ stop d d', Alike (.obj d) (.obj d') → clause stop d v = clause stop d' v
  entry : ∀ key d d', Alike (.obj d) (.obj d') → matchEntry key v d = matchEntry key v d'
  operator : ∀ flags name a a', Option.Rel Alike a a' →
    matchOperator flags name v a = matchOperator flags name v a'

section

variable {v : Json} (hv : ∀ x ∈ v.parts, Blind x) {o : Object}
  (ho : ∀ x ∈ (Json.obj o).parts, Blind x)

include ho in
theorem matchEntries_alike {d d' : Object} (h : Alike (.obj d) (.obj d')) :
    matchEntries o d = matchEntries o d' := by
  rw [matchEntries_eq, matchEntries_eq, List.map_congr_left]
  exact fun e he => (ho e.2 (Object.mem_parts he)).entry e.1 d d' h

include ho in
theorem matchOperators_alike (flags : String) {a a' : Option Json} (h : Option.Rel Alike a a') :
    matchOperators flags o a = matchOperators flags o a' := by
  rw [matchOperators_eq, matchOperators_eq, List.map_congr_left]
  exact fun e he => (ho e.2 (Object.mem_parts he)).operator flags e.1 a a' h

include ho in
theorem element_alike (ops : Bool) {x y : Json} (h : Alike x y) :
    element o ops x = element o ops y := by
  cases ops with
  | true => exact matchOperators_alike ho _ (.some h)
  | false =>
    have hmatch := @matchEntries_alike o ho
    cases x with
    | obj d =>
      cases y with
      | obj d' => exact hmatch h
      | _ => cases h
    | _ =>
      cases h
      all_goals rfl

include hv

theorem clause_alike (stop : Bool) {d d' : Object} (h : Alike (.obj d) (.obj d')) :
    clause stop d v = clause stop d' v := by
  cases v with
  | obj o => exact matchEntries_alike hv h
  | _ => rfl

theorem matchCondition_alike {a a' : Option Json} (h : Option.Rel Alike a a') :
    matchCondition v a = matchCondition v a' := by
  cases v with
  | obj o => simp only [matchCondition, matchOperators_alike hv _ h, equals_left h]
  | _ => exact congrArg Except.ok (equals_left h _)

theorem matchElements_alike {xs ys : List Json} (h : List.Forall₂ Alike xs ys) :
    matchElements v xs = matchElements v ys := by
  cases v with
  | obj sub =>
    have hall : ∀ ops, xs.map (element sub ops) = ys.map (element sub ops) := fun ops =>
      map_eq_of_forall₂ (h.imp fun _ _ => element_alike hv ops)
    simp only [matchElements, hall]
  | _ => rfl

theorem matchOperator_alike (flags name : String) {a a' : Option Json}
    (h : Option.Rel Alike a a') :
    matchOperator flags name v a = matchOperator flags name v a' := by
  cases hop : Operator.ofName? name with
  | none =>
    unfold matchOperator
    simp only [hop]
  | some op =>
    cases op with
    | elemMatch =>
      rw [matchOperator_elemMatch hop, matchOperator_elemMatch hop]
      cases h with
      | none => rfl
      | some h =>
        cases h with
        | arr hitems => exact matchElements_alike hv hitems
        | _ => rfl
    | _ =>
      have hequals : equals a = equals a' := funext (equals_left h)
      have hsome : a.isSome = a'.isSome := by cases h <;> rfl
      unfold matchOperator
      simp only [hop, hequals, inRange_left h, matchesText_left h, hsome]

theorem matchEntry_alike (key : String) {d d' : Object} (h : Alike (.obj d) (.obj d')) :
    matchEntry key v d = matchEntry key v d' := by
  cases hstop : stopOf? key with
  | none =>
    rw [matchEntry_condition hstop, matchEntry_condition hstop,
      matchCondition_alike hv (h.lookup key)]
  | some stop =>
    have hclauses : (v.items?.getD []).map (clause stop d)
        = (v.items?.getD []).map (clause stop d') := by
      cases v with
      | arr xs => exact List.map_congr_left fun x hx => (hv x hx).clause stop d d' h
      | _ => rfl
    rw [matchEntry_clauses hstop, matchEntry_clauses hstop, hclauses]

end

theorem blind (v : Json) : Blind v := by
  induction v using Json.induction_parts with
  | step v ih =>
    exact ⟨fun stop _ _ => clause_alike ih stop, fun key _ _ => matchEntry_alike ih key,
      fun flags name _ _ => matchOperator_alike ih flags name⟩

/-- A filter answers the same about documents that are equal, faults included. -/
theorem matches?_alike (f : Object) {d d' : Object} (h : Alike (.obj d) (.obj d')) :
    matches? f d = matches? f d' :=
  matchEntries_alike (fun x _ => blind x) h

end Filter

end DocStore
