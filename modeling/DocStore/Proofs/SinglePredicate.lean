import DocStore.Proofs.Markers
import DocStore.Proofs.Verdict

/-!
What one predicate says of a document.

A valid predicate with one constraint compiles, and answers as the constraint does.  Of a field
whose key has no dollar sign, a constraint asks its condition and nothing else:

    p.validate = .ok () → p.constraints = [k] → Says coll [p] doc (the answer of k)
                                                             (says_of_validate)
    matches? [(key, v)] doc = matchCondition v (lookup doc key)
                                                             (matches?_condition)
    a filter with a value says whether the field equals it   (says_filter)
-/

namespace DocStore

open Json (Object)
open DocStore.Filter

/-! ## Lists that hold one predicate -/

/-- A valid predicate with one constraint compiles to a filter that asks for it. -/
theorem matches?_compile_single (coll : String) {p : Predicate} {k : Constraint}
    (hv : p.validate = .ok ()) (hk : p.constraints = [k]) :
    ∃ c, compile coll [p] = .ok c ∧ ∀ doc, matches? c.filter doc = matches? k.toFilter doc := by
  obtain ⟨c, hc, -⟩ := exists_compile coll (List.forall_mem_singleton.2 hv)
  refine ⟨c, hc, fun doc => ?_⟩
  rw [matches?_compile hc, List.flatMap_singleton, hk, verdict_singleton]

/-- The predicates compile, and say so about a document. -/
def Says (coll : String) (ps : List Predicate) (doc : Object) (hit : Bool) : Prop :=
  ∃ c, compile coll ps = .ok c ∧ matches? c.filter doc = .ok hit

theorem says_of_validate {coll : String} {p : Predicate} {k : Constraint} {doc : Object}
    {hit : Bool} (hv : p.validate = .ok ()) (hk : p.constraints = [k])
    (h : matches? k.toFilter doc = .ok hit) : Says coll [p] doc hit := by
  obtain ⟨c, hc, hmatch⟩ := matches?_compile_single coll hv hk
  exact ⟨c, hc, (hmatch doc).trans h⟩

namespace Predicate

variable {key : String} {v : Json} (hv : ∀ o, v = .obj o → isOperators o = false)

include hv

theorem validate_filter (hkey : key ≠ "") : (filter [(key, v)]).validate = .ok () := by
  have hmarker : Pattern.ofMarker? v = none := Pattern.ofMarker?_of_plain hv
  simp [validate, key?, validateFields, hkey, hmarker]

theorem constraints_filter : (filter [(key, v)]).constraints = [.equals [(key, v)]] := by
  have hmarker : Pattern.ofMarker? v = none := Pattern.ofMarker?_of_plain hv
  simp [constraints, plainFields, patternFields, hmarker]

end Predicate

/-! ## Conditions of a field -/

namespace Filter

/-- A key without a dollar sign is no key of clauses. -/
theorem ne_of_plain {key : String} (h : startsWithDollar key = false) :
    key ≠ "$and" ∧ key ≠ "$or" := by
  constructor
  · rintro rfl
    exact absurd h (by decide)
  · rintro rfl
    exact absurd h (by decide)

theorem fieldFault?_of_plain {key : String} (h : startsWithDollar key = false) :
    fieldFault? key = none := by
  simp [fieldFault?, ne_of_plain h, h]

theorem stopOf?_of_plain {key : String} (h : startsWithDollar key = false) :
    stopOf? key = none := by
  simp [stopOf?, ne_of_plain h]

/-- A condition alone is asked of its field. -/
theorem matches?_condition {key : String} (hkey : startsWithDollar key = false) (v : Json)
    (doc : Object) : matches? [(key, v)] doc = matchCondition v (Json.lookup doc key) := by
  show andThen (matchEntry key v doc) (.ok true) = _
  rw [andThen_true, matchEntry_condition (stopOf?_of_plain hkey), hkey]
  rfl

theorem matches?_isIn {key : String} (hkey : startsWithDollar key = false) (vs : List Json)
    (doc : Object) :
    matches? (Constraint.isIn key vs).toFilter doc
      = .ok (vs.any (equals (Json.lookup doc key))) := by
  have hops : operators? [("$in", .arr vs)] = .ok true :=
    operators?_single rfl (by decide) (by decide) (.arr vs)
  show matches? [(key, .obj [("$in", .arr vs)])] doc = _
  rw [matches?_operator hops, fieldFault?_of_plain hkey]
  rfl

theorem matches?_range {key : String} (hkey : startsWithDollar key = false) (op : Comparison)
    (bound : Json) (doc : Object) :
    matches? (Constraint.range key op bound).toFilter doc
      = .ok (inRange op (Json.lookup doc key) bound) := by
  have hname : Operator.ofName? op.operator = some (.range op) := by cases op <;> rfl
  have hops : operators? [(op.operator, bound)] = .ok true :=
    operators?_single hname (by cases op <;> decide) (by cases op <;> decide) bound
  show matches? [(key, .obj [(op.operator, bound)])] doc = _
  rw [matches?_operator hops, fieldFault?_of_plain hkey]
  unfold matchOperator
  simp only [hname]

end Filter

/-- A value that does not read as operators stands for itself. -/
theorem says_filter {coll key : String} {doc : Object} (hkey : key ≠ "")
    (hplain : startsWithDollar key = false) {v : Json}
    (hv : ∀ o, v = .obj o → isOperators o = false) :
    Says coll [.filter [(key, v)]] doc (equals (Json.lookup doc key) v) := by
  refine says_of_validate (Predicate.validate_filter hv hkey) (Predicate.constraints_filter hv) ?_
  show matches? [(key, v)] doc = _
  rw [matches?_condition hplain]
  cases v with
  | obj o =>
    simp only [matchCondition, operators?_of_not_isOperators (hv o rfl)]
  | _ => rfl

end DocStore
