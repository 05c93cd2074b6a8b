import DocStore.Proofs.FirstFault

/-!
Predicates written and read again.

The written form of a predicate names its kind and holds each field of that kind once, in a shape
that reading accepts, also where the value is null.  So whatever can be written is read as what it
was, and a query that is written is read again as far as its predicates are valid:

    kindOf of the written tag = .ok p.kind                   (kindOf_tag)
    checkEntries p.kind p.wireFields = .ok ()                (checkEntries_wireFields)
    ofJson p.toJson = .ok p                                  (ofJson_toJson)
    sequence of written predicates = those, or the first fault
                                                             (sequence_written)
-/

namespace DocStore.Predicate

open Json (Object)

/-! ## Kinds -/

def kind : Predicate → Kind
  | filter _ => .filter
  | elem _ _ => .elem
  | ne _ _ => .ne
  | nin _ _ => .nin
  | isIn _ _ => .isIn
  | whereOr _ => .whereOr
  | whereAnd _ => .whereAnd
  | limit _ => .limit
  | skip _ => .skip
  | sort _ _ => .sort
  | range op _ _ => .range op

theorem Kind.ofTag?_tag (k : Kind) : ofTag? k.tag = some k := by
  cases k with
  | range op => cases op <;> rfl
  | _ => rfl

theorem tag_kind (p : Predicate) : p.kind.tag = p.tag := by
  cases p <;> rfl

theorem kindOf_tag (p : Predicate) : kindOf (.str p.tag) = .ok p.kind := by
  unfold kindOf
  rw [← p.tag_kind]
  simp only [Kind.ofTag?_tag]

/-! ## Fields -/

theorem wordOf_ofWord (w : UInt64) : wordOf (.ofWord w) = .ok w := by
  have hword : (w.toNat : Int).toNat.toUInt64 = w := by
    rw [Int.toNat_natCast]
    exact UInt64.ofNat_toNat
  simp only [wordOf, Json.ofWord, Number.ofWord, Int.natCast_nonneg, if_true, hword]

theorem objectsOf_map (os : List Object) : objectsOf (.arr (os.map .obj)) = .ok os := by
  show (os.map Json.obj).mapM objectOf = _
  induction os with
  | nil => rfl
  | cons o os ih =>
    rw [List.map_cons, List.mapM_cons, ih]
    rfl

/-- What is written in a field has the shape that reading asks of it. -/
theorem checkEntries_wireFields (p : Predicate) : checkEntries p.kind p.wireFields = .ok () := by
  have hobjects : ∀ os : List Object, Shape.objects.check (.arr (os.map .obj)) = .ok () := by
    intro os
    unfold Shape.check
    rw [objectsOf_map]
    rfl
  have hword : ∀ w, Shape.word.check (.ofWord w) = .ok () := by
    intro w
    unfold Shape.check
    rw [wordOf_ofWord]
    rfl
  cases p with
  | range op key bound => cases op <;> rfl
  | whereOr os | whereAnd os =>
    show Shape.objects.check _ >>= _ = _
    rw [hobjects]
    rfl
  | limit w | skip w =>
    simp only [wireFields, checkEntries, kind, Kind.fields, List.lookup_cons, beq_self_eq_true]
    rw [hword]
    rfl
  | _ => rfl

theorem ofFields_wireFields (p : Predicate) :
    ofFields p.kind (("type", .str p.tag) :: p.wireFields) = .ok p := by
  cases p with
  | range op key bound => cases op <;> rfl
  | whereOr os | whereAnd os =>
    show objectsOf _ >>= _ = _
    rw [objectsOf_map]
    rfl
  | limit w =>
    have hamount : field (("type", .str "limit") :: (limit w).wireFields) "limitAmount"
        = .ok (.ofWord w) := rfl
    simp only [ofFields, kind, tag, hamount]
    exact congrArg (· >>= fun n => pure (limit n)) (wordOf_ofWord w)
  | skip w =>
    have hamount : field (("type", .str "skip") :: (skip w).wireFields) "skipAmount"
        = .ok (.ofWord w) := rfl
    simp only [ofFields, kind, tag, hamount]
    exact congrArg (· >>= fun n => pure (skip n)) (wordOf_ofWord w)
  | _ => rfl

/-- The name of the kind stands apart from the fields. -/
theorem filter_wireFields (p : Predicate) :
    p.wireFields.filter (·.1 != "type") = p.wireFields := by
  cases p with
  | range op key bound => cases op <;> rfl
  | _ => rfl

/-! ## Reading what was written -/

theorem ofJson_toJson (p : Predicate) : ofJson p.toJson = .ok p := by
  have htype : field (("type", .str p.tag) :: p.wireFields) "type" = .ok (.str p.tag) := rfl
  have hrest : List.filter (·.1 != "type") (("type", .str p.tag) :: p.wireFields) = p.wireFields :=
    p.filter_wireFields
  unfold ofJson toJson
  simp only [htype, hrest]
  show (do
    let kind ← kindOf (.str p.tag)
    checkEntries kind p.wireFields
    ofFields kind (("type", .str p.tag) :: p.wireFields)) = _
  rw [kindOf_tag]
  show (do
    checkEntries p.kind p.wireFields
    ofFields p.kind (("type", .str p.tag) :: p.wireFields)) = _
  rw [checkEntries_wireFields]
  exact p.ofFields_wireFields

theorem mapM_written (ps : List Predicate) : (ps.map toJson).mapM ofJson = .ok ps := by
  induction ps with
  | nil => rfl
  | cons p ps ih =>
    rw [List.map_cons, List.mapM_cons, ofJson_toJson, ih]
    rfl

/-- A query of written predicates is read as those predicates if all of them are valid, and else
fails with the first that is not; under the key `pts` no less than alone. -/
theorem sequence_written (ps : List Predicate) :
    (∀ qs, sequence (.arr (ps.map toJson)) = .ok qs ↔
      qs = ps ∧ ∀ p ∈ ps, p.validate = .ok ()) ∧
    (∀ e, sequence (.arr (ps.map toJson)) = .error e ↔
      ∃ index f, FirstFault ps index f ∧ e = .malformedPredicate index f.message) ∧
    sequence (.obj [("pts", .arr (ps.map toJson))]) = sequence (.arr (ps.map toJson)) := by
  have hread : sequence (.arr (ps.map toJson)) = (checkFrom 0 ps).map fun _ => ps := by
    rw [sequence_of_items rfl, readFrom_of_mapM (mapM_written ps)]
  have hfault := checkFrom_eq_error_iff ps 0
  simp only [Nat.zero_add] at hfault
  refine ⟨fun qs => ?_, fun e => ?_, rfl⟩
  · rw [hread, ← checkFrom_eq_ok_iff ps 0]
    cases checkFrom 0 ps <;> simp [Except.map, eq_comm]
  · rw [hread, ← hfault]
    cases checkFrom 0 ps <;> simp [Except.map]

end DocStore.Predicate
