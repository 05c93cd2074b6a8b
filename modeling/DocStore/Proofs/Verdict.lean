import DocStore.Filter
import DocStore.Proofs.Runs

/-!
What compiled predicates answer about a document: yes, no, or a fault.

A cursor's filter gives the verdict of its constraints one after the other
(`matches?_filter`), and the one constraint of a run of exclusions that of the exclusions
(`verdict_run`).  So it does not matter how a list was gathered:

    compile coll ps = .ok c → matches? c.filter doc = verdict (ps.flatMap constraints) doc
                                                             (matches?_compile)
    matches? of ps ++ qs = andThen (matches? of ps) (matches? of qs)
                                                             (matches?_compile_append)
-/

namespace DocStore

open Json (Object)
open DocStore.Filter

/-! ## Short circuit -/

namespace Filter

theorem andThen_true {ε : Type} (a : Except ε Bool) : andThen a (.ok true) = a := by
  cases a with
  | ok b => cases b <;> rfl
  | error e => rfl

theorem andThen_assoc {ε : Type} (a b c : Except ε Bool) :
    andThen (andThen a b) c = andThen a (andThen b c) := by
  cases a with
  | ok x => cases x <;> rfl
  | error e => rfl

end Filter

/-- Constraints asked one after the other. -/
def verdict (cs : List Constraint) (doc : Object) : Except Filter.Fault Bool :=
  match cs with
  | [] => .ok true
  | k :: rest => andThen (matches? k.toFilter doc) (verdict rest doc)

theorem verdict_append (cs ds : List Constraint) (doc : Object) :
    verdict (cs ++ ds) doc = andThen (verdict cs doc) (verdict ds doc) := by
  induction cs with
  | nil => rfl
  | cons k cs ih =>
    show andThen _ (verdict (cs ++ ds) doc) = andThen (andThen _ (verdict cs doc)) _
    rw [ih, andThen_assoc]

theorem verdict_singleton (k : Constraint) (doc : Object) :
    verdict [k] doc = matches? k.toFilter doc :=
  andThen_true _

/-! ## The filter of a cursor -/

theorem matchAll_toFilter (cs : List Constraint) (doc : Object) :
    matchAll ((cs.map (·.toFilter)).map .obj) doc = verdict cs doc := by
  induction cs with
  | nil => rfl
  | cons k cs ih =>
    show andThen _ (matchAll _ doc) = andThen _ (verdict cs doc)
    rw [ih]
    rfl

theorem matchEntry_and {items : List Json} (h : checkClauses "$and" (.arr items) = .ok ())
    (doc : Object) : matchEntry "$and" (.arr items) doc = matchAll items doc := by
  unfold matchEntry
  rw [if_pos rfl, h]

/-- None, one or several constraints: the filter asks them in their order. -/
theorem matches?_filter (c : Cursor) (doc : Object) :
    matches? c.filter doc = verdict c.constraints doc := by
  unfold Cursor.filter
  cases c.constraints with
  | nil => rfl
  | cons k cs =>
    cases cs with
    | nil => exact (verdict_singleton k doc).symm
    | cons l cs =>
      have hclauses : checkClauses "$and" (.arr (((k :: l :: cs).map (·.toFilter)).map .obj))
          = .ok () := by
        simp [checkClauses, Json.object?]
      show andThen (matchEntry "$and" (.arr _) doc) (.ok true) = _
      rw [andThen_true, ← matchAll_toFilter]
      exact matchEntry_and hclauses doc

/-! ## Exclusions -/

/-- The fault of a field name in front of a document of operators, whatever they are. -/
def fieldFault? (key : String) : Option Filter.Fault :=
  if key = "$and" ∨ key = "$or" then some (.noClauses key)
  else if startsWithDollar key then some (.unknownClause key)
  else none

/-- A condition of one operator is at fault for its field, or as the operator says. -/
theorem matches?_operator {name : String} {operand : Json}
    (hops : operators? [(name, operand)] = .ok true) (key : String) (doc : Object) :
    matches? [(key, .obj [(name, operand)])] doc =
      match fieldFault? key with
      | some e => .error e
      | none => matchOperator (flagsOf [(name, operand)]) name operand (Json.lookup doc key) := by
  show andThen (matchEntry key _ doc) (.ok true) = _
  rw [andThen_true]
  unfold matchEntry fieldFault?
  by_cases hand : key = "$and"
  · subst hand
    rfl
  · by_cases hor : key = "$or"
    · subst hor
      rfl
    · simp only [hand, hor, or_self, if_false]
      by_cases hd : startsWithDollar key = true
      · simp only [hd, if_true]
      · simp only [hd, hops]
        exact andThen_true _

/-- One known operator alone reads as operators. -/
theorem operators?_single {name : String} {op : Operator} (hop : Operator.ofName? name = some op)
    (hd : startsWithDollar name = true) (hoid : oidKey ≠ name) (v : Json) :
    operators? [(name, v)] = .ok true := by
  have hget : Object.get? [(name, v)] oidKey = none := by
    rw [Json.Object.get?_cons, if_neg hoid, Json.Object.get?_nil]
  have hreads : isOperators [(name, v)] = true := by
    unfold isOperators Json.Object.contains
    rw [hget]
    simp [Json.Object.keys, hd]
  unfold operators?
  rw [if_pos hreads]
  simp [Json.Object.keys, hop]

theorem matches?_notEqual (key : String) (v : Json) (doc : Object) :
    matches? (Constraint.notEqual key v).toFilter doc =
      match fieldFault? key with
      | some e => .error e
      | none => .ok (!equals (Json.lookup doc key) v) := by
  have hops : operators? [("$ne", v)] = .ok true :=
    operators?_single rfl (by decide) (by decide) v
  have hne : ∀ flags actual, matchOperator flags "$ne" v actual = .ok (!equals actual v) := by
    intro flags actual
    unfold matchOperator
    rfl
  show matches? [(key, .obj [("$ne", v)])] doc = _
  rw [matches?_operator hops, hne]

theorem matches?_notIn (key : String) (vs : List Json) (doc : Object) :
    matches? (Constraint.notIn key vs).toFilter doc =
      match fieldFault? key with
      | some e => .error e
      | none => .ok (!vs.any (equals (Json.lookup doc key))) := by
  have hops : operators? [("$nin", .arr vs)] = .ok true :=
    operators?_single rfl (by decide) (by decide) (.arr vs)
  exact matches?_operator hops key doc

/-- One list of excluded values answers as the exclusions one by one. -/
theorem verdict_notIn (key : String) (v : Json) (vs : List Json) (doc : Object) :
    verdict [.notIn key (v :: vs)] doc = verdict ((v :: vs).map (.notEqual key)) doc := by
  rw [verdict_singleton, matches?_notIn]
  cases hf : fieldFault? key with
  | some e =>
    -- the first exclusion is at fault already
    show _ = andThen (matches? (Constraint.notEqual key v).toFilter doc) _
    rw [matches?_notEqual, hf]
    rfl
  | none =>
    have hall : ∀ ws : List Json, verdict (ws.map (.notEqual key)) doc
        = .ok (!ws.any (equals (Json.lookup doc key))) := by
      intro ws
      induction ws with
      | nil => rfl
      | cons w ws ih =>
        show andThen (matches? (Constraint.notEqual key w).toFilter doc) _ = _
        rw [matches?_notEqual, hf, ih, List.any_cons]
        cases equals (Json.lookup doc key) w <;> rfl
    exact (hall (v :: vs)).symm

/-! ## Runs -/

theorem Predicate.flatMap_constraints_ne (key : String) (vs : List Json) :
    (vs.map (Predicate.ne key)).flatMap Predicate.constraints = vs.map (.notEqual key) := by
  rw [List.flatMap_map]
  exact List.map_eq_flatMap.symm

theorem verdict_run (r : Run) (doc : Object) :
    verdict r.constraints doc = verdict (r.predicates.flatMap Predicate.constraints) doc := by
  cases r with
  | single p hp => simp [Run.constraints, Run.predicates]
  | exclusions key v vs =>
    have hflat : (Run.exclusions key v vs).predicates.flatMap Predicate.constraints
        = (v :: vs).map (.notEqual key) := Predicate.flatMap_constraints_ne key (v :: vs)
    rw [hflat]
    cases vs with
    | nil => rfl
    | cons w vs => exact verdict_notIn key v (w :: vs) doc

theorem verdict_runs (rs : List Run) (doc : Object) :
    verdict (rs.flatMap Run.constraints) doc
      = verdict ((rs.flatMap Run.predicates).flatMap Predicate.constraints) doc := by
  induction rs with
  | nil => rfl
  | cons r rs ih =>
    rw [List.flatMap_cons, List.flatMap_cons, List.flatMap_append, verdict_append, verdict_append,
      verdict_run, ih]

/-! ## Compiled lists -/

theorem Compile.validate_of_fold {ps : List Predicate} {index : Nat} {pending : Pending}
    {c c' : Cursor} (h : fold index pending c ps = .ok c') : ∀ p ∈ ps, p.validate = .ok () := by
  induction ps generalizing index pending c with
  | nil => exact nofun
  | cons p ps ih =>
    have hv : p.validate = .ok () := by
      cases hp : p.validate with
      | ok u => rfl
      | error e =>
        simp only [fold, step, hp] at h
        cases h
    unfold fold at h
    split at h
    · cases h
    · exact List.forall_mem_cons.2 ⟨hv, ih h⟩

/-- A valid list compiles; the last sort, skip and limit hold. -/
theorem exists_compile (collection : String) {ps : List Predicate}
    (hv : ∀ p ∈ ps, p.validate = .ok ()) :
    ∃ c, compile collection ps = .ok c ∧
      c.sort = (ps.filterMap Predicate.sortKey?).getLast? ∧
      c.skip = (ps.filterMap Predicate.skip?).getLast? ∧
      c.limit = (ps.filterMap Predicate.limit?).getLast? :=
  ⟨_, (isRuns_runs ps).compile_eq hv collection, Option.or_none, Option.or_none, Option.or_none⟩

theorem paging_of_compile {collection : String} {ps : List Predicate} {c : Cursor}
    (h : compile collection ps = .ok c) :
    c.sort = (ps.filterMap Predicate.sortKey?).getLast? ∧
    c.skip = (ps.filterMap Predicate.skip?).getLast? ∧
    c.limit = (ps.filterMap Predicate.limit?).getLast? := by
  obtain ⟨d, hd, hpaging⟩ := exists_compile collection (Compile.validate_of_fold h)
  rw [h] at hd
  cases hd
  exact hpaging

/-- The verdict of a compiled list is that of its predicates, each by itself. -/
theorem matches?_compile {collection : String} {ps : List Predicate} {c : Cursor}
    (h : compile collection ps = .ok c) (doc : Object) :
    matches? c.filter doc = verdict (ps.flatMap Predicate.constraints) doc := by
  have hruns := isRuns_runs ps
  have hc := hruns.compile_eq (Compile.validate_of_fold h) collection
  rw [h] at hc
  cases hc
  rw [matches?_filter]
  show verdict ([] ++ (runs ps).flatMap Run.constraints) doc = _
  rw [List.nil_append, verdict_runs, hruns.flatten]

/-- A list that compiles may be cut anywhere, also inside a run of exclusions: its parts
compile, and it answers as the first part and then the second, faults included. -/
theorem matches?_compile_append (collection : String) (ps qs : List Predicate) (c : Cursor)
    (h : compile collection (ps ++ qs) = .ok c) :
    ∃ cp cq, compile collection ps = .ok cp ∧ compile collection qs = .ok cq ∧
      ∀ doc, matches? c.filter doc = andThen (matches? cp.filter doc) (matches? cq.filter doc) := by
  have hv := Compile.validate_of_fold h
  have hp := (isRuns_runs ps).compile_eq (fun p hm => hv p (List.mem_append_left _ hm)) collection
  have hq := (isRuns_runs qs).compile_eq (fun p hm => hv p (List.mem_append_right _ hm)) collection
  refine ⟨_, _, hp, hq, fun doc => ?_⟩
  rw [matches?_compile h, matches?_compile hp, matches?_compile hq, List.flatMap_append,
    verdict_append]

/-- One run of exclusions, whole. -/
def wholeRun : Cursor where
  collection := "people"
  constraints := [.notIn "$a" [.null, .bool true, .str "x", .null]]
  limit := some 3

/-- The run cut in the middle, of a field that is at fault. -/
theorem matches?_wholeRun :
    compile "people" ([.ne "$a" .null, .ne "$a" (.bool true)]
      ++ [.ne "$a" (.str "x"), .ne "$a" .null, .limit 3]) = .ok wholeRun ∧
    ∃ cp cq, compile "people" [.ne "$a" .null, .ne "$a" (.bool true)] = .ok cp ∧
      compile "people" [.ne "$a" (.str "x"), .ne "$a" .null, .limit 3] = .ok cq ∧
      ∀ doc, matches? wholeRun.filter doc
        = andThen (matches? cp.filter doc) (matches? cq.filter doc) := by
  have hc : compile "people" ([.ne "$a" .null, .ne "$a" (.bool true)]
      ++ [.ne "$a" (.str "x"), .ne "$a" .null, .limit 3]) = .ok wholeRun := rfl
  exact ⟨hc, matches?_compile_append "people" _ _ wholeRun hc⟩

end DocStore
