import Mathlib.Data.List.Chain
import Mathlib.Logic.ExistsUnique
import DocStore.Compile

/-!
What a list of predicates stands for, run by run.

A list falls into runs: the exclusions of one key that stand side by side, as many as
there are, and every other predicate alone (`IsRuns`).  Compiling a valid list reads each
run by itself and puts the constraints one behind the other:

    ∃! rs, IsRuns rs ps                                      (existsUnique_runs)
    compile coll ps = .ok {constraints := rs.flatMap Run.constraints, …}
                                                             (compile_eq_runs)

The fold is between two runs exactly when its buffer is empty; inside a run the buffer
holds the values read so far (`fold_exclusions`).
-/

namespace DocStore

open Json (Object)

/-! ## One predicate -/

namespace Predicate

/-- The key and the value of an exclusion. -/
def exclusion? : Predicate → Option (String × Json)
  | ne key v => some (key, v)
  | _ => none

/-- The fields of a filter that ask for equality. -/
def plainFields (fields : Object) : Object :=
  List.filter (fun e => (Pattern.ofMarker? e.2).isNone) fields

/-- The fields of a filter that ask for a match, with their patterns. -/
def patternFields (fields : Object) : List (String × Pattern) :=
  fields.filterMap fun e =>
    match Pattern.ofMarker? e.2 with
    | some (.ok p) => some (e.1, p)
    | _ => none

/-- The constraints of a predicate that stands alone. -/
def constraints : Predicate → List Constraint
  | filter fields =>
    (if (plainFields fields).isEmpty then [] else [.equals (plainFields fields)])
      ++ (patternFields fields).map fun e => .pattern e.1 e.2
  | elem key payload => [.elemMatch key (Compile.elemFilter payload)]
  | ne key v => [.notEqual key v]
  | nin key vs => [.notIn key vs]
  | isIn key vs => [.isIn key vs]
  | whereOr filters => [.or filters]
  | whereAnd filters => [.and filters]
  | range op key bound => [.range key op bound]
  | limit _ | skip _ | sort _ _ => []

def sortKey? : Predicate → Option SortKey
  | sort key descending => some ⟨key, descending⟩
  | _ => none

def skip? : Predicate → Option UInt64
  | skip n => some n
  | _ => none

def limit? : Predicate → Option UInt64
  | limit n => some n
  | _ => none

/-- Every value under a pattern field of a valid filter is a pattern, in field order. -/
theorem map_patternFields {fields : Object} (h : validateFields fields = .ok ()) :
    (patternFields fields).map (·.1)
      = (fields.filter fun e => (Pattern.ofMarker? e.2).isSome).map (·.1) := by
  induction fields with
  | nil => rfl
  | cons e rest ih =>
    obtain ⟨name, v⟩ := e
    unfold validateFields at h
    split at h
    · cases h
    · cases hm : Pattern.ofMarker? v with
      | none =>
        rw [hm] at h
        simpa [patternFields, hm] using ih h
      | some r =>
        rw [hm] at h
        cases r with
        | error e => cases h
        | ok p => simpa [patternFields, hm] using ih h

end Predicate

/-! ## Excluded values -/

/-- The values that a constraint keeps from a field, in order. -/
def Constraint.excluded : Constraint → List (String × Json)
  | notEqual key v => [(key, v)]
  | notIn key vs => vs.map (key, ·)
  | _ => []

/-- The values that a predicate keeps from a field. -/
def Predicate.excluded : Predicate → List (String × Json)
  | ne key v => [(key, v)]
  | nin key vs => vs.map (key, ·)
  | _ => []

theorem Predicate.flatMap_excluded (p : Predicate) :
    p.constraints.flatMap Constraint.excluded = p.excluded := by
  cases p with
  | filter fields =>
    have hp : ((patternFields fields).map fun e => Constraint.pattern e.1 e.2).flatMap
        Constraint.excluded = [] := by
      rw [List.flatMap_map, List.flatMap_eq_nil_iff]
      exact fun _ _ => rfl
    unfold constraints
    rw [List.flatMap_append, hp]
    split <;> rfl
  | _ => simp [constraints, Constraint.excluded, excluded]

/-! ## Runs -/

inductive Run where
  /-- Exclusions of one key, side by side. -/
  | exclusions (key : String) (first : Json) (others : List Json)
  | single (p : Predicate) (h : p.exclusion? = none)

namespace Run

def predicates : Run → List Predicate
  | exclusions key v vs => .ne key v :: vs.map (.ne key)
  | single p _ => [p]

/-- A lone exclusion is an inequality, a longer run one list of excluded values. -/
def constraints : Run → List Constraint
  | exclusions key v [] => [.notEqual key v]
  | exclusions key v (w :: vs) => [.notIn key (v :: w :: vs)]
  | single p _ => p.constraints

/-- Two runs that would be one if they stood side by side. -/
def Joins : Run → Run → Prop
  | exclusions key _ _, exclusions next _ _ => key = next
  | _, _ => False

end Run

/-- The runs of a list: nothing is lost, and no two neighbours could be one. -/
structure IsRuns (rs : List Run) (ps : List Predicate) : Prop where
  flatten : rs.flatMap Run.predicates = ps
  maximal : rs.IsChain fun r s => ¬ r.Joins s

/-- Put a predicate in front of runs. -/
def Run.cons (p : Predicate) (rs : List Run) : List Run :=
  match h : p.exclusion? with
  | none => single p h :: rs
  | some (key, v) =>
    match rs with
    | exclusions next w vs :: rest =>
      if key = next then exclusions key v (w :: vs) :: rest
      else exclusions key v [] :: exclusions next w vs :: rest
    | rs => exclusions key v [] :: rs

def runs (ps : List Predicate) : List Run :=
  ps.foldr Run.cons []

/-! ## Every list has its runs -/

theorem Run.flatMap_cons (p : Predicate) (rs : List Run) :
    (Run.cons p rs).flatMap Run.predicates = p :: rs.flatMap Run.predicates := by
  unfold Run.cons
  split
  · rfl
  · next key v hp =>
    cases p <;>
      simp only [Predicate.exclusion?, reduceCtorEq, Option.some.injEq, Prod.mk.injEq] at hp
    obtain ⟨rfl, rfl⟩ := hp
    split
    · next next w vs rest =>
      split
      · next hk => subst hk; rfl
      · rfl
    · rfl

theorem Run.isChain_cons (p : Predicate) {rs : List Run}
    (h : rs.IsChain fun r s => ¬ r.Joins s) :
    (Run.cons p rs).IsChain fun r s => ¬ r.Joins s := by
  unfold Run.cons
  split
  · exact List.isChain_cons.2 ⟨fun _ _ hj => hj, h⟩
  · split
    · next key v _ next w vs rest =>
      split
      · -- the first run grows at its front, and keeps its key
        next hk =>
        subst hk
        obtain ⟨hr, hrest⟩ := List.isChain_cons.1 h
        exact List.isChain_cons.2 ⟨fun s hs => by cases s <;> exact hr _ hs, hrest⟩
      · next hk => exact List.isChain_cons.2 ⟨by rintro s ⟨⟩; exact hk, h⟩
    · next key v _ hne =>
      refine List.isChain_cons.2 ⟨?_, h⟩
      rintro (⟨next, w, vs⟩ | p) hs
      · cases rs with
        | nil => cases hs
        | cons r rest =>
          cases hs
          exact absurd rfl (hne next w vs rest)
      · exact id

theorem isRuns_runs (ps : List Predicate) : IsRuns (runs ps) ps := by
  induction ps with
  | nil => exact ⟨rfl, .nil⟩
  | cons p ps ih =>
    refine ⟨?_, Run.isChain_cons p ih.maximal⟩
    show (Run.cons p (runs ps)).flatMap _ = _
    rw [Run.flatMap_cons, ih.flatten]

/-- A run in front of runs that it does not join is found again. -/
theorem runs_append {r : Run} {ps : List Predicate}
    (h : ∀ s ∈ (runs ps).head?, ¬ r.Joins s) : runs (r.predicates ++ ps) = r :: runs ps := by
  cases r with
  | single p hp =>
    show Run.cons p (runs ps) = _
    unfold Run.cons
    split
    · rfl
    · next he => rw [hp] at he; cases he
  | exclusions key v vs =>
    induction vs generalizing v with
    | nil =>
      show Run.cons (.ne key v) (runs ps) = _
      simp only [Run.cons, Predicate.exclusion?]
      split
      · next next w ws rest hr =>
        rw [hr] at h ⊢
        have hne : key ≠ next := h _ rfl
        rw [if_neg hne]
      · rfl
    | cons w vs ih =>
      show Run.cons (.ne key v) (runs ((Run.exclusions key w vs).predicates ++ ps)) = _
      rw [ih w (fun s hs => by cases s <;> exact h _ hs)]
      simp only [Run.cons, Predicate.exclusion?, if_true]

theorem IsRuns.eq_runs {rs : List Run} {ps : List Predicate} (h : IsRuns rs ps) : rs = runs ps := by
  obtain ⟨rfl, hmax⟩ := h
  induction rs with
  | nil => rfl
  | cons r rs ih =>
    obtain ⟨hr, hrs⟩ := List.isChain_cons.1 hmax
    rw [List.flatMap_cons, runs_append, ← ih hrs]
    rw [← ih hrs]
    exact fun s hs => hr s hs

theorem existsUnique_runs (ps : List Predicate) : ∃! rs, IsRuns rs ps :=
  ⟨runs ps, isRuns_runs ps, fun _ h => h.eq_runs⟩

/-! ## One step -/

namespace Compile

/-- A filter that is valid splits as it is read; the check of its patterns cannot fail. -/
theorem splitFields_eq {fields : Object} (h : Predicate.validateFields fields = .ok ()) :
    splitFields fields = .ok (Predicate.plainFields fields,
      (Predicate.patternFields fields).map fun e => .pattern e.1 e.2) := by
  induction fields with
  | nil => rfl
  | cons e rest ih =>
    obtain ⟨name, v⟩ := e
    unfold Predicate.validateFields at h
    split at h
    · cases h
    · cases hm : Pattern.ofMarker? v with
      | none =>
        rw [hm] at h
        simp only [splitFields, hm, ih h]
        simp [Predicate.plainFields, Predicate.patternFields, hm, bind, Except.bind, pure,
          Except.pure]
      | some r =>
        rw [hm] at h
        cases r with
        | error e => cases h
        | ok p =>
          simp only [splitFields, hm, ih h]
          simp [Predicate.plainFields, Predicate.patternFields, hm, bind, Except.bind, pure,
            Except.pure]

theorem splitFilter_eq {fields : Object} (h : (Predicate.filter fields).validate = .ok ()) :
    splitFilter fields = .ok (Predicate.filter fields).constraints := by
  have hf : Predicate.validateFields fields = .ok () := h
  unfold splitFilter
  rw [splitFields_eq hf]
  show Except.ok _ = Except.ok _
  unfold Predicate.constraints
  split <;> simp_all

/-- What a predicate does that is no exclusion. -/
def effects (p : Predicate) : List Effect :=
  p.constraints.map .constrain ++ (p.sortKey?.map .sort).toList
    ++ (p.skip?.map .skip).toList ++ (p.limit?.map .limit).toList

/-- A valid predicate that is no exclusion leaves the buffer alone. -/
theorem step_single {p : Predicate} (hp : p.exclusion? = none) (hv : p.validate = .ok ())
    (pending : Pending) (next : Option Predicate) :
    step pending p next = .ok (pending, effects p) := by
  unfold step
  rw [hv]
  cases p with
  | filter fields =>
    simp only [splitFilter_eq hv]
    simp [effects, Predicate.sortKey?, Predicate.skip?, Predicate.limit?]
  | ne key v => cases hp
  | _ => rfl

theorem step_exclusion {key : String} {v : Json} (hv : (Predicate.ne key v).validate = .ok ())
    (pending : Pending) (next : Option Predicate) :
    step pending (.ne key v) next = .ok (exclude pending key v next) := by
  unfold step
  rw [hv]

end Compile

/-! ## The cursor of the predicates read so far -/

/-- A cursor with more constraints, and the last sort, skip and limit of more predicates. -/
def Cursor.extend (c : Cursor) (cs : List Constraint) (ps : List Predicate) : Cursor where
  collection := c.collection
  constraints := c.constraints ++ cs
  sort := (ps.filterMap Predicate.sortKey?).getLast?.or c.sort
  skip := (ps.filterMap Predicate.skip?).getLast?.or c.skip
  limit := (ps.filterMap Predicate.limit?).getLast?.or c.limit

theorem Cursor.extend_nil (c : Cursor) : c.extend [] [] = c := by
  simp [extend]

theorem Cursor.extend_extend (c : Cursor) (cs ds : List Constraint) (ps qs : List Predicate) :
    (c.extend cs ps).extend ds qs = c.extend (cs ++ ds) (ps ++ qs) := by
  simp [extend, List.getLast?_append, Option.or_assoc]

/-- Exclusions add nothing to sort, skip and limit. -/
theorem Cursor.extend_exclusions (c : Cursor) (cs : List Constraint) (key : String)
    (vs : List Json) : c.extend cs (vs.map (.ne key)) = c.extend cs [] := by
  have hnone : ∀ {α : Type} (f : Predicate → Option α), (∀ v, f (.ne key v) = none) →
      (vs.map (.ne key)).filterMap f = [] := by
    intro α f hf
    rw [List.filterMap_eq_nil_iff]
    simp [hf]
  unfold extend
  rw [hnone _ fun _ => rfl, hnone _ fun _ => rfl, hnone _ fun _ => rfl]
  rfl

namespace Compile

theorem foldl_constrain (c : Cursor) (cs : List Constraint) :
    (cs.map Effect.constrain).foldl apply c = c.extend cs [] := by
  induction cs generalizing c with
  | nil => exact c.extend_nil.symm
  | cons k cs ih =>
    rw [List.map_cons, List.foldl_cons, ih]
    exact Cursor.extend_extend c [k] cs [] []

theorem foldl_effects (c : Cursor) (p : Predicate) :
    (effects p).foldl apply c = c.extend p.constraints [p] := by
  unfold effects
  rw [List.append_assoc, List.append_assoc, List.foldl_append, foldl_constrain]
  cases p <;> simp [Predicate.sortKey?, Predicate.skip?, Predicate.limit?, Predicate.constraints,
    Cursor.extend, apply]

/-! ## One run -/

/-- The rest of a run whose first values are in the buffer. -/
theorem fold_exclusions {key : String} (hk : ∀ v, (Predicate.ne key v).validate = .ok ())
    {ps : List Predicate} (hnext : continues key ps.head? = false) (vs : List Json) :
    ∀ (index : Nat) (pending : Pending) (c : Cursor) (v : Json), pending.values ≠ [] →
      fold index pending c ((Run.exclusions key v vs).predicates ++ ps)
        = fold (index + (vs.length + 1)) {}
            (c.extend [.notIn key (pending.values ++ v :: vs)] []) ps := by
  induction vs with
  | nil =>
    intro index pending c v hp
    show fold index pending c (.ne key v :: ps) = _
    have he : pending.values.isEmpty = false := by
      rw [Bool.eq_false_iff, ne_eq, List.isEmpty_iff]
      exact hp
    simp only [fold, step_exclusion (hk v), exclude, hnext, he]
    simp [apply, Cursor.extend]
  | cons w vs ih =>
    intro index pending c v hp
    show fold index pending c (.ne key v :: ((Run.exclusions key w vs).predicates ++ ps)) = _
    have hc : continues key ((Run.exclusions key w vs).predicates ++ ps).head? = true := by
      simp [Run.predicates, continues]
    simp only [fold, step_exclusion (hk v), exclude, hc, if_true]
    rw [ih _ _ _ w (by simp)]
    simp only [List.foldl_nil, List.append_assoc, List.singleton_append, List.length_cons]
    congr 1
    omega

theorem continues_of_joins {r : Run} {rs : List Run} (h : ∀ s ∈ rs.head?, ¬ r.Joins s)
    {key : String} {v : Json} {vs : List Json} (hr : r = .exclusions key v vs) :
    continues key (rs.flatMap Run.predicates).head? = false := by
  subst hr
  cases rs with
  | nil => rfl
  | cons s rs =>
    have hs := h s rfl
    cases s with
    | exclusions next w ws =>
      have hne : key ≠ next := hs
      simp [Run.predicates, continues, hne.symm]
    | single p hp =>
      cases p <;> first | rfl | cases hp

/-- Between two runs the buffer is empty, and each adds its own constraints. -/
theorem fold_run {r : Run} {rs : List Run} (h : ∀ s ∈ rs.head?, ¬ r.Joins s)
    (hv : ∀ p ∈ r.predicates, p.validate = .ok ()) (index : Nat) (c : Cursor) :
    fold index {} c (r.predicates ++ rs.flatMap Run.predicates)
      = fold (index + r.predicates.length) {} (c.extend r.constraints r.predicates)
          (rs.flatMap Run.predicates) := by
  cases r with
  | single p hp =>
    show fold index {} c (p :: rs.flatMap Run.predicates) = _
    have hp' := hv p List.mem_cons_self
    simp only [fold, step_single hp hp', foldl_effects]
    rfl
  | exclusions key v vs =>
    have hk : ∀ w, (Predicate.ne key w).validate = .ok () :=
      fun _ => hv (.ne key v) List.mem_cons_self
    have hnext := continues_of_joins h rfl
    rw [show (Run.exclusions key v vs).predicates = (v :: vs).map (.ne key) from rfl,
      Cursor.extend_exclusions]
    cases vs with
    | nil =>
      show fold index {} c (.ne key v :: rs.flatMap Run.predicates) = _
      simp only [fold, step_exclusion (hk v), exclude, hnext]
      simp [apply, Cursor.extend, Run.constraints]
    | cons w vs =>
      show fold index {} c (.ne key v :: ((Run.exclusions key w vs).predicates ++ _)) = _
      have hc : continues key ((Run.exclusions key w vs).predicates
          ++ rs.flatMap Run.predicates).head? = true := by
        simp [Run.predicates, continues]
      simp only [fold, step_exclusion (hk v), exclude, hc, if_true]
      rw [fold_exclusions hk hnext vs _ _ _ w (by simp)]
      simp only [List.foldl_nil, List.nil_append, List.singleton_append]
      congr 1
      simp only [List.length_map, List.length_cons]
      omega

end Compile

/-! ## The whole list -/

theorem Compile.fold_runs {rs : List Run} (hmax : rs.IsChain fun r s => ¬ r.Joins s)
    (hv : ∀ p ∈ rs.flatMap Run.predicates, p.validate = .ok ()) :
    ∀ (index : Nat) (c : Cursor), fold index {} c (rs.flatMap Run.predicates)
      = .ok (c.extend (rs.flatMap Run.constraints) (rs.flatMap Run.predicates)) := by
  induction rs with
  | nil =>
    intro index c
    exact congrArg _ c.extend_nil.symm
  | cons r rs ih =>
    intro index c
    obtain ⟨hr, hrs⟩ := List.isChain_cons.1 hmax
    rw [List.flatMap_cons] at hv ⊢
    have hvr : ∀ p ∈ r.predicates, p.validate = .ok () :=
      fun p hp => hv p (List.mem_append_left _ hp)
    have hvs : ∀ p ∈ rs.flatMap Run.predicates, p.validate = .ok () :=
      fun p hp => hv p (List.mem_append_right _ hp)
    rw [fold_run hr hvr, ih hrs hvs, Cursor.extend_extend, List.flatMap_cons]

theorem IsRuns.compile_eq {rs : List Run} {ps : List Predicate} (h : IsRuns rs ps)
    (hv : ∀ p ∈ ps, p.validate = .ok ()) (collection : String) :
    compile collection ps
      = .ok (({ collection } : Cursor).extend (rs.flatMap Run.constraints) ps) := by
  obtain ⟨rfl, hmax⟩ := h
  exact Compile.fold_runs hmax hv 0 { collection }

theorem Run.flatMap_excluded (r : Run) :
    r.constraints.flatMap Constraint.excluded = r.predicates.flatMap Predicate.excluded := by
  cases r with
  | single p hp => simp [constraints, predicates, p.flatMap_excluded]
  | exclusions key v vs =>
    have hvs : (vs.map (Predicate.ne key)).flatMap Predicate.excluded = vs.map (key, ·) := by
      induction vs with
      | nil => rfl
      | cons w vs ih => exact congrArg ((key, w) :: ·) ih
    show _ = (key, v) :: (vs.map (Predicate.ne key)).flatMap Predicate.excluded
    rw [hvs]
    cases vs with
    | nil => rfl
    | cons w vs => simp [constraints, Constraint.excluded]

theorem IsRuns.flatMap_excluded {rs : List Run} {ps : List Predicate} (h : IsRuns rs ps) :
    (rs.flatMap Run.constraints).flatMap Constraint.excluded = ps.flatMap Predicate.excluded := by
  rw [← h.flatten, List.flatMap_assoc, List.flatMap_assoc]
  exact List.flatMap_congr fun r _ => r.flatMap_excluded

/-- No field of an equality is a marker. -/
theorem Run.plain_of_mem {r : Run} {fields : Object} (h : .equals fields ∈ r.constraints) :
    ∀ e ∈ fields, Pattern.ofMarker? e.2 = none := by
  cases r with
  | exclusions key v vs => cases vs <;> simp [constraints] at h
  | single p hp =>
    cases p with
    | filter given =>
      have hf : fields = Predicate.plainFields given := by
        simp only [constraints, Predicate.constraints, List.mem_append, List.mem_map, reduceCtorEq,
          and_false, exists_false, or_false] at h
        split at h
        · cases h
        · simpa using h
      intro e he
      rw [hf] at he
      simpa using (List.mem_filter.1 he).2
    | _ => simp [constraints, Predicate.constraints] at h

/-- A valid list compiles, and to what its runs stand for. -/
theorem compile_eq_runs (collection : String) (ps : List Predicate)
    (hv : ∀ p ∈ ps, p.validate = .ok ()) :
    ∃ rs, IsRuns rs ps ∧ (∀ rs', IsRuns rs' ps → rs' = rs) ∧
      compile collection ps = .ok
        { collection
          constraints := rs.flatMap Run.constraints
          sort := (ps.filterMap Predicate.sortKey?).getLast?
          skip := (ps.filterMap Predicate.skip?).getLast?
          limit := (ps.filterMap Predicate.limit?).getLast? } ∧
      (rs.flatMap Run.constraints).flatMap Constraint.excluded = ps.flatMap Predicate.excluded ∧
      (∀ fields, .equals fields ∈ rs.flatMap Run.constraints →
        ∀ e ∈ fields, Pattern.ofMarker? e.2 = none) ∧
      ∀ fields, .filter fields ∈ ps →
        (Predicate.patternFields fields).map (·.1)
          = (fields.filter fun e => (Pattern.ofMarker? e.2).isSome).map (·.1) := by
  obtain ⟨rs, hrs, huniq⟩ := existsUnique_runs ps
  refine ⟨rs, hrs, huniq, ?_, hrs.flatMap_excluded, ?_, ?_⟩
  · rw [hrs.compile_eq hv]
    simp [Cursor.extend]
  · intro fields hf
    obtain ⟨r, -, hr⟩ := List.mem_flatMap.1 hf
    exact r.plain_of_mem hr
  · intro fields hf
    exact Predicate.map_patternFields (hv _ hf)

/-- Exclusions of two keys, a run that other predicates break, and a run at the end. -/
def brokenRuns : List Predicate :=
  [.ne "a" (.bool true), .ne "a" .null, .ne "b" .null, .limit 3, .filter [("on", .bool true)],
    .ne "b" (.str "u"), .ne "b" (.str "v"), .ne "b" .null, .limit 2]

theorem compile_brokenRuns :
    (∀ p ∈ brokenRuns, p.validate = .ok ()) ∧
      compile "people" brokenRuns = .ok
        { collection := "people"
          constraints := [.notIn "a" [.bool true, .null], .notEqual "b" .null,
            .equals [("on", .bool true)], .notIn "b" [.str "u", .str "v", .null]]
          limit := some 2 } := by
  have hv : ∀ p ∈ brokenRuns, p.validate = .ok () := by
    simp only [brokenRuns, List.forall_mem_cons]
    exact ⟨rfl, rfl, rfl, rfl, rfl, rfl, rfl, rfl, rfl, nofun⟩
  refine ⟨hv, ?_⟩
  obtain ⟨rs, -, huniq, hc, -⟩ := compile_eq_runs "people" brokenRuns hv
  rw [hc, ← huniq _ (isRuns_runs brokenRuns)]
  rfl

end DocStore
