import DocStore.Predicate.Sequence
import DocStore.Proofs.Verdict

/-!
The first predicate that is not valid.

A list of predicates is checked in two places, where it is read and where it is compiled.
Both look at one member after the other and stop at the first that is not valid, with its
position and its fault (`Predicate.checkFrom`):

    checkFrom n ps = .error e ↔ e reports the first fault    (checkFrom_eq_error_iff)
    (fold n pending c ps).map (fun _ => ()) = checkFrom n ps (Compile.fold_check)
    items.mapM ofJson = .ok ps →
      readFrom n items = (checkFrom n ps).map fun _ => ps    (readFrom_of_mapM)

Compiling looks at the patterns of a filter once more when it splits the fields.  That comes
after the check, and so never finds a fault                  (Compile.step_ne_pattern).
-/

namespace DocStore

open Json (Object)

namespace Predicate

/-! ## The check -/

/-- Check the predicates that stand at `index` and behind it, one after the other. -/
def checkFrom (index : Nat) : List Predicate → Except StoreError Unit
  | [] => .ok ()
  | p :: ps =>
    match p.validate with
    | .error f => .error (.malformedPredicate index f.message)
    | .ok () => checkFrom (index + 1) ps

theorem checkFrom_cons (index : Nat) (p : Predicate) (ps : List Predicate) :
    checkFrom index (p :: ps) =
      match p.validate with
      | .error f => .error (.malformedPredicate index f.message)
      | .ok () => checkFrom (index + 1) ps := rfl

/-- The member at `index` has the fault, and all members in front of it are valid. -/
structure FirstFault (ps : List Predicate) (index : Nat) (f : Fault) : Prop where
  invalid : ∃ p, ps[index]? = some p ∧ p.validate = .error f
  least : ∀ i < index, ∀ p, ps[i]? = some p → p.validate = .ok ()

section

variable {p : Predicate} {ps : List Predicate} {f : Fault}

theorem firstFault_zero (hp : p.validate = .error f) : FirstFault (p :: ps) 0 f where
  invalid := ⟨p, rfl, hp⟩
  least i hi := absurd hi (Nat.not_lt_zero i)

theorem firstFault_succ_iff (hp : p.validate = .ok ()) (index : Nat) :
    FirstFault (p :: ps) (index + 1) f ↔ FirstFault ps index f := by
  constructor
  · rintro ⟨hinvalid, hleast⟩
    exact ⟨hinvalid, fun i hi => hleast (i + 1) (Nat.succ_lt_succ hi)⟩
  · rintro ⟨hinvalid, hleast⟩
    refine ⟨hinvalid, fun i hi q hq => ?_⟩
    cases i with
    | zero =>
      cases hq
      exact hp
    | succ i => exact hleast i (Nat.lt_of_succ_lt_succ hi) q hq

/-- Behind a first member that is not valid, no other counts. -/
theorem FirstFault.of_invalid {index : Nat} {g : Fault} (h : FirstFault (p :: ps) index g)
    (hp : p.validate = .error f) : index = 0 ∧ g = f := by
  cases index with
  | zero =>
    obtain ⟨q, hq, hg⟩ := h.invalid
    cases hq
    rw [hp] at hg
    cases hg
    exact ⟨rfl, rfl⟩
  | succ index =>
    have hvalid := h.least 0 (Nat.succ_pos index) p rfl
    rw [hp] at hvalid
    cases hvalid

theorem FirstFault.head {g : Fault} (h : FirstFault (p :: ps) 0 g) :
    p.validate = .error g := by
  obtain ⟨q, hq, hg⟩ := h.invalid
  cases hq
  exact hg

/-- The first fault splits the list. -/
theorem firstFault_iff_append (index : Nat) :
    FirstFault ps index f ↔ ∃ before p after, ps = before ++ p :: after ∧
      before.length = index ∧ (∀ q ∈ before, q.validate = .ok ()) ∧ p.validate = .error f := by
  constructor
  · rintro ⟨⟨p, hp, hf⟩, hleast⟩
    obtain ⟨hlt, rfl⟩ := List.getElem?_eq_some_iff.1 hp
    refine ⟨ps.take index, _, ps.drop (index + 1), ?_, ?_, fun q hq => ?_, hf⟩
    · rw [← List.drop_eq_getElem_cons hlt, List.take_append_drop]
    · exact List.length_take_of_le hlt.le
    · obtain ⟨i, hi, rfl⟩ := List.mem_take_iff_getElem.1 hq
      have hi' : i < index := Nat.lt_of_lt_of_le hi (Nat.min_le_left _ _)
      exact hleast i hi' _ (List.getElem?_eq_getElem (Nat.lt_trans hi' hlt))
  · rintro ⟨before, p, after, rfl, rfl, hbefore, hf⟩
    refine ⟨⟨p, by simp, hf⟩, fun i hi q hq => ?_⟩
    rw [List.getElem?_append_left hi] at hq
    exact hbefore q (List.mem_of_getElem? hq)

end

/-- A check fails with the first fault, and succeeds where there is none. -/
theorem checkFrom_eq_error_iff (ps : List Predicate) (start : Nat) (e : StoreError) :
    checkFrom start ps = .error e ↔
      ∃ index f, FirstFault ps index f ∧ e = .malformedPredicate (start + index) f.message := by
  induction ps generalizing start with
  | nil =>
    constructor
    · intro h
      cases h
    · rintro ⟨index, f, ⟨⟨p, hp, -⟩, -⟩, -⟩
      cases hp
  | cons p ps ih =>
    rw [checkFrom_cons]
    cases hp : p.validate with
    | error f =>
      constructor
      · intro h
        cases h
        exact ⟨0, f, firstFault_zero hp, rfl⟩
      · rintro ⟨index, g, hfirst, rfl⟩
        obtain ⟨rfl, rfl⟩ := hfirst.of_invalid hp
        rfl
    | ok u =>
      refine (ih (start + 1)).trans ⟨?_, ?_⟩
      · rintro ⟨index, f, hfirst, rfl⟩
        refine ⟨index + 1, f, (firstFault_succ_iff hp index).2 hfirst, ?_⟩
        rw [Nat.add_assoc, Nat.add_comm 1]
      · rintro ⟨index, f, hfirst, rfl⟩
        cases index with
        | zero =>
          have hf := hfirst.head
          rw [hp] at hf
          cases hf
        | succ index =>
          refine ⟨index, f, (firstFault_succ_iff hp index).1 hfirst, ?_⟩
          rw [Nat.add_assoc, Nat.add_comm 1]

theorem checkFrom_eq_ok_iff (ps : List Predicate) (start : Nat) :
    checkFrom start ps = .ok () ↔ ∀ p ∈ ps, p.validate = .ok () := by
  induction ps generalizing start with
  | nil => exact ⟨fun _ _ hp => absurd hp List.not_mem_nil, fun _ => rfl⟩
  | cons p ps ih =>
    rw [checkFrom_cons, List.forall_mem_cons]
    cases hp : p.validate with
    | error f => exact ⟨nofun, fun h => absurd h.1 nofun⟩
    | ok u => simp only [ih, true_and]

/-! ## Faults of patterns -/

/-- The fault of a pattern is reported with the field that it stands in. -/
theorem validateFields_ne_pattern (fields : Object) (cause : Pattern.Fault) :
    validateFields fields ≠ .error (.pattern cause) := by
  induction fields with
  | nil =>
    intro h
    cases h
  | cons e rest ih =>
    intro h
    unfold validateFields at h
    split at h
    · cases h
    · split at h
      · cases h
      · exact ih h

theorem validate_ne_pattern (p : Predicate) (cause : Pattern.Fault) :
    p.validate ≠ .error (.pattern cause) := by
  intro h
  unfold validate at h
  split at h
  · cases h
  · split at h
    · exact validateFields_ne_pattern _ cause h
    · cases h
    · cases h
    · cases h

end Predicate

/-! ## Compiling -/

namespace Compile

theorem step_error_iff (pending : Pending) (p : Predicate) (next : Option Predicate)
    (f : Predicate.Fault) :
    step pending p next = .error f ↔ p.validate = .error f := by
  cases hv : p.validate with
  | error e =>
    unfold step
    rw [hv]
    simp only [Except.error.injEq]
  | ok u =>
    cases hp : p.exclusion? with
    | none => simp [step_single hp hv]
    | some e =>
      cases p with
      | ne key v => simp [step_exclusion hv]
      | _ => cases hp

/-- Where a predicate is valid, no pattern of its fields is found at fault. -/
theorem step_ne_pattern (pending : Pending) (p : Predicate) (next : Option Predicate)
    (cause : Pattern.Fault) : step pending p next ≠ .error (.pattern cause) := by
  rw [Ne, step_error_iff]
  exact p.validate_ne_pattern cause

/-- A fold fails where the check does, whatever it has gathered. -/
theorem fold_check (ps : List Predicate) (index : Nat) (pending : Pending) (c : Cursor) :
    (fold index pending c ps).map (fun _ => ()) = Predicate.checkFrom index ps := by
  induction ps generalizing index pending c with
  | nil => rfl
  | cons p ps ih =>
    rw [Predicate.checkFrom_cons]
    unfold fold
    cases hstep : step pending p ps.head? with
    | error f =>
      rw [(step_error_iff pending p ps.head? f).1 hstep]
      rfl
    | ok r =>
      have hp : p.validate = .ok () := by
        cases hv : p.validate with
        | ok u => rfl
        | error f =>
          rw [(step_error_iff pending p ps.head? f).2 hv] at hstep
          cases hstep
      rw [hp]
      exact ih (index + 1) r.1 _

theorem fold_eq_error_iff (ps : List Predicate) (index : Nat) (pending : Pending) (c : Cursor)
    (e : StoreError) :
    fold index pending c ps = .error e ↔
      ∃ before p after f, ps = before ++ p :: after ∧ (∀ q ∈ before, q.validate = .ok ()) ∧
        p.validate = .error f ∧ e = .malformedPredicate (index + before.length) f.message := by
  have hcheck : fold index pending c ps = .error e ↔ Predicate.checkFrom index ps = .error e := by
    rw [← fold_check ps index pending c]
    cases fold index pending c ps <;> simp [Except.map]
  rw [hcheck, Predicate.checkFrom_eq_error_iff]
  constructor
  · rintro ⟨_, f, hfirst, rfl⟩
    obtain ⟨before, p, after, hps, rfl, hbefore, hf⟩ :=
      (Predicate.firstFault_iff_append _).1 hfirst
    exact ⟨before, p, after, f, hps, hbefore, hf, rfl⟩
  · rintro ⟨before, p, after, f, hps, hbefore, hf, rfl⟩
    exact ⟨before.length, f,
      (Predicate.firstFault_iff_append _).2 ⟨before, p, after, hps, rfl, hbefore, hf⟩, rfl⟩

end Compile

theorem compile_check (coll : String) (ps : List Predicate) :
    (compile coll ps).map (fun _ => ()) = Predicate.checkFrom 0 ps :=
  Compile.fold_check ps 0 {} { collection := coll }

namespace Predicate

/-! ## Reading -/

/-- The values that a query holds: those of an array, or of the array under `pts`. -/
def queryItems? : Json → Option (List Json)
  | .arr items => some items
  | .obj o => (Object.get? o "pts").bind Json.items?
  | _ => none

theorem sequence_of_items {v : Json} {items : List Json} (h : queryItems? v = some items) :
    sequence v = readFrom 0 items := by
  cases v with
  | arr xs =>
    cases h
    rfl
  | obj o =>
    obtain ⟨w, hw, hitems⟩ := Option.bind_eq_some_iff.1 h
    unfold sequence
    cases w with
    | arr xs =>
      cases hitems
      simp only [hw]
    | _ => cases hitems
  | _ => cases h

/-- What is read is read from the values of the query. -/
theorem exists_items {v : Json} {ps : List Predicate} (h : sequence v = .ok ps) :
    ∃ items, queryItems? v = some items ∧ readFrom 0 items = .ok ps := by
  cases hv : queryItems? v with
  | some items => exact ⟨items, rfl, (sequence_of_items hv).symm.trans h⟩
  | none =>
    unfold sequence at h
    split at h
    · cases hv
    · split at h
      · next items hitems =>
        have hpts : (Object.get? _ "pts").bind Json.items? = none := hv
        rw [hitems] at hpts
        cases hpts
      · cases h
    · cases h

/-- A value that stands for a predicate is read when the predicate is valid. -/
theorem readFrom_cons {v : Json} {p : Predicate} (hv : ofJson v = .ok p) (index : Nat)
    (items : List Json) :
    readFrom index (v :: items) =
      match p.validate with
      | .error f => .error (.malformedPredicate index f.message)
      | .ok () => (readFrom (index + 1) items).map (p :: ·) := by
  show (do
    let q ← read index v
    let qs ← readFrom (index + 1) items
    return q :: qs) = _
  unfold read
  simp only [hv]
  cases p.validate with
  | error f => rfl
  | ok u => cases readFrom (index + 1) items <;> rfl

/-- Values that all stand for predicates are read as far as these pass the check. -/
theorem readFrom_of_mapM {items : List Json} {ps : List Predicate}
    (h : items.mapM ofJson = .ok ps) (index : Nat) :
    readFrom index items = (checkFrom index ps).map fun _ => ps := by
  induction items generalizing ps index with
  | nil =>
    cases h
    rfl
  | cons v items ih =>
    rw [List.mapM_cons] at h
    cases hv : ofJson v with
    | error e =>
      rw [hv] at h
      cases h
    | ok p =>
      cases hitems : items.mapM ofJson with
      | error e =>
        rw [hv, hitems] at h
        cases h
      | ok qs =>
        rw [hv, hitems] at h
        cases h
        rw [readFrom_cons hv, ih hitems, checkFrom_cons]
        cases p.validate with
        | error f => rfl
        | ok u => cases checkFrom (index + 1) qs <;> rfl

/-- What is read are the predicates that the values stand for. -/
theorem mapM_of_readFrom {items : List Json} {ps : List Predicate} {index : Nat}
    (h : readFrom index items = .ok ps) : items.mapM ofJson = .ok ps := by
  induction items generalizing ps index with
  | nil =>
    cases h
    rfl
  | cons v items ih =>
    cases hv : ofJson v with
    | error e =>
      simp only [readFrom, read, hv] at h
      cases h
    | ok p =>
      rw [readFrom_cons hv] at h
      cases hp : p.validate with
      | error f =>
        rw [hp] at h
        cases h
      | ok u =>
        cases hitems : readFrom (index + 1) items with
        | error e =>
          rw [hp, hitems] at h
          cases h
        | ok qs =>
          rw [hp, hitems] at h
          cases h
          rw [List.mapM_cons, hv, ih hitems]
          rfl

end Predicate

/-! ## Both -/

/-- A list compiles exactly when all its members are valid, and else reports the first that is
not by its position and its own fault; that is never one of the second look at patterns.  What
is read always compiles, and of values that all stand for predicates, reading and compiling
accept the same, and report the same otherwise. -/
theorem compile_reports_first (coll : String) (ps : List Predicate) :
    ((∃ c, compile coll ps = .ok c) ↔ ∀ p ∈ ps, p.validate = .ok ()) ∧
    (∀ e, compile coll ps = .error e ↔
      ∃ index f, Predicate.FirstFault ps index f ∧ e = .malformedPredicate index f.message) ∧
    (∀ pending p next cause, Compile.step pending p next ≠ .error (.pattern cause)) ∧
    (∀ v, Predicate.sequence v = .ok ps → ∃ c, compile coll ps = .ok c) ∧
    ∀ v items, Predicate.queryItems? v = some items → items.mapM Predicate.ofJson = .ok ps →
      (Predicate.sequence v = .ok ps ↔ ∃ c, compile coll ps = .ok c) ∧
      ∀ e, Predicate.sequence v = .error e ↔ compile coll ps = .error e := by
  have hok : (∃ c, compile coll ps = .ok c) ↔ Predicate.checkFrom 0 ps = .ok () := by
    rw [← compile_check coll ps]
    cases compile coll ps <;> simp [Except.map]
  have herror : ∀ e, compile coll ps = .error e ↔ Predicate.checkFrom 0 ps = .error e := by
    intro e
    rw [← compile_check coll ps]
    cases compile coll ps <;> simp [Except.map]
  have hread : ∀ {v items}, Predicate.queryItems? v = some items →
      items.mapM Predicate.ofJson = .ok ps →
      Predicate.sequence v = (Predicate.checkFrom 0 ps).map fun _ => ps := by
    intro v items hv hitems
    rw [Predicate.sequence_of_items hv, Predicate.readFrom_of_mapM hitems]
  refine ⟨hok.trans (Predicate.checkFrom_eq_ok_iff ps 0), fun e => ?_,
    Compile.step_ne_pattern, fun v hv => ?_, fun v items hv hitems => ?_⟩
  · rw [herror, Predicate.checkFrom_eq_error_iff]
    simp only [Nat.zero_add]
  · obtain ⟨items, hitems, hfrom⟩ := Predicate.exists_items hv
    rw [hread hitems (Predicate.mapM_of_readFrom hfrom)] at hv
    rw [hok]
    cases hcheck : Predicate.checkFrom 0 ps with
    | ok u => rfl
    | error e =>
      rw [hcheck] at hv
      cases hv
  · rw [hread hv hitems, hok]
    simp only [herror]
    cases Predicate.checkFrom 0 ps <;> simp [Except.map]

/-- A query with an open group in a field, and then a key that is empty. -/
def openGroupQuery : Json :=
  .obj [("pts", .arr [
    .obj [("type", .str "limit"), ("limitAmount", .ofWord 3)],
    .obj [("type", .str "filter"), ("filter", .obj [("a", .obj [(regexKey, .str "(")])])],
    .obj [("type", .str "ne"), ("key", .str ""), ("val", .null)]])]

/-- The same as predicates. -/
def openGroupPredicates : List Predicate :=
  [.limit 3, .filter [("a", .obj [(regexKey, .str "(")])], .ne "" .null]

theorem compile_reports_openGroup :
    ∃ items f, Predicate.queryItems? openGroupQuery = some items ∧
      items.mapM Predicate.ofJson = .ok openGroupPredicates ∧
      Predicate.FirstFault openGroupPredicates 1 f ∧
      compile "c" openGroupPredicates = .error (.malformedPredicate 1 f.message) ∧
      Predicate.sequence openGroupQuery = .error (.malformedPredicate 1 f.message) := by
  obtain ⟨items, hitems, hmapM⟩ : ∃ items, Predicate.queryItems? openGroupQuery = some items ∧
      items.mapM Predicate.ofJson = .ok openGroupPredicates := ⟨_, rfl, rfl⟩
  obtain ⟨f, hf⟩ : ∃ f,
      (Predicate.filter [("a", .obj [(regexKey, .str "(")])]).validate = .error f := ⟨_, rfl⟩
  have hfirst : Predicate.FirstFault openGroupPredicates 1 f :=
    (Predicate.firstFault_succ_iff rfl 0).2 (Predicate.firstFault_zero hf)
  obtain ⟨-, herror, -, -, hboth⟩ := compile_reports_first "c" openGroupPredicates
  have hcompile := (herror _).2 ⟨1, f, hfirst, rfl⟩
  exact ⟨items, f, hitems, hmapM, hfirst, hcompile,
    ((hboth _ _ hitems hmapM).2 _).2 hcompile⟩

end DocStore
