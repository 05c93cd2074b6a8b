import DocStore.Proofs.FirstFault
import DocStore.Proofs.Markers

/-!
Patterns that compiling checks, and patterns that it does not.

To compile a list of predicates checks the markers among the fields of a `filter`, and nothing
below them: not the alternatives of `whereOr` and `whereAnd`, not the payload of an `elem`, and
not what stands in a field beside or under other operators (`Predicate.Unchecked`).

    compile fails at the first predicate that is not valid     (Compile.fold_eq_error_iff)
    a pattern fault has a pattern that does not compile        (broken_of_matches?)
    which stands in a part that was not checked                (compile_checks_markers)
    and there are such filters                                 (openGroup_unchecked)
-/

namespace DocStore

open Json (Object)
open DocStore.Filter

namespace Filter

/-! ## Patterns that do not compile -/

theorem error_of_operators? {o : Object} {e : Fault} (h : operators? o = .error e) :
    ∃ name, e = .unknownOperator name := by
  unfold operators? at h
  split at h
  · split at h
    · next name _ =>
      cases h
      exact ⟨name, rfl⟩
    · cases h
  · cases h

theorem error_of_checkClauses {name : String} {v : Json} {e : Fault}
    (h : checkClauses name v = .error e) : e = .noClauses name ∨ e = .clauseNoDocument name := by
  unfold checkClauses at h
  split at h
  · cases h
    exact .inl rfl
  · split at h
    · cases h
    · cases h
      exact .inr rfl
  · cases h
    exact .inl rfl

theorem eq_of_ofName?_regex {name : String} (h : Operator.ofName? name = some .regex) :
    name = regexKey := by
  unfold Operator.ofName? at h
  split at h <;> first | rfl | cases h

theorem eq_of_ofName?_elemMatch {name : String} (h : Operator.ofName? name = some .elemMatch) :
    name = "$elemMatch" := by
  unfold Operator.ofName? at h
  split at h <;> first | rfl | cases h

/-- Where evaluation can come to it, a pattern stands that does not compile, with its cause.
The object is one of operators or one of entries. -/
inductive Broken (cause : Regex.Fault) : (ops : Bool) → Object → Prop
  | condition {es : Object} {key : String} {o : Object} (hm : (key, .obj o) ∈ es)
      (hread : operators? o = .ok true) (h : Broken cause true o) : Broken cause false es
  | clause {es : Object} {key : String} {items : List Json} {sub : Object}
      (hm : (key, .arr items) ∈ es) (hsub : .obj sub ∈ items) (h : Broken cause false sub) :
      Broken cause false es
  | pattern {o : Object} {source : String} (hm : (regexKey, .str source) ∈ o)
      (h : Regex.withFlags? source (flagsOf o) = .error cause) : Broken cause true o
  | element {o sub : Object} {ops : Bool} (hm : ("$elemMatch", .obj sub) ∈ o)
      (hread : operators? sub = .ok ops) (h : Broken cause ops sub) : Broken cause true o

/-- A value from which a pattern fault comes holds a pattern that does not compile: as a clause,
as the condition of an entry, or as the operand of an operator. -/
structure Traced (cause : Regex.Fault) (v : Json) : Prop where
  clause : ∀ stop doc, clause stop doc v = .error (.pattern cause) →
    ∃ sub, v = .obj sub ∧ Broken cause false sub
  entry : ∀ key doc, matchEntry key v doc = .error (.pattern cause) →
    (∃ o, v = .obj o ∧ operators? o = .ok true ∧ Broken cause true o) ∨
    ∃ items sub, v = .arr items ∧ .obj sub ∈ items ∧ Broken cause false sub
  operator : ∀ flags name actual, matchOperator flags name v actual = .error (.pattern cause) →
    (name = regexKey ∧ ∃ source, v = .str source ∧ Regex.withFlags? source flags = .error cause) ∨
    name = "$elemMatch" ∧ ∃ sub ops, v = .obj sub ∧ operators? sub = .ok ops ∧
      Broken cause ops sub

section

variable {cause : Regex.Fault} {v : Json} (hv : ∀ x ∈ v.parts, Traced cause x) {o : Object}
  (ho : ∀ x ∈ (Json.obj o).parts, Traced cause x)

include ho in
theorem broken_entries {doc : Object} (h : matchEntries o doc = .error (.pattern cause)) :
    Broken cause false o := by
  rw [matchEntries_eq] at h
  obtain ⟨⟨key, w⟩, hm, hw⟩ := List.mem_map.1 (mem_of_settle_error h)
  rcases (ho w (Object.mem_parts hm)).entry key doc hw with
    ⟨sub, rfl, hread, hsub⟩ | ⟨items, sub, rfl, hitem, hsub⟩
  · exact .condition hm hread hsub
  · exact .clause hm hitem hsub

include ho in
theorem broken_operators {actual : Option Json}
    (h : matchOperators (flagsOf o) o actual = .error (.pattern cause)) : Broken cause true o := by
  rw [matchOperators_eq] at h
  obtain ⟨⟨name, w⟩, hm, hw⟩ := List.mem_map.1 (mem_of_settle_error h)
  rcases (ho w (Object.mem_parts hm)).operator (flagsOf o) name actual hw with
    ⟨rfl, source, rfl, hsource⟩ | ⟨rfl, sub, ops, rfl, hread, hsub⟩
  · exact .pattern hm hsource
  · exact .element hm hread hsub

include ho in
theorem broken_element {ops : Bool} {x : Json}
    (h : element o ops x = .error (.pattern cause)) : Broken cause ops o := by
  cases ops with
  | true => exact broken_operators ho h
  | false =>
    cases x with
    | obj doc => exact broken_entries ho h
    | _ => cases h

include hv

theorem clause_traced {stop : Bool} {doc : Object}
    (h : clause stop doc v = .error (.pattern cause)) :
    ∃ sub, v = .obj sub ∧ Broken cause false sub := by
  cases v with
  | obj sub => exact ⟨sub, rfl, broken_entries hv h⟩
  | _ => cases h

theorem matchCondition_traced {actual : Option Json}
    (h : matchCondition v actual = .error (.pattern cause)) :
    ∃ o, v = .obj o ∧ operators? o = .ok true ∧ Broken cause true o := by
  cases v with
  | obj o =>
    cases hread : operators? o with
    | error e =>
      obtain ⟨name, rfl⟩ := error_of_operators? hread
      simp only [matchCondition, hread] at h
      cases h
    | ok ops =>
      simp only [matchCondition, hread] at h
      cases ops with
      | true => exact ⟨o, rfl, hread, broken_operators hv h⟩
      | false => cases h
  | _ => cases h

theorem matchElements_traced {xs : List Json}
    (h : matchElements v xs = .error (.pattern cause)) :
    ∃ sub ops, v = .obj sub ∧ operators? sub = .ok ops ∧ Broken cause ops sub := by
  cases v with
  | obj sub =>
    cases hread : operators? sub with
    | error e =>
      obtain ⟨name, rfl⟩ := error_of_operators? hread
      simp only [matchElements, hread] at h
      cases h
    | ok ops =>
      simp only [matchElements, hread] at h
      obtain ⟨x, -, hx⟩ := List.mem_map.1 (mem_of_settle_error h)
      exact ⟨sub, ops, rfl, hread, broken_element hv hx⟩
  | _ => cases h

theorem matchOperator_traced {flags name : String} {actual : Option Json}
    (h : matchOperator flags name v actual = .error (.pattern cause)) :
    (name = regexKey ∧ ∃ source, v = .str source ∧ Regex.withFlags? source flags = .error cause) ∨
    name = "$elemMatch" ∧ ∃ sub ops, v = .obj sub ∧ operators? sub = .ok ops ∧
      Broken cause ops sub := by
  cases hop : Operator.ofName? name with
  | none =>
    unfold matchOperator at h
    simp only [hop] at h
    cases h
  | some op =>
    cases op with
    | elemMatch =>
      rw [matchOperator_elemMatch hop] at h
      split at h
      · exact .inr ⟨eq_of_ofName?_elemMatch hop, matchElements_traced hv h⟩
      · cases h
    | regex =>
      refine .inl ⟨eq_of_ofName?_regex hop, ?_⟩
      unfold matchOperator at h
      simp only [hop] at h
      split at h
      · next source =>
        split at h
        · cases h
        · next hsource =>
          cases h
          exact ⟨source, rfl, hsource⟩
      · cases h
    | isIn | nin =>
      unfold matchOperator at h
      simp only [hop] at h
      split at h <;> cases h
    | _ =>
      unfold matchOperator at h
      simp only [hop] at h
      cases h

theorem matchEntry_traced {key : String} {doc : Object}
    (h : matchEntry key v doc = .error (.pattern cause)) :
    (∃ o, v = .obj o ∧ operators? o = .ok true ∧ Broken cause true o) ∨
    ∃ items sub, v = .arr items ∧ .obj sub ∈ items ∧ Broken cause false sub := by
  cases hstop : stopOf? key with
  | none =>
    rw [matchEntry_condition hstop] at h
    split at h
    · cases h
    · exact .inl (matchCondition_traced hv h)
  | some stop =>
    rw [matchEntry_clauses hstop] at h
    split at h
    · next e he =>
      rcases error_of_checkClauses he with rfl | rfl <;> cases h
    · obtain ⟨x, hx, hfault⟩ := List.mem_map.1 (mem_of_settle_error h)
      cases v with
      | arr items =>
        obtain ⟨sub, rfl, hsub⟩ := (hv x hx).clause stop doc hfault
        exact .inr ⟨items, sub, rfl, hx, hsub⟩
      | _ => exact absurd hx List.not_mem_nil

end

theorem traced (cause : Regex.Fault) (v : Json) : Traced cause v := by
  induction v using Json.induction_parts with
  | step v ih =>
    exact ⟨fun _ _ => clause_traced ih, fun _ _ => matchEntry_traced ih,
      fun _ _ _ => matchOperator_traced ih⟩

/-- Behind every pattern fault stands a pattern that does not compile. -/
theorem broken_of_matches? {cause : Regex.Fault} {f doc : Object}
    (h : matches? f doc = .error (.pattern cause)) : Broken cause false f :=
  broken_entries (fun x _ => traced cause x) h

end Filter

namespace Pattern

/-- The marker of a pattern that compiles is not broken. -/
theorem unbroken {p : Pattern} {r : Regex} (hp : p.compile = .ok r) (cause : Regex.Fault)
    (field : String) : ¬ Broken cause false (Constraint.pattern field p).toFilter := by
  intro h
  cases h with
  | @clause _ _ items _ hm _ _ =>
    have hitems : Json.arr items = p.toJson := congrArg Prod.snd (List.mem_singleton.1 hm)
    cases hitems
  | @condition _ _ o hm _ h =>
    have ho : o = p.marker := Json.obj.inj (congrArg Prod.snd (List.mem_singleton.1 hm))
    rw [ho] at h
    have hmarked := markedBy_marker hp
    cases h with
    | @pattern _ source hm hsource =>
      rcases hmarked.mem p.distinct_marker _ hm with he | he
      · cases he
        rw [hmarked.flags] at hsource
        cases (Dialect.withFlags?_of_compile hp).symm.trans hsource
      · have hname : regexKey = optionsKey := he
        exact absurd hname (by decide)
    | element hm _ _ =>
      have hname : "$elemMatch" = regexKey ∨ "$elemMatch" = optionsKey :=
        hmarked.keys _ (List.mem_map_of_mem hm)
      exact absurd hname (by decide)

end Pattern

/-! ## Predicates -/

/-- The parts of a predicate, operators or entries, in which compiling does not look for
patterns. -/
inductive Predicate.Unchecked : Predicate → (ops : Bool) → Object → Prop
  | field {fields o : Object} {name : String} (hm : (name, .obj o) ∈ fields)
      (hplain : Pattern.ofMarker? (.obj o) = none) : Unchecked (.filter fields) true o
  | clause {fields sub : Object} {key : String} {items : List Json}
      (hm : (key, .arr items) ∈ fields) (hsub : .obj sub ∈ items) :
      Unchecked (.filter fields) false sub
  | elem {key : String} {sub : Object} {ops : Bool} (hread : operators? sub = .ok ops) :
      Unchecked (.elem key (.obj sub)) ops sub
  | whereOr {filters : List Object} {sub : Object} (hm : sub ∈ filters) :
      Unchecked (.whereOr filters) false sub
  | whereAnd {filters : List Object} {sub : Object} (hm : sub ∈ filters) :
      Unchecked (.whereAnd filters) false sub

/-- An operator that neither is a pattern nor asks for elements is not broken. -/
theorem unbroken_operator {cause : Regex.Fault} {name : String} (hregex : regexKey ≠ name)
    (helem : "$elemMatch" ≠ name) (v : Json) : ¬ Broken cause true [(name, v)] := by
  intro h
  cases h with
  | pattern hm _ => exact hregex (congrArg Prod.fst (List.mem_singleton.1 hm))
  | element hm _ _ => exact helem (congrArg Prod.fst (List.mem_singleton.1 hm))

theorem unbroken_condition {cause : Regex.Fault} {name : String} (hregex : regexKey ≠ name)
    (helem : "$elemMatch" ≠ name) (key : String) (v : Json) :
    ¬ Broken cause false [(key, .obj [(name, v)])] := by
  intro h
  cases h with
  | clause hm _ _ => cases List.mem_singleton.1 hm
  | condition hm _ h =>
    cases List.mem_singleton.1 hm
    exact unbroken_operator hregex helem v h

/-- The alternatives of a clause are its parts. -/
theorem exists_of_broken_clause {cause : Regex.Fault} {key : String} {filters : List Object}
    (h : Broken cause false [(key, .arr (filters.map .obj))]) :
    ∃ sub ∈ filters, Broken cause false sub := by
  cases h with
  | condition hm _ _ => cases List.mem_singleton.1 hm
  | clause hm hsub h =>
    cases List.mem_singleton.1 hm
    obtain ⟨_, hfilters, he⟩ := List.mem_map.1 hsub
    cases he
    exact ⟨_, hfilters, h⟩

/-- What is broken in the constraint of an element filter stands in its payload. -/
theorem unchecked_of_broken_elem {cause : Regex.Fault} {key : String} {payload : Json}
    (h : Broken cause false (Constraint.elemMatch key (Compile.elemFilter payload)).toFilter) :
    ∃ ops sub, (Predicate.elem key payload).Unchecked ops sub ∧ Broken cause ops sub := by
  cases h with
  | clause hm _ _ => cases List.mem_singleton.1 hm
  | condition hm _ h =>
    cases List.mem_singleton.1 hm
    cases h with
    | pattern hm _ =>
      have hname : regexKey = "$elemMatch" := congrArg Prod.fst (List.mem_singleton.1 hm)
      exact absurd hname (by decide)
    | @element _ sub ops hm hread h =>
      have hpayload : Compile.elemFilter payload = .obj sub :=
        (congrArg Prod.snd (List.mem_singleton.1 hm)).symm
      cases payload with
      | obj o =>
        cases hpayload
        exact ⟨ops, _, .elem hread, h⟩
      | _ =>
        -- a value alone is compared with the element
        cases hpayload
        rw [operators?_single rfl (by decide) (by decide)] at hread
        cases hread
        exact absurd h (unbroken_operator (by decide) (by decide) _)

/-- What is broken in a valid predicate stands in a part that is not checked. -/
theorem unchecked_of_broken {cause : Regex.Fault} {p : Predicate} {k : Constraint}
    (hk : k ∈ p.constraints) (h : Broken cause false k.toFilter) :
    ∃ ops sub, p.Unchecked ops sub ∧ Broken cause ops sub := by
  cases p with
  | filter fields =>
    rcases List.mem_append.1 hk with hk | hk
    · split at hk
      · cases hk
      · cases List.mem_singleton.1 hk
        cases h with
        | condition hm _ h =>
          obtain ⟨hm, hplain⟩ := List.mem_filter.1 hm
          exact ⟨true, _, .field hm (Option.isNone_iff_eq_none.1 hplain), h⟩
        | clause hm hsub h => exact ⟨false, _, .clause (List.mem_filter.1 hm).1 hsub, h⟩
    · obtain ⟨⟨name, pattern⟩, hm, rfl⟩ := List.mem_map.1 hk
      obtain ⟨e, -, he⟩ := List.mem_filterMap.1 hm
      split at he
      · next p hmarker =>
        cases he
        obtain ⟨r, hr⟩ := Pattern.compile_of_ofMarker? hmarker
        exact absurd h (Pattern.unbroken hr cause e.1)
      · cases he
  | elem key payload =>
    cases List.mem_singleton.1 hk
    exact unchecked_of_broken_elem h
  | whereOr filters =>
    cases List.mem_singleton.1 hk
    obtain ⟨sub, hm, hsub⟩ := exists_of_broken_clause h
    exact ⟨false, sub, .whereOr hm, hsub⟩
  | whereAnd filters =>
    cases List.mem_singleton.1 hk
    obtain ⟨sub, hm, hsub⟩ := exists_of_broken_clause h
    exact ⟨false, sub, .whereAnd hm, hsub⟩
  | ne key v | nin key vs | isIn key vs =>
    cases List.mem_singleton.1 hk
    exact absurd h (unbroken_condition (by decide) (by decide) key _)
  | range op key bound =>
    cases List.mem_singleton.1 hk
    cases op <;> exact absurd h (unbroken_condition (by decide) (by decide) key bound)
  | limit _ | skip _ | sort _ _ => cases hk

/-- A fault of constraints asked one after the other is the fault of one of them. -/
theorem exists_of_verdict_error {cs : List Constraint} {doc : Object} {e : Filter.Fault}
    (h : verdict cs doc = .error e) : ∃ k ∈ cs, matches? k.toFilter doc = .error e := by
  induction cs with
  | nil => cases h
  | cons k cs ih =>
    unfold verdict at h
    cases hk : matches? k.toFilter doc with
    | error e' =>
      rw [hk] at h
      cases h
      exact ⟨k, List.mem_cons_self, hk⟩
    | ok hit =>
      rw [hk] at h
      cases hit with
      | false => cases h
      | true =>
        obtain ⟨k', hm, hk'⟩ := ih h
        exact ⟨k', List.mem_cons_of_mem k hm, hk'⟩

/-- To compile checks the markers among the fields of every filter, and a list with one that is
not valid is rejected at the first predicate that is at fault.  What it accepts can still meet a
pattern that does not compile, but only in a part that it has not checked. -/
theorem compile_checks_markers (coll : String) (ps : List Predicate) :
    (∀ e, compile coll ps = .error e ↔
      ∃ before p after f, ps = before ++ p :: after ∧ (∀ q ∈ before, q.validate = .ok ()) ∧
        p.validate = .error f ∧ e = .malformedPredicate before.length f.message) ∧
    ∀ c, compile coll ps = .ok c →
      (∀ fields, .filter fields ∈ ps → ∀ e ∈ fields, ∀ m, Pattern.ofMarker? e.2 = some m →
        ∃ p r, m = .ok p ∧ p.compile = .ok r) ∧
      ∀ doc cause, matches? c.filter doc = .error (.pattern cause) →
        ∃ p ∈ ps, ∃ ops sub, p.Unchecked ops sub ∧ Broken cause ops sub := by
  constructor
  · intro e
    have hfold := Compile.fold_eq_error_iff ps 0 {} { collection := coll } e
    simp only [Nat.zero_add] at hfold
    exact hfold
  · intro c hc
    have hvalid := Compile.validate_of_fold hc
    refine ⟨fun fields hm => Predicate.compile_of_validateFields (hvalid _ hm),
      fun doc cause h => ?_⟩
    rw [matches?_compile hc] at h
    obtain ⟨k, hk, hfault⟩ := exists_of_verdict_error h
    obtain ⟨p, hp, hkp⟩ := List.mem_flatMap.1 hk
    obtain ⟨ops, sub, hsub, hbroken⟩ := unchecked_of_broken hkp (broken_of_matches? hfault)
    exact ⟨p, hp, ops, sub, hsub, hbroken⟩

/-- An alternative with a marker of the exact shape whose pattern is not a valid one. -/
def openGroup : Object :=
  [("a", .obj [(regexKey, .str "(")])]

/-- It is accepted, and then at fault when it is evaluated. -/
theorem openGroup_unchecked :
    ∃ c doc cause, compile "c" [.whereOr [openGroup]] = .ok c ∧
      (∃ e, Pattern.ofMarker? (.obj [(regexKey, .str "(")]) = some (.error e)) ∧
      matches? c.filter doc = .error (.pattern cause) :=
  ⟨_, [("a", .str "x")], _, rfl, ⟨_, rfl⟩, rfl⟩

end DocStore
