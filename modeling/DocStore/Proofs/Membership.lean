import DocStore.Proofs.Removal
import DocStore.Proofs.Retrieval
import DocStore.Proofs.SubFilters

/-!
Membership: five ways to ask whether a field equals one of several values.

Values that are listed, values that are excluded, exclusions one behind the other, alternatives
of one comparison each, and for a single value a filter: all of them compare the field in one
way (`isOneOf`), where a missing field equals null and an array also what an element equals.
They never meet a fault, so that of every document

    isIn says isOneOf, nin says the contrary                 (says_isIn, says_nin)
    the exclusions say as nin, the alternatives as isIn      (says_exclusions, says_whereOr)

Of a collection, isIn and nin therefore find two halves, each in the order of the whole
                                                             (membership_consistent).
-/

namespace DocStore

open Json (Object)
open DocStore.Filter

/-- The field equals one of the values. -/
def Filter.isOneOf (actual : Option Json) (vs : List Json) : Bool :=
  vs.any (equals actual)

/-! ## Five ways to ask for a value -/

section

variable {coll key : String} {doc : Object}

variable (hkey : key ≠ "") (hplain : startsWithDollar key = false)

include hkey hplain

theorem says_isIn (vs : List Json) :
    Says coll [.isIn key vs] doc (isOneOf (Json.lookup doc key) vs) :=
  says_of_validate (Predicate.validate_of_key rfl hkey) rfl (matches?_isIn hplain vs doc)

theorem says_nin (vs : List Json) :
    Says coll [.nin key vs] doc (!isOneOf (Json.lookup doc key) vs) := by
  refine says_of_validate (Predicate.validate_of_key rfl hkey) rfl ?_
  rw [matches?_notIn, fieldFault?_of_plain hplain]
  rfl

/-- Exclusions one behind the other, also none at all. -/
theorem says_exclusions (vs : List Json) :
    Says coll (vs.map (.ne key)) doc (!isOneOf (Json.lookup doc key) vs) := by
  have hv : ∀ p ∈ vs.map (Predicate.ne key), p.validate = .ok () := by
    rw [List.forall_mem_map]
    exact fun v _ => Predicate.validate_of_key rfl hkey
  obtain ⟨c, hc, -⟩ := exists_compile coll hv
  refine ⟨c, hc, ?_⟩
  rw [matches?_compile hc, Predicate.flatMap_constraints_ne]
  cases vs with
  | nil => rfl
  | cons v vs =>
    rw [← verdict_notIn, verdict_singleton, matches?_notIn, fieldFault?_of_plain hplain]
    rfl

omit hkey in
/-- Alternatives that compare with one value each; without one they are not valid. -/
theorem says_whereOr {vs : List Json} (hne : vs ≠ []) :
    Says coll [.whereOr (vs.map fun v => [(key, .obj [("$eq", v)])])] doc
      (isOneOf (Json.lookup doc key) vs) := by
  refine says_of_validate (Predicate.validate_whereOr (by simpa using hne)) rfl ?_
  have hanswer : ∀ v, matches? [(key, .obj [("$eq", v)])] doc
      = .ok (equals (Json.lookup doc key) v) := by
    intro v
    rw [matches?_operator (operators?_single rfl (by decide) (by decide) v),
      fieldFault?_of_plain hplain]
    show matchOperator _ "$eq" _ _ = _
    unfold matchOperator
    rfl
  have hstop : stopOf? "$or" = some true := rfl
  show matches? [("$or", .arr ((vs.map _).map .obj))] doc = _
  rw [matches?_clauses hstop (by simpa using hne), List.map_map]
  show settle true (vs.map fun v => matches? [(key, .obj [("$eq", v)])] doc) = _
  rw [List.map_congr_left fun v _ => hanswer v, settle_map_ok]
  simp [isOneOf]

end

/-! ## Two halves of a collection -/

/-- Records have identifiers of their own, so that a question about documents can be asked of
their records. -/
theorem Record.exists_test {docs : List Object} {rs : List Record}
    (h : List.Forall₂ (fun doc r => ofDocument doc = .ok r) docs rs) (hids : (rs.map (·.id)).Nodup)
    (test : Object → Bool) :
    ∃ hit : Record → Bool,
      List.Forall₂ (fun doc r => ofDocument doc = .ok r ∧ test doc = hit r) docs rs := by
  induction h with
  | nil => exact ⟨fun _ => false, .nil⟩
  | @cons doc r docs rs hr _ ih =>
    obtain ⟨hfresh, hids⟩ := List.nodup_cons.1 hids
    obtain ⟨hit, hrest⟩ := ih hids
    refine ⟨fun r' => if r'.id = r.id then test doc else hit r', .cons ⟨hr, by simp⟩ ?_⟩
    refine forall₂_of_mem hrest fun d _ r' hr' hd => ⟨hd.1, ?_⟩
    have hmem : r'.id ∈ rs.map (·.id) := List.mem_map_of_mem hr'
    have hother : r'.id ≠ r.id := by
      intro hid
      rw [hid] at hmem
      exact hfresh hmem
    show test d = if r'.id = r.id then test doc else hit r'
    rw [if_neg hother]
    exact hd.2

/-- Those of the documents that pass a test have those of the records. -/
theorem Record.ofDocuments_filter {docs : List Object} {rs : List Record} {test : Object → Bool}
    {hit : Record → Bool}
    (h : List.Forall₂ (fun doc r => ofDocument doc = .ok r ∧ test doc = hit r) docs rs) :
    ofDocuments (docs.filter test) = .ok (rs.filter hit) := by
  refine ofDocuments_of_forall₂ ?_
  induction h with
  | nil => exact .nil
  | @cons doc r docs rs hr _ ih =>
    rw [List.filter_cons, List.filter_cons, hr.2]
    split
    · exact .cons hr.1 ih
    · exact ih

namespace Store

/-- A predicate that answers about every document finds the documents of which it holds. -/
theorem Reachable.find_says {s : Store} (hs : s.Reachable) (hup : s.bringUp.connection = .up)
    {coll : String} {ps : List Predicate} (hplain : unpaged ps = ps) {test : Object → Bool}
    (h : ∀ doc, Says coll ps doc (test doc)) :
    (s.find coll ps).1 = Record.ofDocuments ((s.engine.documents coll).filter test) := by
  obtain ⟨c, hc, -⟩ := h []
  have hmatch : ∀ doc, matches? c.filter doc = .ok (test doc) := by
    intro doc
    obtain ⟨c', hc', hm⟩ := h doc
    rw [hc] at hc'
    cases hc'
    exact hm
  have htest : hits c.filter = test := funext fun doc => hits_of_ok (hmatch doc)
  obtain ⟨-, rs, hfind, hrs⟩ := hs.finds_matches hup hc fun doc _ => ⟨_, hmatch doc⟩
  rw [hplain] at hfind
  rw [hfind, ← hrs, htest]

/-- About every document the five ways say the same, or the contrary; none is ever at fault.
What `isIn` and `nin` find of a collection are the records that pass a test and those that do
not. -/
theorem membership_consistent (coll : String) {key : String} (hkey : key ≠ "")
    (hplain : startsWithDollar key = false) (vs : List Json) :
    (∀ doc,
      Says coll [.isIn key vs] doc (isOneOf (Json.lookup doc key) vs) ∧
      Says coll [.nin key vs] doc (!isOneOf (Json.lookup doc key) vs) ∧
      Says coll (vs.map (.ne key)) doc (!isOneOf (Json.lookup doc key) vs) ∧
      (vs ≠ [] → Says coll [.whereOr (vs.map fun v => [(key, .obj [("$eq", v)])])] doc
        (isOneOf (Json.lookup doc key) vs)) ∧
      ∀ v, vs = [v] → (∀ o, v = .obj o → isOperators o = false) →
        Says coll [.filter [(key, v)]] doc (isOneOf (Json.lookup doc key) vs)) ∧
    ∀ s : Store, s.Reachable → s.bringUp.connection = .up → ∃ all hit,
      (s.find coll []).1 = .ok all ∧
      (s.find coll [.isIn key vs]).1 = .ok (all.filter hit) ∧
      (s.find coll [.nin key vs]).1 = .ok (all.filter (!hit ·)) := by
  refine ⟨fun doc => ⟨says_isIn hkey hplain vs, says_nin hkey hplain vs,
    says_exclusions hkey hplain vs, says_whereOr hplain, ?_⟩, fun s hs hup => ?_⟩
  · rintro v rfl hv
    simpa [isOneOf] using says_filter hkey hplain hv
  · let test : Object → Bool := fun doc => isOneOf (Json.lookup doc key) vs
    obtain ⟨all, hall⟩ := (hs.keyed coll).ofDocuments
    have hrecords := Record.forall₂_of_ofDocuments hall
    have hids := ((hs.keyed coll).shown ⟨_, .refl _, hrecords⟩).1
    obtain ⟨hit, hsplit⟩ := Record.exists_test hrecords hids test
    have hevery : ∀ doc, Says coll [] doc true := fun doc => ⟨_, rfl, rfl⟩
    refine ⟨all, hit, ?_, ?_, ?_⟩
    · rw [hs.find_says hup rfl hevery, List.filter_true, hall]
    · rw [hs.find_says hup rfl fun doc => says_isIn hkey hplain vs]
      exact Record.ofDocuments_filter hsplit
    · rw [hs.find_says hup rfl fun doc => says_nin hkey hplain vs]
      exact Record.ofDocuments_filter (hsplit.imp fun _ _ h => ⟨h.1, congrArg _ h.2⟩)

/-- Of two books, the one without tags is found by null, and the other by what null excludes. -/
theorem membership_consistent_books :
    ∃ first second,
      ((serving books).find "books" []).1 = .ok [first, second] ∧
      ((serving books).find "books" [.isIn "tags" [.null]]).1 = .ok [first] ∧
      ((serving books).find "books" [.nin "tags" [.null]]).1 = .ok [second] := by
  have hkey : "tags" ≠ "" := by decide
  have hplain : startsWithDollar "tags" = false := by decide
  obtain ⟨-, hstores⟩ := membership_consistent "books" hkey hplain [.null]
  obtain ⟨all, hit, hall, hin, hnin⟩ :=
    hstores (serving books) (reachable_serving reachable_books) (serving_up books)
  obtain ⟨c, hc⟩ : ∃ c, compile "books" [] = .ok c := ⟨_, rfl⟩
  obtain ⟨cin, hcin⟩ : ∃ c, compile "books" [.isIn "tags" [.null]] = .ok c := ⟨_, rfl⟩
  obtain ⟨first, second, hboth, hfirst⟩ : ∃ first second,
      answer (books.find "books" c.query) >>= Record.ofDocuments = .ok [first, second] ∧
      answer (books.find "books" cin.query) >>= Record.ofDocuments = .ok [first] := by
    cases hc
    cases hcin
    exact ⟨_, _, rfl, rfl⟩
  rw [← find_serving reachable_books hc, hall, Except.ok.injEq] at hboth
  rw [← find_serving reachable_books hcin, hin, hboth, Except.ok.injEq] at hfirst
  refine ⟨first, second, ?_, ?_, ?_⟩
  · rw [hall, hboth]
  · rw [hin, hboth, hfirst]
  · rw [hnin, hboth]
    cases hone : hit first <;> cases htwo : hit second <;> simp_all

end Store

end DocStore
