import DocStore.Proofs.Equality
import DocStore.Proofs.Retrieval

/-!
What the reads by predicates have in common.

All of them search by one query, so they fail alike; else the records that are found decide
what the other reads answer:

    e.findOne coll q = (e.find coll q).map List.head?        (findOne_eq)
    a record has the document's values, but for its identifier
                                                             (Record.lookup_object)
    find, findOne, count and sum agree                       (reads_agree)
-/

namespace DocStore

open Json (Object)

/-! ## Fields of records -/

/-- What a path finds does not depend on fields that it does not start with. -/
theorem Json.lookup_erase {doc : Object} (hd : doc.Distinct) {key path : String}
    (h : (segments path).head? ≠ some key) : lookup (doc.erase key) path = lookup doc path := by
  obtain ⟨first, hfirst⟩ : ∃ first, (segments path).head? = some first := by
    rw [← Option.isSome_iff_exists, List.isSome_head?]
    exact segments_ne_nil path
  have hne : first ≠ key := fun he => h (he ▸ hfirst)
  exact lookup_congr hfirst (by rw [Object.get?_erase hd, if_neg hne])

theorem Record.lookup_object {doc : Object} (hd : doc.Distinct) {r : Record}
    (hr : ofDocument doc = .ok r) {path : String}
    (h : (Json.segments path).head? ≠ some idField) :
    Json.lookup doc path = Json.lookup r.object path := by
  have hobject : r.object = doc.erase idField := by
    unfold ofDocument at hr
    split at hr <;> cases hr
    rfl
  rw [hobject, Json.lookup_erase hd h]

namespace Engine

/-! ## Reads of one query -/

/-- The first element of a slice does not depend on the limit: one of 0 is none. -/
theorem head?_slice {α : Type} (skip limit : Option UInt64) (xs : List α) :
    (slice skip limit xs).head? = (xs.drop ((skip.map UInt64.toNat).getD 0)).head? := by
  unfold slice
  cases limit with
  | none => rfl
  | some n =>
    simp only
    split
    · rfl
    · next hn =>
      have hpos : 0 < n.toNat := UInt64.lt_iff_toNat_lt.1 (UInt64.pos_iff_ne_zero.2 hn)
      rw [List.head?_take, if_neg hpos.ne']

/-- Whatever limit the query sets, the first document that it finds is found. -/
theorem findOne_eq (e : Engine) (coll : String) (q : Query) :
    e.findOne coll q = (e.find coll q).map List.head? := by
  unfold findOne find
  cases hs : selectMatching q.filter (e.documents coll) with
  | error cause => rfl
  | ok docs =>
    show Except.ok (slice q.skip (some 1) (sorted q.sort docs)).head?
      = .ok (slice q.skip q.limit (sorted q.sort docs)).head?
    rw [head?_slice, head?_slice]

end Engine

namespace Store

/-! ## Reads by predicates -/

variable {s : Store} {coll : String} {ps : List Predicate}

/-- The four reads fail with this cause. -/
structure ReadsFail (s : Store) (coll : String) (ps : List Predicate) (cause : StoreError) :
    Prop where
  find : (s.find coll ps).1 = .error cause
  findOne : (s.findOne coll ps).1 = .error cause
  count : (s.count coll ps).1 = .error cause
  sum : ∀ path, (s.sum coll ps path).1 = .error cause

/-- The four reads answer by these records.  Records keep their identifiers apart, so this says
nothing of sums at a path that starts there. -/
structure ReadsShow (s : Store) (coll : String) (ps : List Predicate) (rs : List Record) :
    Prop where
  find : (s.find coll ps).1 = .ok rs
  findOne : (s.findOne coll ps).1 = .ok rs.head?
  count : (s.count coll ps).1 = .ok rs.length
  sum : ∀ path, (Json.segments path).head? ≠ some idField →
    (s.sum coll ps path).1
      = .ok (Number.sum (Engine.numbers (rs.filterMap fun r => Json.lookup r.object path)))

theorem readsFail_of_ask {cause : StoreError}
    (h : ∀ {α : Type} (g : Engine → Cursor → Except StoreError α),
      (s.ask fun e => compile coll ps >>= g e).1 = .error cause) : ReadsFail s coll ps cause where
  find := h fun e c => answer (e.find coll c.query) >>= Record.ofDocuments
  findOne := h fun e c => answer (e.findOne coll c.query) >>= recordOf
  count := h fun e c => answer (e.count coll c.query)
  sum path := h fun e c => answer (e.sum coll c.query path)

/-- By predicates that compile, the four reads make one search. -/
theorem reads_compiled {c : Cursor} (hup : s.bringUp.connection = .up)
    (hc : compile coll ps = .ok c) {found : Except Engine.Fault (List Object)}
    (hfound : s.bringUp.engine.find coll c.query = found) :
    (s.find coll ps).1 = answer found >>= Record.ofDocuments ∧
    (s.findOne coll ps).1 = answer (found.map List.head?) >>= recordOf ∧
    (s.count coll ps).1 = answer (found.map List.length) ∧
    ∀ path, (s.sum coll ps path).1
      = answer (found.map fun docs =>
          Number.sum (Engine.numbers (docs.filterMap (Json.lookup · path)))) := by
  subst hfound
  refine ⟨find_compiled hup hc, ?_, ?_, fun path => ?_⟩
  · rw [← Engine.findOne_eq]
    exact ask_compiled hup hc fun e c => answer (e.findOne coll c.query) >>= recordOf
  · exact ask_compiled hup hc fun e c => answer (e.count coll c.query)
  · exact ask_compiled hup hc fun e c => answer (e.sum coll c.query path)

theorem readsFail_of_find {c : Cursor} (hup : s.bringUp.connection = .up)
    (hc : compile coll ps = .ok c) {cause : Engine.Fault}
    (hf : s.bringUp.engine.find coll c.query = .error cause) :
    ReadsFail s coll ps cause.toStoreError := by
  obtain ⟨hfind, hone, hcount, hsum⟩ := reads_compiled hup hc hf
  exact ⟨hfind, hone, hcount, hsum⟩

theorem recordOf_head? {docs : List Object} {rs : List Record}
    (h : List.Forall₂ (fun doc r => Record.ofDocument doc = .ok r) docs rs) :
    recordOf docs.head? = .ok rs.head? := by
  cases h with
  | nil => rfl
  | @cons doc r docs rs hr _ =>
    show Except.map some (Record.ofDocument doc) = .ok (some r)
    rw [hr]
    rfl

theorem filterMap_lookup {docs : List Object} (hd : ∀ doc ∈ docs, Object.Distinct doc)
    {rs : List Record} (h : List.Forall₂ (fun doc r => Record.ofDocument doc = .ok r) docs rs)
    {path : String} (hpath : (Json.segments path).head? ≠ some idField) :
    docs.filterMap (Json.lookup · path) = rs.filterMap fun r => Json.lookup r.object path := by
  have hvalues : docs.map (Json.lookup · path) = rs.map fun r => Json.lookup r.object path :=
    map_eq_of_forall₂ (forall₂_of_mem h fun doc hm _ _ hr =>
      Record.lookup_object (hd doc hm) hr hpath)
  have hfound := congrArg (List.filterMap id) hvalues
  simpa only [List.filterMap_map, Function.id_comp] using hfound

/-- The records of the documents that are found say what all reads answer. -/
theorem readsShow_of_find {c : Cursor} (hup : s.bringUp.connection = .up)
    (hc : compile coll ps = .ok c) {docs : List Object}
    (hd : ∀ doc ∈ docs, Object.Distinct doc)
    (hf : s.bringUp.engine.find coll c.query = .ok docs) {rs : List Record}
    (hrs : Record.ofDocuments docs = .ok rs) : ReadsShow s coll ps rs := by
  have hforall := Record.forall₂_of_ofDocuments hrs
  obtain ⟨hfind, hone, hcount, hsum⟩ := reads_compiled hup hc hf
  refine ⟨hfind.trans hrs, hone.trans (recordOf_head? hforall), ?_, fun path hpath => ?_⟩
  · rw [hcount, ← hforall.length_eq]
    rfl
  · rw [hsum, ← filterMap_lookup hd hforall hpath]
    rfl

/-- The four reads agree: they fail with the same cause, or answer by the same records. -/
theorem reads_agree (hs : s.Reachable) (coll : String) (ps : List Predicate) :
    (∃ cause, ReadsFail s coll ps cause) ∨ ∃ rs, ReadsShow s coll ps rs := by
  cases hconn : s.bringUp.connection with
  | untried => exact absurd hconn s.bringUp_settles
  | down cause => exact .inl ⟨cause, readsFail_of_ask fun _ => ask_of_down hconn _⟩
  | up =>
    cases hc : compile coll ps with
    | error cause =>
      refine .inl ⟨cause, readsFail_of_ask fun g => ?_⟩
      rw [ask_of_up hconn, hc]
      rfl
    | ok c =>
      cases hf : s.bringUp.engine.find coll c.query with
      | error cause => exact .inl ⟨_, readsFail_of_find hconn hc hf⟩
      | ok docs =>
        have hkeyed : Keyed docs := by
          have hall := hs.keyed coll
          rw [← hs.coherent.bringUp_engine] at hall
          exact hall.subperm (Engine.find_subperm hf)
        obtain ⟨rs, hrs⟩ := hkeyed.ofDocuments
        exact .inr ⟨rs, readsShow_of_find hconn hc hkeyed.distinct hf hrs⟩

/-- A limit of 0 is none, for one document as for all. -/
theorem reads_agree_books :
    (serving books).Reachable ∧
    ∃ first second, ReadsShow (serving books) "books" [.limit 0] [first, second] := by
  have hs : (serving books).Reachable := reachable_serving reachable_books
  obtain ⟨c, hc⟩ : ∃ c, compile "books" [.limit 0] = .ok c := ⟨_, rfl⟩
  obtain ⟨first, second, hfound⟩ : ∃ first second,
      answer (books.find "books" c.query) >>= Record.ofDocuments = .ok [first, second] := by
    cases hc
    exact ⟨_, _, rfl⟩
  have hread : ((serving books).find "books" [.limit 0]).1 = .ok [first, second] := by
    rw [find_serving reachable_books hc]
    exact hfound
  refine ⟨hs, first, second, ?_⟩
  rcases reads_agree hs "books" [.limit 0] with ⟨cause, hfail⟩ | ⟨rs, hshow⟩
  · have hfind := hfail.find
    rw [hread] at hfind
    cases hfind
  · have hfind := hshow.find
    rw [hread, Except.ok.injEq] at hfind
    rw [hfind]
    exact hshow

end Store

end DocStore
