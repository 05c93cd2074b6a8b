import DocStore.Proofs.Identity
import DocStore.Proofs.Selection
import DocStore.Proofs.Session
import DocStore.Proofs.Verdict

/-!
Removals by predicates: what goes, what stays, and what a document at fault does to it.

A removal is a sweep of its collection and touches nothing else (`Engine.Remains`).  So it
takes out exactly what a search by the same predicates finds, when its sort and its slice
are left out; or, stopped by a fault, what it would find in front of the document at fault:

    all answer      → the documents that match are gone
    `d` is at fault → so are those in front of `d`; `d` and the rest stay
                                                             (remove_sweeps)
-/

namespace DocStore

open Json (Object)
open DocStore.Filter

namespace Engine

/-! ## What remains of an engine -/

/-- The engine `e'` has `left` for the documents of one collection of `e`, and is else as
`e` is. -/
structure Remains (e : Engine) (coll : String) (left : List Object) (e' : Engine) : Prop where
  database : e'.database = e.database
  documents : e'.documents coll = left
  others : ∀ name, name ≠ coll → e'.collection? name = e.collection? name
  indexes : ∀ name, (e'.collection? name).map (·.indexes) = (e.collection? name).map (·.indexes)

theorem deleteMany_sweeps (e : Engine) (coll : String) (filter : Object) :
    (e.deleteMany coll filter).1 = (sweep filter (e.documents coll)).1 ∧
    e.Remains coll (sweep filter (e.documents coll)).2 (e.deleteMany coll filter).2 := by
  unfold deleteMany
  cases hc : e.collection? coll with
  | none =>
    have hnone : e.documents coll = [] := by
      unfold documents
      rw [hc]
      rfl
    rw [hnone]
    exact ⟨rfl, rfl, hnone, fun _ _ => rfl, fun _ => rfl⟩
  | some c =>
    rw [documents_of_collection? hc]
    refine ⟨rfl, rfl, ?_, fun name hne => ?_, fun name => ?_⟩
    · rw [documents_put, if_pos rfl]
    · rw [collection?_put, if_neg hne]
    · rw [collection?_put]
      split
      · next hname => rw [hname, hc]; rfl
      · rfl

end Engine

/-! ## Records -/

/-- Every document that stands under an identifier has a record. -/
theorem Keyed.ofDocuments {docs : List Object} (h : Keyed docs) :
    ∃ rs, Record.ofDocuments docs = .ok rs := by
  induction docs with
  | nil => exact ⟨[], rfl⟩
  | cons doc docs ih =>
    obtain ⟨id, hid⟩ := h.written doc List.mem_cons_self
    obtain ⟨rs, hrs⟩ := ih (h.sublist (List.sublist_cons_self doc docs))
    have hdoc : Record.ofDocument doc = .ok ⟨Record.idText id.toJson, doc.erase idField⟩ := by
      unfold Record.ofDocument
      rw [hid]
      rfl
    unfold Record.ofDocuments
    simp only [hdoc, hrs, Except.ok.injEq, exists_eq']

/-! ## Predicates without sort and slice -/

/-- Whether a predicate says how a result is sorted or sliced. -/
def Predicate.isPaging : Predicate → Bool
  | limit _ | skip _ | sort _ _ => true
  | _ => false

/-- The predicates that say what matches. -/
def unpaged (ps : List Predicate) : List Predicate :=
  ps.filter (!·.isPaging)

theorem constraints_of_isPaging {p : Predicate} (h : p.isPaging = true) : p.constraints = [] := by
  cases p with
  | limit _ | skip _ | sort _ _ => rfl
  | _ => cases h

theorem flatMap_constraints_unpaged (ps : List Predicate) :
    (unpaged ps).flatMap Predicate.constraints = ps.flatMap Predicate.constraints := by
  induction ps with
  | nil => rfl
  | cons p ps ih =>
    unfold unpaged at ih ⊢
    rw [List.flatMap_cons]
    by_cases hp : p.isPaging = true
    · rw [List.filter_cons_of_neg (by simp [hp]), constraints_of_isPaging hp, List.nil_append, ih]
    · rw [List.filter_cons_of_pos (by simp [hp]), List.flatMap_cons, ih]

theorem filterMap_unpaged {α : Type} {f : Predicate → Option α}
    (hf : ∀ p, p.isPaging = false → f p = none) (ps : List Predicate) :
    (unpaged ps).filterMap f = [] := by
  rw [List.filterMap_eq_nil_iff]
  intro p hp
  exact hf p (by simpa using (List.mem_filter.1 hp).2)

/-- Without its sort and slice, a list answers the same about every document. -/
theorem compile_unpaged {coll : String} {ps : List Predicate} {c : Cursor}
    (hc : compile coll ps = .ok c) :
    ∃ c', compile coll (unpaged ps) = .ok c' ∧
      (∀ doc, matches? c'.filter doc = matches? c.filter doc) ∧
      c'.sort = none ∧ c'.skip = none ∧ c'.limit = none := by
  have hv : ∀ p ∈ unpaged ps, p.validate = .ok () :=
    fun p hp => Compile.validate_of_fold hc p (List.mem_filter.1 hp).1
  have hnone : ∀ p : Predicate, p.isPaging = false →
      p.sortKey? = none ∧ p.skip? = none ∧ p.limit? = none := by
    intro p hp
    cases p with
    | limit _ | skip _ | sort _ _ => cases hp
    | _ => exact ⟨rfl, rfl, rfl⟩
  obtain ⟨c', hc', hsort, hskip, hlimit⟩ := exists_compile coll hv
  refine ⟨c', hc', fun doc => ?_, ?_, ?_, ?_⟩
  · rw [matches?_compile hc', matches?_compile hc, flatMap_constraints_unpaged]
  · rw [hsort, filterMap_unpaged fun p hp => (hnone p hp).1]
    rfl
  · rw [hskip, filterMap_unpaged fun p hp => (hnone p hp).2.1]
    rfl
  · rw [hlimit, filterMap_unpaged fun p hp => (hnone p hp).2.2]
    rfl

namespace Store

open Engine (Remains)

/-! ## Removals -/

variable {s : Store} {coll : String} {ps : List Predicate} {c : Cursor}

/-- A removal is a sweep of the collection. -/
theorem Reachable.remove (hs : s.Reachable) (hup : s.bringUp.connection = .up)
    (hc : compile coll ps = .ok c) :
    (s.remove coll ps).1
      = (answer (Engine.sweep c.filter (s.engine.documents coll)).1).map (fun _ => ()) ∧
    Remains s.engine coll (Engine.sweep c.filter (s.engine.documents coll)).2
      (s.remove coll ps).2.engine := by
  obtain ⟨hanswer, hremains⟩ := s.engine.deleteMany_sweeps coll c.filter
  unfold Store.remove
  rw [onEngine_of_up _ hup, hs.coherent.bringUp_engine, hc, ← hanswer]
  exact ⟨rfl, hremains⟩

/-- The store after a removal is reachable, and its connection is still up. -/
theorem Reachable.after_remove (hs : s.Reachable) (hup : s.bringUp.connection = .up)
    (coll : String) (ps : List Predicate) :
    (s.remove coll ps).2.Reachable ∧ (s.remove coll ps).2.bringUp.connection = .up := by
  have hconnection : (s.remove coll ps).2.connection = .up :=
    (s.onEngine_connection _).trans hup
  refine ⟨hs.handle (.remove coll ps), ?_⟩
  unfold bringUp
  rw [hconnection]
  exact hconnection

/-- Where everything that matched is gone, the same predicates find nothing. -/
theorem Reachable.finds_nothing (hs : s.Reachable) (hup : s.bringUp.connection = .up)
    (hc : compile coll ps = .ok c) {docs : List Object} (h : Answers c.filter docs)
    (hleft : s.engine.documents coll = docs.filter (!hits c.filter ·)) :
    (s.count coll ps).1 = .ok 0 ∧ (s.find coll ps).1 = .ok [] := by
  have hanswers : Answers c.query.filter (s.engine.documents coll) := by
    intro doc hd
    rw [hleft] at hd
    exact h doc (List.mem_filter.1 hd).1
  have hnone : (s.engine.documents coll).filter (hits c.query.filter) = [] := by
    rw [hleft, List.filter_filter, List.filter_eq_nil_iff]
    show ∀ doc ∈ docs, ¬ (hits c.filter doc && !hits c.filter doc) = true
    simp
  have hfind : s.bringUp.engine.find coll c.query = .ok [] := by
    rw [hs.coherent.bringUp_engine, Engine.find_of_answers hanswers, hnone]
    cases c.query.sort <;> cases c.query.limit <;> simp [Engine.sorted, sortStable, Engine.slice]
  constructor
  · refine (ask_compiled hup hc fun e c => answer (e.count coll c.query)).trans ?_
    unfold Engine.count
    rw [hfind]
    rfl
  · rw [find_compiled hup hc, hfind]
    rfl

/-- Without sort and slice, a search finds every match, as it is stored and as a record. -/
theorem Reachable.finds_matches (hs : s.Reachable) (hup : s.bringUp.connection = .up)
    (hc : compile coll ps = .ok c) (h : Answers c.filter (s.engine.documents coll)) :
    (s.rawFind coll (unpaged ps)).1 = .ok ((s.engine.documents coll).filter (hits c.filter)) ∧
    ∃ rs, (s.find coll (unpaged ps)).1 = .ok rs ∧
      Record.ofDocuments ((s.engine.documents coll).filter (hits c.filter)) = .ok rs := by
  obtain ⟨c', hc', hfilter, hsort, hskip, hlimit⟩ := compile_unpaged hc
  have hhits : hits c'.filter = hits c.filter := by
    funext doc
    unfold hits
    rw [hfilter]
  have hanswers : Answers c'.query.filter (s.engine.documents coll) := by
    intro doc hd
    obtain ⟨hit, hm⟩ := h doc hd
    exact ⟨hit, (hfilter doc).trans hm⟩
  have hfind : s.bringUp.engine.find coll c'.query
      = .ok ((s.engine.documents coll).filter (hits c.filter)) := by
    rw [hs.coherent.bringUp_engine, Engine.find_of_answers hanswers]
    show Except.ok (Engine.slice c'.skip c'.limit
      (Engine.sorted c'.sort ((s.engine.documents coll).filter (hits c'.filter)))) = _
    rw [hsort, hskip, hlimit, hhits]
    rfl
  obtain ⟨database, calls, he⟩ := hs.engine
  have hkeyed : Keyed (s.engine.documents coll) := by
    rw [he]
    exact (Engine.sound_run database calls).documents coll
  obtain ⟨rs, hrs⟩ := (hkeyed.sublist List.filter_sublist).ofDocuments
  refine ⟨?_, rs, ?_, hrs⟩
  · refine (ask_compiled hup hc' fun e c => answer (e.find coll c.query)).trans ?_
    rw [hfind]
    rfl
  · rw [find_compiled hup hc', hfind]
    exact hrs

/-- A removal takes out what the predicates find without their sort and slice, and where a
document is at fault, it stops with that fault and keeps the documents from there on.  In
either case it takes out nothing else, and touches no other collection and no index. -/
theorem remove_sweeps (hs : s.Reachable) (hup : s.bringUp.connection = .up)
    (hc : compile coll ps = .ok c) :
    let docs := s.engine.documents coll
    let s' := (s.remove coll ps).2
    (Answers c.filter docs →
      (s.remove coll ps).1 = .ok () ∧
      Remains s.engine coll (docs.filter (!hits c.filter ·)) s'.engine ∧
      (s'.count coll ps).1 = .ok 0 ∧ (s'.find coll ps).1 = .ok [] ∧
      (s.rawFind coll (unpaged ps)).1 = .ok (docs.filter (hits c.filter)) ∧
      ∃ rs, (s.find coll (unpaged ps)).1 = .ok rs ∧
        Record.ofDocuments (docs.filter (hits c.filter)) = .ok rs) ∧
    (∀ before doc rest cause, docs = before ++ doc :: rest → Answers c.filter before →
      matches? c.filter doc = .error cause →
      (s.remove coll ps).1 = .error (Engine.Fault.filter cause).toStoreError ∧
      Remains s.engine coll (before.filter (!hits c.filter ·) ++ doc :: rest) s'.engine) ∧
    (s'.engine.documents coll).Sublist docs ∧
    (s'.engine.documents coll).filter (!hits c.filter ·) = docs.filter (!hits c.filter ·) := by
  intro docs s'
  obtain ⟨hanswer, hremains⟩ := hs.remove hup hc
  refine ⟨fun h => ?_, fun before doc rest cause hdocs hbefore hd => ?_, ?_, ?_⟩
  · rw [Engine.sweep_of_answers h] at hanswer hremains
    obtain ⟨hs', hup'⟩ := hs.after_remove hup coll ps
    obtain ⟨hcount, hfind⟩ := hs'.finds_nothing hup' hc h hremains.documents
    exact ⟨hanswer, hremains, hcount, hfind, hs.finds_matches hup hc h⟩
  · rw [show s.engine.documents coll = before ++ doc :: rest from hdocs,
      Engine.sweep_of_error hbefore hd] at hanswer hremains
    exact ⟨hanswer, hremains⟩
  · rw [hremains.documents]
    exact Engine.sweep_sublist c.filter docs
  · rw [hremains.documents]
    exact Engine.filter_sweep c.filter docs

/-- A slice of the books that have no tags. -/
def untagged : List Predicate :=
  [.filter [("tags", .null)], .skip 5, .limit 1]

/-- The same with an alternative that is a fault where there is a list of tags. -/
def untaggedOrFaulty : List Predicate :=
  [.whereOr [[("tags", .null)], [("tags", .obj [("$elemMatch", .null)])]], .limit 1]

theorem remove_sweeps_books :
    ∃ first second, (serving books).Reachable ∧ (serving books).bringUp.connection = .up ∧
    (serving books).engine.documents "books" = [first, second] ∧
    ((serving books).remove "books" untagged).1 = .ok () ∧
    ((serving books).remove "books" untagged).2.engine.documents "books" = [second] ∧
    ((serving books).rawFind "books" (unpaged untagged)).1 = .ok [first] ∧
    ((serving books).remove "books" untaggedOrFaulty).1
      = .error (Engine.Fault.filter .elementNoDocument).toStoreError ∧
    ((serving books).remove "books" untaggedOrFaulty).2.engine.documents "books" = [second] := by
  obtain ⟨c, hc, d, hd⟩ : ∃ c, compile "books" untagged = .ok c ∧
      ∃ d, compile "books" untaggedOrFaulty = .ok d := ⟨_, rfl, _, rfl⟩
  obtain ⟨first, second, hdocs, hfirst, hsecond, hfirst', hfault⟩ : ∃ first second,
      (serving books).engine.documents "books" = [first, second] ∧
      matches? c.filter first = .ok true ∧ matches? c.filter second = .ok false ∧
      matches? d.filter first = .ok true ∧
      matches? d.filter second = .error .elementNoDocument := by
    cases hc
    cases hd
    exact ⟨_, _, rfl, rfl, rfl, rfl, rfl⟩
  have hs : (serving books).Reachable := reachable_serving reachable_books
  have hup := serving_up books
  have hanswers : Answers c.filter ((serving books).engine.documents "books") := by
    rw [hdocs]
    exact List.forall_mem_cons.2 ⟨⟨_, hfirst⟩, List.forall_mem_singleton.2 ⟨_, hsecond⟩⟩
  obtain ⟨hok, hleft, -, -, hfound, -⟩ := (remove_sweeps hs hup hc).1 hanswers
  obtain ⟨herror, hleft'⟩ := (remove_sweeps hs hup hd).2.1 [first] second [] _ hdocs
    (List.forall_mem_singleton.2 ⟨_, hfirst'⟩) hfault
  refine ⟨first, second, hs, hup, hdocs, hok, ?_, ?_, herror, ?_⟩
  · rw [hleft.documents, hdocs]
    simp [hits_of_ok hfirst, hits_of_ok hsecond]
  · rw [hfound, hdocs]
    simp [hits_of_ok hfirst, hits_of_ok hsecond]
  · rw [hleft'.documents]
    simp [hits_of_ok hfirst']

end Store

end DocStore
