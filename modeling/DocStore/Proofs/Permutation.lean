import DocStore.Proofs.Selection
import DocStore.Proofs.Session
import DocStore.Proofs.ShortCircuit
import DocStore.Proofs.Verdict

/-!
Predicates in another order.

To move predicates makes and breaks runs of exclusions, and may hide a fault or bring one
out.  It does not change what the predicates ask of a document, so two orders never give
contrary verdicts, and where both searches succeed they match the same documents:

    ps.Perm ps' → Compatible (matches? c.filter doc) (matches? c'.filter doc)
                                                             (compatible_of_perm)
    Answers f docs → Answers f' docs → docs.filter (hits f) = docs.filter (hits f')
                                                             (filter_hits_eq)

With the sort, the skip and the limit that hold, all reads agree (compile_perm).
-/

namespace DocStore

open Json (Object)
open DocStore.Filter

/-! ## Verdicts -/

theorem verdict_eq (cs : List Constraint) (doc : Object) :
    verdict cs doc = settle false (cs.map fun k => matches? k.toFilter doc) := by
  induction cs with
  | nil => rfl
  | cons k cs ih =>
    rw [List.map_cons, settle_false_cons, ← ih]
    rfl

/-- The verdicts of two orders of a list do not contradict each other. -/
theorem compatible_of_perm {coll : String} {ps ps' : List Predicate} {c c' : Cursor}
    (h : ps.Perm ps') (hc : compile coll ps = .ok c) (hc' : compile coll ps' = .ok c')
    (doc : Object) : Compatible (matches? c.filter doc) (matches? c'.filter doc) := by
  rw [matches?_compile hc, matches?_compile hc', verdict_eq, verdict_eq]
  have hcs : (ps.flatMap Predicate.constraints).Perm (ps'.flatMap Predicate.constraints) :=
    h.flatMap_right _
  exact (Paired.of_perm (hcs.map _)).settle false

namespace Engine

/-! ## Reads -/

/-- Filters that do not contradict each other match the same documents, where both
answer. -/
theorem filter_hits_eq {f f' : Object} {docs : List Object}
    (h : ∀ doc, Compatible (matches? f doc) (matches? f' doc)) (hf : Answers f docs)
    (hf' : Answers f' docs) : docs.filter (hits f) = docs.filter (hits f') := by
  refine List.filter_congr fun doc hd => ?_
  obtain ⟨hit, hm⟩ := hf doc hd
  obtain ⟨hit', hm'⟩ := hf' doc hd
  rw [hits_of_ok hm, hits_of_ok hm', h doc hit hit' hm hm']

/-- Two queries read alike: they select the same, sort it and slice it alike. -/
structure ReadsAs (e : Engine) (coll : String) (q q' : Query) : Prop where
  select : selectMatching q.filter (e.documents coll) = selectMatching q'.filter (e.documents coll)
  sort : q.sort = q'.sort
  skip : q.skip = q'.skip
  limit : q.limit = q'.limit

namespace ReadsAs

variable {e : Engine} {coll : String} {q q' : Query}

theorem find (h : e.ReadsAs coll q q') : e.find coll q = e.find coll q' := by
  unfold Engine.find
  rw [h.select, h.sort, h.skip, h.limit]

theorem findOne (h : e.ReadsAs coll q q') : e.findOne coll q = e.findOne coll q' := by
  have hone : e.ReadsAs coll { q with limit := some 1 } { q' with limit := some 1 } :=
    { h with limit := rfl }
  unfold Engine.findOne
  rw [hone.find]

theorem count (h : e.ReadsAs coll q q') : e.count coll q = e.count coll q' := by
  unfold Engine.count
  rw [h.find]

theorem sum (h : e.ReadsAs coll q q') (path : String) :
    e.sum coll q path = e.sum coll q' path := by
  unfold Engine.sum
  rw [h.find]

end ReadsAs

end Engine

namespace Store

/-! ## Predicates in another order -/

variable {coll : String} {ps ps' : List Predicate} {c c' : Cursor}

/-- A search that succeeds has met no fault. -/
theorem answers_of_find {s : Store} {rs : List Record} (hc : compile coll ps = .ok c)
    (h : (s.find coll ps).1 = .ok rs) : Answers c.filter (s.bringUp.engine.documents coll) := by
  rw [find_compiled (up_of_ask h) hc] at h
  cases he : s.bringUp.engine.find coll c.query with
  | error cause =>
    rw [he] at h
    cases h
  | ok docs => exact Engine.answers_of_find he

/-- Queries that read alike give the same results. -/
theorem reads_of_readsAs {s : Store} (hup : s.bringUp.connection = .up)
    (hc : compile coll ps = .ok c) (hc' : compile coll ps' = .ok c')
    (h : s.bringUp.engine.ReadsAs coll c.query c'.query) :
    (s.find coll ps).1 = (s.find coll ps').1 ∧
    (s.findOne coll ps).1 = (s.findOne coll ps').1 ∧
    (s.count coll ps).1 = (s.count coll ps').1 ∧
    ∀ path, (s.sum coll ps path).1 = (s.sum coll ps' path).1 := by
  have hread : ∀ {α : Type} (g : Engine → Cursor → Except StoreError α),
      g s.bringUp.engine c = g s.bringUp.engine c' →
      (s.ask fun e => compile coll ps >>= g e).1 = (s.ask fun e => compile coll ps' >>= g e).1 := by
    intro α g hg
    rw [ask_compiled hup hc, ask_compiled hup hc', hg]
  refine ⟨?_, ?_, ?_, fun path => ?_⟩
  · exact hread (fun e c => answer (e.find coll c.query) >>= Record.ofDocuments) (by rw [h.find])
  · exact hread (fun e c => answer (e.findOne coll c.query) >>= recordOf) (by rw [h.findOne])
  · exact hread (fun e c => answer (e.count coll c.query)) (by rw [h.count])
  · exact hread (fun e c => answer (e.sum coll c.query path)) (by rw [h.sum])

/-- A list that compiles does so in any order, and no order contradicts another about a
document.  Orders with the same last sort, skip and limit, by both of which a search
succeeds, give the same results. -/
theorem compile_perm (h : ps.Perm ps') (hc : compile coll ps = .ok c) :
    ∃ c', compile coll ps' = .ok c' ∧
      (∀ doc b b', matches? c.filter doc = .ok b → matches? c'.filter doc = .ok b' → b = b') ∧
      ((ps.filterMap Predicate.sortKey?).getLast? = (ps'.filterMap Predicate.sortKey?).getLast? →
        (ps.filterMap Predicate.skip?).getLast? = (ps'.filterMap Predicate.skip?).getLast? →
        (ps.filterMap Predicate.limit?).getLast? = (ps'.filterMap Predicate.limit?).getLast? →
        ∀ (s : Store) rs rs', (s.find coll ps).1 = .ok rs → (s.find coll ps').1 = .ok rs' →
          (s.find coll ps).1 = (s.find coll ps').1 ∧
          (s.findOne coll ps).1 = (s.findOne coll ps').1 ∧
          (s.count coll ps).1 = (s.count coll ps').1 ∧
          ∀ path, (s.sum coll ps path).1 = (s.sum coll ps' path).1) := by
  have hv := Compile.validate_of_fold hc
  obtain ⟨d, hd, hsort, hskip, hlimit⟩ := exists_compile coll hv
  obtain ⟨c', hc', hsort', hskip', hlimit'⟩ :=
    exists_compile coll fun p hp => hv p (h.mem_iff.2 hp)
  rw [hc] at hd
  cases hd
  have hcompatible := compatible_of_perm h hc hc'
  refine ⟨c', hc', hcompatible, fun hs hk hl s rs rs' hfind hfind' => ?_⟩
  have hanswers := answers_of_find hc hfind
  have hanswers' := answers_of_find hc' hfind'
  refine reads_of_readsAs (up_of_ask hfind) hc hc' ⟨?_, ?_, ?_, ?_⟩
  · show Engine.selectMatching c.filter _ = Engine.selectMatching c'.filter _
    rw [Engine.selectMatching_of_answers hanswers, Engine.selectMatching_of_answers hanswers',
      Engine.filter_hits_eq hcompatible hanswers hanswers']
  · show c.sort = c'.sort
    rw [hsort, hsort', hs]
  · show c.skip = c'.skip
    rw [hskip, hskip', hk]
  · show c.limit = c'.limit
    rw [hlimit, hlimit', hl]

/-- A search whose exclusions stand in one run. -/
def gathered : List Predicate :=
  [.limit 7, .ne "tags" (.bool true), .ne "tags" .null, .sort "tags" true, .limit 2]

/-- The same with the run broken by the other predicates. -/
def scattered : List Predicate :=
  [.ne "tags" .null, .limit 7, .sort "tags" true, .ne "tags" (.bool true), .limit 2]

theorem compile_perm_gathered :
    gathered.Perm scattered ∧ ∃ c c', compile "books" gathered = .ok c ∧
      compile "books" scattered = .ok c' ∧ c.constraints.length = 1 ∧ c'.constraints.length = 2 ∧
      (∃ r, ((serving books).find "books" gathered).1 = .ok [r]) ∧
      ((serving books).find "books" gathered).1 = ((serving books).find "books" scattered).1 ∧
      ((serving books).count "books" gathered).1 = ((serving books).count "books" scattered).1 := by
  have hperm : gathered.Perm scattered := by
    have hfront : gathered.Perm (.ne "tags" .null ::
        [.limit 7, .ne "tags" (.bool true), .sort "tags" true, .limit 2]) :=
      @List.perm_middle Predicate _ [_, _] [_, _]
    exact hfront.trans (.cons _ (.cons _ (.swap _ _ _)))
  obtain ⟨c, c', hc, hd, hone, htwo⟩ : ∃ c c', compile "books" gathered = .ok c ∧
      compile "books" scattered = .ok c' ∧ c.constraints.length = 1 ∧ c'.constraints.length = 2 :=
    ⟨_, _, rfl, rfl, rfl, rfl⟩
  have hengine : (serving books).bringUp.engine = books :=
    (reachable_serving reachable_books).coherent.bringUp_engine
  have hfind : ∀ {ps : List Predicate} {c : Cursor}, compile "books" ps = .ok c →
      ((serving books).find "books" ps).1
        = answer (books.find "books" c.query) >>= Record.ofDocuments := by
    intro ps c hc
    rw [find_compiled (serving_up books) hc, hengine]
  obtain ⟨r, hr⟩ : ∃ r, ((serving books).find "books" gathered).1 = .ok [r] := by
    rw [hfind hc]
    cases hc
    exact ⟨_, rfl⟩
  obtain ⟨r', hr'⟩ : ∃ r, ((serving books).find "books" scattered).1 = .ok [r] := by
    rw [hfind hd]
    cases hd
    exact ⟨_, rfl⟩
  obtain ⟨-, -, -, hreads⟩ := compile_perm hperm hc
  obtain ⟨hsame, -, hcount, -⟩ := hreads rfl rfl rfl (serving books) [r] [r'] hr hr'
  exact ⟨hperm, c, c', hc, hd, hone, htwo, ⟨r, hr⟩, hsame, hcount⟩

end Store

end DocStore
