import DocStore.Proofs.History

/-!
What a filter selects of a list of documents, to read it or to take it out.

A document matches, does not, or is at fault.  Reads are all or nothing, and sweeps go on
to the first fault:

    Answers f docs → selectMatching f docs = .ok (docs.filter (hits f))
                                                             (selectMatching_of_answers)
    sweep f (before ++ rest) = what is left of `before`, then of `rest`
                                                             (sweep_append)
-/

namespace DocStore

open Json (Object)
open DocStore.Filter

namespace Filter

/-- Whether a document matches; one at fault does not. -/
def hits (filter doc : Object) : Bool :=
  match matches? filter doc with
  | .ok hit => hit
  | .error _ => false

/-- No document is at fault. -/
def Answers (filter : Object) (docs : List Object) : Prop :=
  ∀ doc ∈ docs, ∃ hit, matches? filter doc = .ok hit

theorem hits_of_ok {filter doc : Object} {hit : Bool} (h : matches? filter doc = .ok hit) :
    hits filter doc = hit := by
  unfold hits
  rw [h]

end Filter

namespace Engine

/-! ## Sweeps -/

theorem sweep_cons_of_ok {filter doc : Object} {hit : Bool} (h : matches? filter doc = .ok hit)
    (docs : List Object) :
    sweep filter (doc :: docs)
      = ((sweep filter docs).1.map (· + if hit then 1 else 0),
        if hit then (sweep filter docs).2 else doc :: (sweep filter docs).2) := by
  rw [sweep, h]
  cases hit with
  | true => rfl
  | false => cases hs : (sweep filter docs).1 <;> simp [hs, Except.map]

/-- A sweep goes through documents without a fault and on to what comes behind them. -/
theorem sweep_append {filter : Object} {before : List Object} (h : Answers filter before)
    (rest : List Object) :
    sweep filter (before ++ rest)
      = ((sweep filter rest).1.map (· + before.countP (hits filter)),
        before.filter (!hits filter ·) ++ (sweep filter rest).2) := by
  induction before with
  | nil =>
    show sweep filter rest = ((sweep filter rest).1.map id, (sweep filter rest).2)
    rw [Except.map_id]
    rfl
  | cons doc before ih =>
    obtain ⟨⟨hit, hm⟩, hbefore⟩ := List.forall_mem_cons.1 h
    have hcount : ∀ r : Except Fault Nat,
        (r.map (· + before.countP (hits filter))).map (· + if hit then 1 else 0)
          = r.map (· + (doc :: before).countP (hits filter)) := by
      intro r
      rw [List.countP_cons, hits_of_ok hm]
      cases r <;> simp [Except.map, Nat.add_assoc]
    rw [List.cons_append, sweep_cons_of_ok hm, ih hbefore, hcount, List.filter_cons, hits_of_ok hm]
    cases hit <;> rfl

/-- Without a fault, what matches goes and the rest stays. -/
theorem sweep_of_answers {filter : Object} {docs : List Object} (h : Answers filter docs) :
    sweep filter docs
      = (.ok (docs.countP (hits filter)), docs.filter (!hits filter ·)) := by
  have hs := sweep_append h []
  rw [List.append_nil] at hs
  rw [hs]
  simp [sweep, Except.map]

/-- A fault stops the sweep and keeps the documents from there on. -/
theorem sweep_of_error {filter doc : Object} {before : List Object} {cause : Filter.Fault}
    (h : Answers filter before) (hd : matches? filter doc = .error cause) (rest : List Object) :
    sweep filter (before ++ doc :: rest)
      = (.error (.filter cause), before.filter (!hits filter ·) ++ doc :: rest) := by
  have hstop : sweep filter (doc :: rest) = (.error (.filter cause), doc :: rest) := by
    unfold sweep
    rw [hd]
  rw [sweep_append h, hstop]
  rfl

/-- Whatever stops a sweep, it takes out nothing but matches. -/
theorem filter_sweep (filter : Object) (docs : List Object) :
    (sweep filter docs).2.filter (!hits filter ·) = docs.filter (!hits filter ·) := by
  induction docs with
  | nil => rfl
  | cons doc docs ih =>
    cases hm : matches? filter doc with
    | error cause => rw [sweep, hm]
    | ok hit =>
      rw [sweep_cons_of_ok hm, List.filter_cons, hits_of_ok hm]
      cases hit with
      | true => exact ih
      | false => simp [hits_of_ok hm, ih]

/-! ## Reads -/

theorem selectMatching_of_answers {filter : Object} {docs : List Object}
    (h : Answers filter docs) : selectMatching filter docs = .ok (docs.filter (hits filter)) := by
  induction docs with
  | nil => rfl
  | cons doc docs ih =>
    obtain ⟨⟨hit, hm⟩, hdocs⟩ := List.forall_mem_cons.1 h
    unfold selectMatching
    simp only [hm, ih hdocs, List.filter_cons, hits_of_ok hm]

/-- A selection that succeeds has met no fault. -/
theorem answers_of_selectMatching {filter : Object} {docs found : List Object}
    (h : selectMatching filter docs = .ok found) : Answers filter docs := by
  induction docs generalizing found with
  | nil => exact nofun
  | cons doc docs ih =>
    unfold selectMatching at h
    cases hm : matches? filter doc with
    | error cause => simp [hm] at h
    | ok hit =>
      cases hr : selectMatching filter docs with
      | error cause => simp [hm, hr] at h
      | ok rest => exact List.forall_mem_cons.2 ⟨⟨hit, hm⟩, ih hr⟩

theorem find_of_answers {e : Engine} {coll : String} {q : Query}
    (h : Answers q.filter (e.documents coll)) :
    e.find coll q
      = .ok (slice q.skip q.limit (sorted q.sort ((e.documents coll).filter (hits q.filter)))) := by
  unfold find
  rw [selectMatching_of_answers h]

theorem answers_of_find {e : Engine} {coll : String} {q : Query} {docs : List Object}
    (h : e.find coll q = .ok docs) : Answers q.filter (e.documents coll) := by
  unfold find at h
  cases hs : selectMatching q.filter (e.documents coll) with
  | error cause => simp [hs] at h
  | ok found => exact answers_of_selectMatching hs

end Engine

end DocStore
