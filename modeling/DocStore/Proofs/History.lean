import DocStore.Engine
import DocStore.Proofs.Document

/-!
Histories of an engine: the writes that callers can ask for, in any order and with any
arguments, from the empty engine on (`Engine.Call`, `Engine.run`).

What single writes do to a list of documents is said here once:

    insertOne      fails and changes nothing, or appends one document   (insertOne_cases)
    changeFirst    keeps the list, or changes one document of it        (changeFirst_cases)
    sweep          takes documents out                                  (sweep_sublist)
-/

namespace DocStore

open Json (Object)

namespace Engine

/-! ## Writes and runs -/

inductive Call where
  | insertOne (coll : String) (fresh : Identifier) (doc : Document)
  | replaceOne (coll : String) (filter : Object) (replacement : Document)
  | updateOne (coll : String) (filter : Object) (u : Update)
  | deleteOne (coll : String) (filter : Object)
  | deleteMany (coll : String) (filter : Object)
  | createIndex (coll index : String) (keys : Object)

/-- The engine after a write, whether the write succeeded or not. -/
def after (e : Engine) : Call → Engine
  | .insertOne coll fresh doc => (e.insertOne coll fresh doc.fields).2
  | .replaceOne coll filter replacement => (e.replaceOne coll filter replacement.fields).2
  | .updateOne coll filter u => (e.updateOne coll filter u).2
  | .deleteOne coll filter => (e.deleteOne coll filter).2
  | .deleteMany coll filter => (e.deleteMany coll filter).2
  | .createIndex coll index keys => (e.createIndex coll index keys).2

def run (e : Engine) (calls : List Call) : Engine :=
  calls.foldl after e

/-- The engines that some writes make of an empty one. -/
def Reachable (e : Engine) : Prop :=
  ∃ (database : String) (calls : List Call), e = run { database } calls

/-- What every write keeps holds after every run. -/
theorem run_induction {P : Engine → Prop} (hstep : ∀ e call, P e → P (e.after call)) :
    ∀ (calls : List Call) (e : Engine), P e → P (e.run calls) := by
  intro calls
  induction calls with
  | nil => exact fun _ h => h
  | cons call calls ih => exact fun e h => ih (e.after call) (hstep e call h)

/-! ## Collections -/

theorem mem_writeTo {name : String} {c : Collection} {cs : List (String × Collection)}
    {nc : String × Collection} (h : nc ∈ writeTo name c cs) : nc = (name, c) ∨ nc ∈ cs := by
  induction cs with
  | nil => exact .inl (List.mem_singleton.1 h)
  | cons d rest ih =>
    obtain ⟨n, d⟩ := d
    unfold writeTo at h
    split at h
    · next hn =>
      subst hn
      rcases List.mem_cons.1 h with h | h
      · exact .inl h
      · exact .inr (List.mem_cons_of_mem _ h)
    · rcases List.mem_cons.1 h with h | h
      · exact .inr (h ▸ List.mem_cons_self)
      · exact (ih h).imp id (List.mem_cons_of_mem _)

theorem mem_of_collection? {e : Engine} {name : String} {c : Collection}
    (h : e.collection? name = some c) : (name, c) ∈ e.collections := by
  obtain ⟨before, rest, hcs, -⟩ := List.lookup_eq_some_iff.1 h
  rw [hcs]
  exact List.mem_append_right _ List.mem_cons_self

theorem documents_of_collection? {e : Engine} {name : String} {c : Collection}
    (h : e.collection? name = some c) : e.documents name = c.documents := by
  unfold documents
  rw [h]
  rfl

theorem documents_getD (e : Engine) (name : String) :
    ((e.collection? name).getD {}).documents = e.documents name := by
  unfold documents
  cases e.collection? name <;> rfl

theorem documents_put (e : Engine) (name : String) (c : Collection) (name' : String) :
    (e.put name c).documents name' = if name' = name then c.documents else e.documents name' := by
  unfold documents
  rw [collection?_put]
  split <;> rfl

/-! ## What single writes do -/

/-- The document that an insertion stores. -/
def stored (id : Identifier) (doc : Object) : Object :=
  doc.insert idField id.toJson

theorem insertOne_of_idFor {fresh id : Identifier} {doc : Object} (h : idFor fresh doc = .ok id)
    (e : Engine) (coll : String) :
    e.insertOne coll fresh doc =
      if (e.documents coll).any (hasId id) then (.error (.duplicate e.database coll id), e)
      else
        (.ok id, e.put coll
          { (e.collection? coll).getD {} with
            documents := e.documents coll ++ [stored id doc] }) := by
  unfold insertOne
  rw [h, ← documents_getD]
  rfl

theorem insertOne_cases (e : Engine) (coll : String) (fresh : Identifier) (doc : Object) :
    (∃ f, e.insertOne coll fresh doc = (.error f, e)) ∨
    ∃ id c, idFor fresh doc = .ok id ∧ c.documents = e.documents coll ++ [stored id doc] ∧
      (∀ d ∈ e.documents coll, hasId id d = false) ∧
      e.insertOne coll fresh doc = (.ok id, e.put coll c) := by
  cases hid : idFor fresh doc with
  | error cause =>
    refine .inl ⟨.identifier cause, ?_⟩
    unfold insertOne
    rw [hid]
  | ok id =>
    rw [insertOne_of_idFor hid]
    cases hany : (e.documents coll).any (hasId id) with
    | true => exact .inl ⟨_, rfl⟩
    | false =>
      refine .inr ⟨id, _, rfl, ?_, ?_, rfl⟩
      · rfl
      · intro d hd
        exact Bool.eq_false_iff.2 (List.any_eq_false.1 hany d hd)

/-- A change reaches the first document that matches, if no document before it is at
fault. -/
theorem changeFirst_cases {filter : Object} {change : Object → Option Object}
    {docs after : List Object} {n : Nat} (h : changeFirst filter change docs = .ok (n, after)) :
    (n = 0 ∧ after = docs ∧ ∀ d ∈ docs, Filter.matches? filter d = .ok false) ∨
    ∃ before doc rest, docs = before ++ doc :: rest ∧
      (∀ d ∈ before, Filter.matches? filter d = .ok false) ∧
      Filter.matches? filter doc = .ok true ∧ n = 1 ∧
      after = before ++ ((change doc).toList ++ rest) := by
  induction docs generalizing n after with
  | nil =>
    cases h
    exact .inl ⟨rfl, rfl, nofun⟩
  | cons doc docs ih =>
    unfold changeFirst at h
    split at h
    · cases h
    · next hm =>
      cases h
      exact .inr ⟨[], doc, docs, rfl, nofun, hm, rfl, rfl⟩
    · next hm =>
      split at h
      · cases h
      · next m left hr =>
        cases h
        rcases ih hr with ⟨rfl, rfl, hall⟩ | ⟨before, d, rest, rfl, hbefore, hd, rfl, rfl⟩
        · exact .inl ⟨rfl, rfl, List.forall_mem_cons.2 ⟨hm, hall⟩⟩
        · exact .inr ⟨doc :: before, d, rest, rfl, List.forall_mem_cons.2 ⟨hm, hbefore⟩, hd, rfl,
            rfl⟩

theorem changeOne_cases (e : Engine) (coll : String) (filter : Object)
    (change : Object → Option Object) :
    (e.changeOne coll filter change).2 = e ∨
    ∃ c n left, e.collection? coll = some c ∧
      changeFirst filter change c.documents = .ok (n, left) ∧
      (e.changeOne coll filter change).2 = e.put coll { c with documents := left } := by
  unfold changeOne
  cases hc : e.collection? coll with
  | none => exact .inl rfl
  | some c =>
    cases hf : changeFirst filter change c.documents with
    | error cause =>
      refine .inl ?_
      simp only [hf]
    | ok r =>
      refine .inr ⟨c, r.1, r.2, rfl, hf, ?_⟩
      simp only [hf]

theorem sweep_sublist (filter : Object) (docs : List Object) :
    (sweep filter docs).2.Sublist docs := by
  induction docs with
  | nil => exact .slnil
  | cons doc docs ih =>
    unfold sweep
    split
    · exact .refl _
    · next hit _ =>
      cases hit with
      | true => exact ih.cons doc
      | false => exact ih.cons_cons doc

theorem createIndex_cases (e : Engine) (coll index : String) (keys : Object) :
    (e.createIndex coll index keys).2 = e ∨
    ∃ c, (e.collection? coll).getD {} = c ∧
      (e.createIndex coll index keys).2
        = e.put coll { c with indexes := c.indexes ++ [(index, keys)] } := by
  unfold createIndex
  split
  · exact .inl rfl
  · cases hl : ((e.collection? coll).getD {}).indexes.lookup index with
    | some existing =>
      refine .inl ?_
      simp only [hl]
      split <;> rfl
    | none =>
      refine .inr ⟨_, rfl, ?_⟩
      simp only [hl]

end Engine

end DocStore
