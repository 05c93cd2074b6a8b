import DocStore.Proofs.Session

/-!
Failures that change nothing.

An operation is guarded when the engine it returns with a fault is the engine it was given
(`Guarded`).  Insertions and index definitions make their collection before they can still
fail; they are guarded because what they can then fail of is in the collection already:

    (e.ensure coll).documents = e.documents                  (documents_ensure)
    insertOne is a test and a write on e.ensure coll         (insertOne_eq_ensure)
    createIndex likewise                                     (createIndex_eq_ensure)

So is every operation of a store but the sweeps, which keep what they have taken out:

    (s.handle r).1 = .error cause → (s.handle r).2.engine = s.engine
                                                             (failed_requests_keep_engine)
-/

namespace DocStore

open Json (Object)

namespace Engine

/-! ## Collections on demand -/

/-- The engine with a collection of that name, an empty one where there was none. -/
def ensure (e : Engine) (name : String) : Engine :=
  match e.collection? name with
  | some _ => e
  | none => e.put name {}

theorem ensure_of_some {e : Engine} {name : String} {c : Collection}
    (h : e.collection? name = some c) : e.ensure name = e := by
  unfold ensure
  rw [h]

theorem collection?_ensure (e : Engine) (name : String) :
    (e.ensure name).collection? name = some ((e.collection? name).getD {}) := by
  unfold ensure
  split
  · next c h => rw [h, Option.getD_some]
  · next h => rw [collection?_put, if_pos rfl, h, Option.getD_none]

theorem documents_ensure (e : Engine) (name : String) :
    (e.ensure name).documents name = e.documents name := by
  rw [documents_of_collection? (e.collection?_ensure name), documents_getD]

theorem writeTo_writeTo (name : String) (c c' : Collection) (cs : List (String × Collection)) :
    writeTo name c' (writeTo name c cs) = writeTo name c' cs := by
  induction cs with
  | nil => simp [writeTo]
  | cons d rest ih =>
    obtain ⟨n, d⟩ := d
    by_cases h : n = name
    · simp [writeTo, h]
    · simp [writeTo, h, ih]

theorem put_ensure (e : Engine) (name : String) (c : Collection) :
    (e.ensure name).put name c = e.put name c := by
  unfold ensure
  split
  · rfl
  · exact congrArg (Engine.mk e.database) (writeTo_writeTo name {} c e.collections)

/-- A document that has the identifier stands in a collection that is there. -/
theorem ensure_of_any {e : Engine} {name : String} {test : Object → Bool}
    (h : (e.documents name).any test = true) : e.ensure name = e := by
  cases hc : e.collection? name with
  | some c => exact ensure_of_some hc
  | none =>
    unfold documents at h
    rw [hc] at h
    cases h

theorem insertOne_eq_ensure (e : Engine) (coll : String) (fresh : Identifier) (doc : Object) :
    e.insertOne coll fresh doc =
      match idFor fresh doc with
      | .error cause => (.error (.identifier cause), e)
      | .ok id =>
        let e := e.ensure coll
        if (e.documents coll).any (hasId id) then (.error (.duplicate e.database coll id), e)
        else
          (.ok id, e.put coll
            { (e.collection? coll).getD {} with
              documents := e.documents coll ++ [stored id doc] }) := by
  cases hid : idFor fresh doc with
  | error cause =>
    unfold insertOne
    rw [hid]
  | ok id =>
    rw [insertOne_of_idFor hid]
    simp only [documents_ensure, put_ensure, collection?_ensure, Option.getD_some]
    split
    · next hany => rw [ensure_of_any hany]
    · rfl

theorem createIndex_eq_ensure (e : Engine) (coll index : String) (keys : Object) :
    e.createIndex coll index keys =
      if keys.isEmpty then (.error (.indexNoKeys index), e)
      else
        let e := e.ensure coll
        let c := (e.collection? coll).getD {}
        match c.indexes.lookup index with
        | some existing =>
          if (Json.obj existing).same (.obj keys) then (.ok (), e)
          else (.error (.indexDiffers index), e)
        | none => (.ok (), e.put coll { c with indexes := c.indexes ++ [(index, keys)] }) := by
  unfold createIndex
  split
  · rfl
  · simp only [put_ensure, collection?_ensure, Option.getD_some]
    cases hl : ((e.collection? coll).getD {}).indexes.lookup index with
    | none => rfl
    | some existing =>
      -- a collection with an index is there already
      cases hc : e.collection? coll with
      | some c => simp only [ensure_of_some hc]
      | none =>
        rw [hc] at hl
        cases hl

/-! ## Guarded operations -/

/-- A fault leaves the engine as it was. -/
def Guarded {ε α : Type} (f : Engine → Except ε α × Engine) : Prop :=
  ∀ e cause, (f e).1 = .error cause → (f e).2 = e

section Guarded

variable {ε ε' α β : Type}

/-- What becomes of the answer does not matter, if a success stays one. -/
theorem Guarded.post {f : Engine → Except ε α × Engine} (h : Guarded f)
    {g : Except ε α → Except ε' β} (hg : ∀ a, ∃ b, g (.ok a) = .ok b) :
    Guarded fun e => (g (f e).1, (f e).2) := by
  intro e cause he
  cases hf : (f e).1 with
  | error c => exact h e c hf
  | ok a =>
    obtain ⟨b, hb⟩ := hg a
    simp only [hf, hb] at he
    cases he

theorem guarded_insertOne (coll : String) (fresh : Identifier) (doc : Object) :
    Guarded fun e => e.insertOne coll fresh doc := by
  intro e cause h
  simp only [insertOne_eq_ensure] at h ⊢
  cases hid : idFor fresh doc with
  | error cause => rfl
  | ok id =>
    simp only [hid] at h ⊢
    by_cases hany : ((e.ensure coll).documents coll).any (hasId id) = true
    · -- the duplicate shows that the collection was there
      rw [if_pos hany]
      rw [documents_ensure] at hany
      exact ensure_of_any hany
    · rw [if_neg hany] at h
      cases h

theorem guarded_changeOne (coll : String) (filter : Object) (change : Object → Option Object) :
    Guarded fun e => e.changeOne coll filter change := by
  intro e cause h
  simp only [changeOne] at h ⊢
  split
  · rfl
  · next c hc =>
    cases hf : changeFirst filter change c.documents with
    | error cause => simp only
    | ok r =>
      simp only [hc, hf] at h
      cases h

theorem guarded_createIndex (coll index : String) (keys : Object) :
    Guarded fun e => e.createIndex coll index keys := by
  intro e cause h
  simp only [createIndex_eq_ensure] at h ⊢
  split
  · rfl
  · next hkeys =>
    rw [if_neg hkeys] at h
    cases hc : e.collection? coll with
    | some c =>
      simp only [ensure_of_some hc, hc, Option.getD_some] at h ⊢
      cases hl : c.indexes.lookup index with
      | some existing =>
        simp only
        split <;> rfl
      | none =>
        rw [hl] at h
        cases h
    | none =>
      -- a collection that was just made has no index to differ from
      simp only [collection?_ensure, hc, Option.getD_none] at h
      cases h

end Guarded

/-- Writes that keep part of their effect when they fail. -/
def Call.sweeps : Call → Bool
  | .deleteMany _ _ => true
  | _ => false

theorem guarded_respond {call : Call} (h : call.sweeps = false) :
    Guarded fun e => e.respond call := by
  cases call with
  | insertOne coll fresh doc => exact (guarded_insertOne _ _ _).post fun a => ⟨(), rfl⟩
  | replaceOne coll filter replacement =>
    exact (guarded_changeOne _ _ _).post fun a => ⟨(), rfl⟩
  | updateOne coll filter u => exact (guarded_changeOne _ _ _).post fun a => ⟨(), rfl⟩
  | deleteOne coll filter => exact (guarded_changeOne _ _ _).post fun a => ⟨(), rfl⟩
  | deleteMany coll filter => cases h
  | createIndex coll index keys => exact guarded_createIndex coll index keys

end Engine

namespace Store

open Engine (Guarded)

/-! ## Requests -/

/-- Requests that keep part of their effect when they fail. -/
def Request.sweeps : Request → Bool
  | .remove _ _ | .rawDeleteMany _ _ => true
  | .write call => call.sweeps
  | _ => false

theorem onEngine_keeps {α : Type} {s : Store} {f : Engine → Except StoreError α × Engine}
    (hf : Guarded f) {cause : StoreError} (h : (s.onEngine f).1 = .error cause) :
    (s.onEngine f).2.engine = s.bringUp.engine := by
  rcases s.onEngine_cases f with ⟨_, hs⟩ | hs
  · rw [hs]
  · rw [hs] at h ⊢
    exact hf s.bringUp.engine cause h

theorem error_of_reply {α : Type} {f : α → Reply} {p : Except StoreError α × Store}
    {cause : StoreError} (h : (reply f p).1 = .error cause) : p.1 = .error cause := by
  obtain ⟨r, s⟩ := p
  cases r with
  | error c =>
    cases h
    rfl
  | ok a => cases h

theorem guarded_onId {f : Engine → Object → Except Engine.Fault Nat × Engine}
    (hf : ∀ filter, Guarded fun e => f e filter) {s : Store} {id : String} {cause : StoreError}
    (h : (s.onId id f).1 = .error cause) : (s.onId id f).2.engine = s.bringUp.engine := by
  refine onEngine_keeps ?_ h
  cases readId id with
  | error c => exact fun _ _ _ => rfl
  | ok id =>
    exact (hf (idFilter id)).post (g := fun n => (answer n).map fun _ => ()) fun _ => ⟨(), rfl⟩

theorem handle_keeps {s : Store} {r : Request} (hr : r.sweeps = false) {cause : StoreError}
    (h : (s.handle r).1 = .error cause) : (s.handle r).2.engine = s.bringUp.engine := by
  cases r with
  | insert coll fresh doc =>
    refine onEngine_keeps ?_ (error_of_reply h)
    cases prepared doc.fields with
    | error c => exact fun _ _ _ => rfl
    | ok p =>
      exact (Engine.guarded_insertOne coll fresh p).post (g := fun id => (answer id).map (·.hex))
        fun id => ⟨id.hex, rfl⟩
  | removeById coll id =>
    exact guarded_onId (fun _ => Engine.guarded_changeOne _ _ _) (error_of_reply h)
  | replaceById coll id object =>
    exact guarded_onId (fun _ => Engine.guarded_changeOne _ _ _) (error_of_reply h)
  | updateById coll id candidate touched =>
    refine guarded_onId (fun filter => ?_) (error_of_reply h)
    simp only
    split
    · exact fun _ _ _ => rfl
    · exact Engine.guarded_changeOne _ _ _
  | remove coll ps | rawDeleteMany coll ps => cases hr
  | createIndex coll name keys => cases h
  | write call =>
    exact onEngine_keeps ((Engine.guarded_respond hr).post (g := answer) fun a => ⟨a, rfl⟩)
      (error_of_reply h)
  | _ => exact s.ask_engine _

/-- A request of a store that fails leaves its engine as it was, and so does a write to an
engine that fails, unless they sweep. -/
theorem failed_requests_keep_engine :
    (∀ s : Store, s.Reachable → ∀ r : Request, r.sweeps = false →
      ∀ cause, (s.handle r).1 = .error cause → (s.handle r).2.engine = s.engine) ∧
    ∀ (e : Engine) (call : Engine.Call), call.sweeps = false →
      ∀ cause, (e.respond call).1 = .error cause → (e.respond call).2 = e := by
  constructor
  · intro s hs r hr cause h
    rw [handle_keeps hr h, hs.coherent.bringUp_engine]
  · intro e call hcall cause h
    exact Engine.guarded_respond hcall e cause h

/-- A replacement whose filter passes over the first book and is at fault for the second. -/
def faultyReplacement : Engine.Call :=
  .replaceOne "books" [("tags", .obj [("$elemMatch", .null)])] ⟨[], .nil⟩

theorem failed_requests_keep_engine_books :
    (books.respond faultyReplacement).1 = .error (.filter .elementNoDocument) ∧
    (books.respond faultyReplacement).2 = books ∧
    (serving books).Reachable ∧
    (∃ cause, ((serving books).handle (.write faultyReplacement)).1 = .error cause) ∧
    ((serving books).handle (.write faultyReplacement)).2.engine = (serving books).engine := by
  have hfault : (books.respond faultyReplacement).1 = .error (.filter .elementNoDocument) := rfl
  have hs : (serving books).Reachable := reachable_serving reachable_books
  have he : (serving books).bringUp.engine = books := hs.coherent.bringUp_engine
  have hr : ((serving books).handle (.write faultyReplacement)).1
      = .error (Engine.Fault.filter .elementNoDocument).toStoreError := by
    rw [handle_write (serving_up books), he, hfault]
    rfl
  exact ⟨hfault, failed_requests_keep_engine.2 books faultyReplacement rfl _ hfault, hs, ⟨_, hr⟩,
    failed_requests_keep_engine.1 _ hs _ rfl _ hr⟩

end Store

end DocStore
