import DocStore.Proofs.Representation

/-!
A store is a keyed store to those who go by identifiers.

Every call by identifier gives the answer that the keyed store gives, and leaves an engine
that represents the keyed store after the call.

    s.Serves k → Agree (s.call c) (k.call c)                 (Serves.call)
    a store whose connection is up serves a keyed store, through every run of calls
                                                             (run_refines)
-/

namespace DocStore

open Json (Object)

/-! ## Answers -/

/-- A record shows a row: the text of its identifier, and its object up to the order of
keys. -/
def Record.Shows (rec : Record) (r : Row) : Prop :=
  rec.id = r.id.hex ∧ rec.object.Perm r.object.fields

theorem Holds.ofDocument {doc : Object} {r : Row} (h : Holds doc r) :
    ∃ rec, Record.ofDocument doc = .ok rec ∧ rec.Shows r := by
  refine ⟨⟨r.id.hex, Object.erase doc idField⟩, ?_, rfl, h.erase_perm⟩
  have htext : Record.idText r.id.toJson = r.id.hex := by
    unfold Record.idText
    rw [Identifier.ofJson_toJson]
  unfold Record.ofDocument
  rw [h.get?_id, ← htext]
  rfl

theorem recordOf_holds {doc : Option Object} {r : Option Row} (h : Option.Rel Holds doc r) :
    ∃ rec, Store.recordOf doc = .ok rec ∧ Option.Rel Record.Shows rec r := by
  cases h with
  | none => exact ⟨none, rfl, .none⟩
  | some hd =>
    obtain ⟨rec, hrec, hshows⟩ := hd.ofDocument
    refine ⟨some rec, ?_, .some hshows⟩
    show Except.map some (Record.ofDocument _) = _
    rw [hrec]
    rfl

inductive Answer.Agrees : Answer Record → Answer Row → Prop where
  | inserted (id : String) : Agrees (.inserted id) (.inserted id)
  | found {rec : Option Record} {r : Option Row} (h : Option.Rel Record.Shows rec r) :
      Agrees (.found rec) (.found r)
  | done : Agrees .done .done
  | failed (cause : StoreError) : Agrees (.failed cause) (.failed cause)

/-- The answer that a result comes to. -/
def Answer.ofResult {α ρ : Type} (f : α → Answer ρ) : Except StoreError α → Answer ρ
  | .ok a => f a
  | .error cause => .failed cause

/-! ## Stores and keyed stores -/

namespace Store

theorem prepared_of_value {doc : Object} {v : Json} (h : doc.get? idField = some v)
    (hv : v.isNull = false) :
    prepared doc = (readIdJson v).map fun id => doc.insert idField id.toJson := by
  unfold prepared
  rw [h]
  cases v with
  | null => cases hv
  | _ => rfl

/-- The store writes down the identifier that a document is to stand under, as the engine
reads it, or fails where there is none. -/
theorem prepared_cases (fresh : Identifier) (doc : Document) :
    (∃ cause, doc.idOr fresh = .error cause ∧
      prepared doc.fields = .error (.invalidIdentifier cause.message)) ∨
    ∃ id p, doc.idOr fresh = .ok id ∧ prepared doc.fields = .ok p ∧
      Engine.idFor fresh p = .ok id ∧ Object.Distinct p ∧
      ∀ key, key ≠ idField → Object.get? p key = doc.fields.get? key := by
  unfold Document.idOr
  cases hv : doc.fields.get? idField with
  | none =>
    refine .inr ⟨fresh, doc.fields, rfl, ?_, ?_, doc.distinct, fun _ _ => rfl⟩
    · unfold prepared
      rw [hv]
    · unfold Engine.idFor
      rw [hv]
  | some v =>
    cases hnull : v.isNull with
    | true =>
      cases v with
      | null =>
        have hgone : (doc.fields.erase idField).get? idField = none := by
          rw [Json.Object.get?_erase doc.distinct, if_pos rfl]
        refine .inr ⟨fresh, doc.fields.erase idField, if_pos rfl, ?_, ?_,
          doc.distinct.erase idField, fun key hk => ?_⟩
        · unfold prepared
          rw [hv]
        · unfold Engine.idFor
          rw [hgone]
        · rw [Json.Object.get?_erase doc.distinct, if_neg hk]
      | _ => cases hnull
    | false =>
      have hprep := prepared_of_value hv hnull
      unfold readIdJson at hprep
      cases hid : Identifier.ofJson v with
      | error cause =>
        rw [hid] at hprep
        exact .inl ⟨cause, by simp [hnull, hid], hprep⟩
      | ok id =>
        rw [hid] at hprep
        refine .inr ⟨id, doc.fields.insert idField id.toJson, by simp [hnull, hid], hprep, ?_,
          doc.distinct.insert _ _, fun key hk => ?_⟩
        · unfold Engine.idFor
          rw [Json.Object.get?_insert, if_pos rfl]
          exact id.ofJson_toJson
        · rw [Json.Object.get?_insert, if_neg hk]

def call (s : Store) : ById → Answer Record × Store
  | .insert coll fresh doc =>
    (s.insert coll fresh doc.fields).map (.ofResult .inserted) id
  | .findById coll text => (s.findById coll text).map (.ofResult .found) id
  | .replaceById coll text object =>
    (s.replaceById coll text object.fields).map (.ofResult fun _ => .done) id
  | .updateById coll text candidate touched =>
    (s.updateById coll text candidate.fields touched).map (.ofResult fun _ => .done) id
  | .removeById coll text => (s.removeById coll text).map (.ofResult fun _ => .done) id

/-- The connection is up, or comes up at the first call, and its engine represents the
keyed store. -/
structure Serves (s : Store) (k : KeyedStore) : Prop where
  up : s.bringUp.connection = .up
  represents : s.bringUp.engine.Represents k

/-- Two steps agree: in the answers, and in the states after them. -/
structure Agree (p : Answer Record × Store) (q : Answer Row × KeyedStore) : Prop where
  answers : p.1.Agrees q.1
  states : p.2.Serves q.2

namespace Serves

variable {s : Store} {k : KeyedStore}

theorem onEngine (h : s.Serves k) {α : Type} {f : Engine → Except StoreError α × Engine}
    {g : α → Answer Record} {q : Answer Row × KeyedStore}
    (ha : (Answer.ofResult g (f s.bringUp.engine).1).Agrees q.1)
    (he : (f s.bringUp.engine).2.Represents q.2) :
    Agree ((s.onEngine f).map (.ofResult g) id) q := by
  unfold Store.onEngine
  simp only [h.up]
  refine ⟨ha, rfl, ?_⟩
  show (f s.bringUp.engine).2.Represents q.2
  exact he

theorem findById (h : s.Serves k) (coll text : String) :
    Agree (s.call (.findById coll text)) (k.findById coll text) := by
  show Agree ((s.findById coll text).map (.ofResult .found) id) _
  unfold Store.findById Store.ask KeyedStore.findById readId
  cases Identifier.ofText text with
  | error cause => exact h.onEngine (.failed _) h.represents
  | ok id =>
    obtain ⟨doc, hdoc, hrow⟩ := h.represents.findOne coll id
    obtain ⟨rec, hrec, hshows⟩ := recordOf_holds hrow
    refine h.onEngine ?_ h.represents
    show (Answer.ofResult .found
      (answer (s.bringUp.engine.findOne coll { filter := idFilter id }) >>= recordOf)).Agrees _
    rw [hdoc]
    show (Answer.ofResult .found (recordOf doc)).Agrees _
    rw [hrec]
    exact .found hshows

/-- The calls that change the object under an identifier. -/
theorem onId (h : s.Serves k) {coll text : String}
    {f : Engine → Object → Except Engine.Fault Nat × Engine} {g : Document → Option Document}
    (hf : ∀ id, ∃ n e', f s.bringUp.engine (idFilter id) = (.ok n, e') ∧
      e'.Represents (k.put coll ((k.table coll).change id g))) :
    Agree ((s.onId text f).map (.ofResult fun _ => .done) id) (k.onId coll text g) := by
  unfold Store.onId KeyedStore.onId readId
  cases Identifier.ofText text with
  | error cause => exact h.onEngine (.failed _) h.represents
  | ok id =>
    obtain ⟨n, e', hstep, he'⟩ := hf id
    refine h.onEngine ?_ ?_
    · simp only [hstep]
      exact .done
    · simp only [hstep]
      exact he'

theorem replaceById (h : s.Serves k) (coll text : String) (object : Document) :
    Agree (s.call (.replaceById coll text object)) (k.call (.replaceById coll text object)) := by
  unfold call Store.replaceById KeyedStore.call
  refine h.onId fun id => h.represents.changeFields coll id fun doc r hd => ?_
  refine ⟨object.distinct.erase idField, fun key => ?_⟩
  rw [Document.get?_without, Json.Object.get?_erase object.distinct]
  by_cases hk : key = idField
  · rw [if_pos hk, if_pos hk]
  · rw [if_neg hk, if_neg hk]

theorem updateById (h : s.Serves k) (coll text : String) (candidate : Document)
    (touched : List String) :
    Agree (s.call (.updateById coll text candidate touched))
      (k.call (.updateById coll text candidate touched)) := by
  unfold call Store.updateById KeyedStore.call
  refine h.onId fun id => ?_
  cases hempty : (Update.ofTouched candidate.fields touched).isEmpty with
  | true =>
    have hkept : (fun o : Document => some (o.overwrite candidate touched)) = some := by
      funext o
      rw [o.overwrite_of_untouched candidate (Update.isTouched_of_isEmpty hempty)]
    refine ⟨0, s.bringUp.engine, by simp only [hempty]; rfl, ?_⟩
    rw [hkept, Table.change_some, KeyedStore.put_table]
    exact h.represents
  | false =>
    simp only [hempty]
    refine h.represents.changeFields coll id fun doc r hd => ?_
    refine ⟨Update.distinct_apply _ hd.distinct, fun key => ?_⟩
    rw [Document.get?_overwrite, Update.get?_apply_ofTouched _ _ hd.distinct, hd.get?_eq]
    by_cases hk : key = idField
    · rw [if_pos hk, hk, isTouched_idField, hd.get?_object]
      rfl
    · rw [if_neg hk, if_neg hk]

theorem removeById (h : s.Serves k) (coll text : String) :
    Agree (s.call (.removeById coll text)) (k.call (.removeById coll text)) := by
  unfold call Store.removeById KeyedStore.call
  refine h.onId fun id => h.represents.changeOne coll id fun doc r hd hid => ?_
  have hgone : r.change id (fun _ => none) = none := if_pos hid
  rw [hgone]
  exact .none

theorem insert (h : s.Serves k) (coll : String) (fresh : Identifier) (doc : Document) :
    Agree (s.call (.insert coll fresh doc)) (k.insert coll fresh doc) := by
  show Agree ((s.insert coll fresh doc.fields).map (.ofResult .inserted) id) _
  unfold Store.insert KeyedStore.insert
  rcases prepared_cases fresh doc with
    ⟨cause, hid, hprep⟩ | ⟨id, p, hid, hprep, hfor, hp, hkeys⟩
  · simp only [hid, hprep]
    exact h.onEngine (.failed _) h.represents
  · simp only [hid, hprep]
    have hnone : (doc.without idField).fields.get? idField = none := by
      rw [Document.get?_without, if_pos rfl]
    have hrest : ∀ key, key ≠ idField → p.get? key = (doc.without idField).fields.get? key := by
      intro key hk
      rw [hkeys key hk, Document.get?_without, if_neg hk]
    rcases h.represents.insertOne coll hfor hp hnone hrest with
      ⟨hm, hstep⟩ | ⟨t, e', ht, hstep, he'⟩
    · have htaken : (k.table coll).append? ⟨id, doc.without idField⟩ = none := dif_pos hm
      simp only [htaken]
      refine h.onEngine ?_ ?_
      · simp only [hstep, h.represents.database]
        exact .failed _
      · simp only [hstep]
        exact h.represents
    · simp only [ht]
      refine h.onEngine ?_ ?_
      · simp only [hstep]
        exact .inserted id.hex
      · simp only [hstep]
        exact he'

/-- A call by identifier does to the store what it does to the keyed store. -/
theorem call (h : s.Serves k) (c : ById) : Agree (s.call c) (k.call c) := by
  cases c with
  | insert coll fresh doc => exact h.insert coll fresh doc
  | findById coll text => exact h.findById coll text
  | replaceById coll text object => exact h.replaceById coll text object
  | updateById coll text candidate touched => exact h.updateById coll text candidate touched
  | removeById coll text => exact h.removeById coll text

/-- Runs agree call by call, and in the states after them. -/
theorem perform (h : s.Serves k) (calls : List ById) :
    List.Forall₂ Answer.Agrees (DocStore.perform Store.call s calls).1
        (DocStore.perform KeyedStore.call k calls).1 ∧
      (DocStore.perform Store.call s calls).2.Serves
        (DocStore.perform KeyedStore.call k calls).2 := by
  induction calls generalizing s k with
  | nil => exact ⟨.nil, h⟩
  | cons c calls ih =>
    have hstep := h.call c
    obtain ⟨has, hserves⟩ := ih hstep.states
    exact ⟨.cons hstep.answers has, hserves⟩

end Serves

/-- Over a connection that is up, or comes up at the first call, and an engine that some
writes made, a store serves a keyed store; and every run of calls by identifier gives the
answers of a keyed store it serves, and leaves a store that serves the one after them. -/
theorem run_refines (s : Store) (hup : s.bringUp.connection = .up)
    (hreach : s.bringUp.engine.Reachable) :
    (∃ k, s.Serves k) ∧
    ∀ k, s.Serves k → ∀ calls,
      List.Forall₂ Answer.Agrees (perform call s calls).1 (perform KeyedStore.call k calls).1 ∧
        (perform call s calls).2.Serves (perform KeyedStore.call k calls).2 := by
  constructor
  · obtain ⟨database, calls, he⟩ := hreach
    obtain ⟨k, hk⟩ := (Engine.sound_run database calls).exists_represents
    exact ⟨k, hup, he ▸ hk⟩
  · exact fun k h calls => h.perform calls

/-- A write that leaves a document in an engine. -/
def firstWrite : Engine.Call :=
  .insertOne "users" (Identifier.Source.take ⟨0, 0⟩).1
    ⟨[("name", .str "x")], List.pairwise_singleton _ _⟩

/-- A store that has come up over an engine with a document. -/
def connected : Store :=
  (inMemory "app" {}).settleUp (Engine.run { database := "app" } [firstWrite])

theorem run_refines_connected :
    connected.bringUp.connection = .up ∧ connected.bringUp.engine.Reachable ∧
      ∃ k, connected.Serves k ∧ ∀ calls,
        List.Forall₂ Answer.Agrees (perform call connected calls).1
            (perform KeyedStore.call k calls).1 ∧
          (perform call connected calls).2.Serves (perform KeyedStore.call k calls).2 := by
  have hup : connected.bringUp.connection = .up := rfl
  have hreach : connected.bringUp.engine.Reachable := ⟨"app", [firstWrite], rfl⟩
  obtain ⟨⟨k, hk⟩, hrun⟩ := run_refines connected hup hreach
  exact ⟨hup, hreach, k, hk, hrun k hk⟩

end Store

end DocStore
