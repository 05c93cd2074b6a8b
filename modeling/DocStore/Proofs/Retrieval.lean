import DocStore.Proofs.Removal
import DocStore.Proofs.Representation
import DocStore.Proofs.Traffic
import Mathlib.Data.List.Perm.Subperm

/-!
Records that are read, and the documents that they are read from.

A read shows some documents of its collection, none of them twice (`find_subperm`).  In an
engine that is in order, each of these stands under an identifier of its own, so that it has
a record, and the text of that record's identifier leads back to the one document:

    Keyed docs → doc ∈ docs → the filter of its identifier selects doc alone
                                                             (Keyed.filter_hits_self)
    every read shows records of documents, or fails, but never for a document
                                                             (Retrieves.ask)
    what is read can be looked up again                      (records_found_again)
-/

namespace DocStore

open Json (Object)
open DocStore.Filter

/-! ## Documents and their records -/

/-- The text of an identifier: 24 lowercase hexadecimal digits. -/
def IsIdText (text : String) : Prop :=
  text.length = 24 ∧ ∀ c ∈ text.toList, c ∈ "0123456789abcdef".toList

theorem Identifier.isIdText_hex (id : Identifier) : IsIdText id.hex := by
  obtain ⟨text, htext, hlength, hdigits⟩ := id.isWrittenId_toJson
  unfold toJson at htext
  cases htext
  exact ⟨hlength, hdigits⟩

theorem Record.ofDocument_of_id {doc : Object} {id : Identifier}
    (h : doc.get? idField = some id.toJson) :
    ofDocument doc = .ok ⟨id.hex, doc.erase idField⟩ := by
  have htext : idText id.toJson = id.hex := by
    unfold idText
    rw [id.ofJson_toJson]
  unfold ofDocument
  rw [h, ← htext]
  rfl

/-- The records of documents are records of one document each. -/
theorem Record.forall₂_of_ofDocuments {docs : List Object} {rs : List Record}
    (h : ofDocuments docs = .ok rs) :
    List.Forall₂ (fun doc r => ofDocument doc = .ok r) docs rs := by
  induction docs generalizing rs with
  | nil =>
    cases h
    exact .nil
  | cons doc docs ih =>
    unfold ofDocuments at h
    cases hdoc : ofDocument doc with
    | error e => simp [hdoc] at h
    | ok r =>
      cases hdocs : ofDocuments docs with
      | error e => simp [hdoc, hdocs] at h
      | ok rs' =>
        simp only [hdoc, hdocs, Except.ok.injEq] at h
        subst h
        exact .cons hdoc (ih hdocs)

theorem Record.ofDocuments_of_forall₂ {docs : List Object} {rs : List Record}
    (h : List.Forall₂ (fun doc r => ofDocument doc = .ok r) docs rs) :
    ofDocuments docs = .ok rs := by
  induction h with
  | nil => rfl
  | cons hdoc _ ih =>
    unfold ofDocuments
    rw [hdoc, ih]

/-- Of lists that are related member by member, the one has a member with a property exactly when the
other has one with the related property. -/
theorem exists_mem_iff_of_forall₂ {α β : Type} {R : α → β → Prop} {p : α → Prop} {q : β → Prop}
    (hpq : ∀ a b, R a b → (p a ↔ q b)) {as : List α} {bs : List β} (h : List.Forall₂ R as bs) :
    (∃ a ∈ as, p a) ↔ ∃ b ∈ bs, q b := by
  induction h with
  | nil => simp
  | cons hab _ ih => simp only [List.exists_mem_cons_iff, hpq _ _ hab, ih]

/-- The records of documents are the records that a document of them has. -/
theorem Record.mem_iff_of_forall₂ {docs : List Object} {rs : List Record}
    (h : List.Forall₂ (fun doc r => ofDocument doc = .ok r) docs rs) (r : Record) :
    r ∈ rs ↔ ∃ doc ∈ docs, ofDocument doc = .ok r := by
  have hsame : ∀ doc r', ofDocument doc = .ok r' → (ofDocument doc = .ok r ↔ r' = r) := by
    intro doc r' hr'
    rw [hr', Except.ok.injEq]
  rw [exists_mem_iff_of_forall₂ hsame h, exists_eq_right]

namespace Keyed

variable {docs : List Object}

theorem perm {docs' : List Object} (h : Keyed docs) (hp : docs'.Perm docs) : Keyed docs' where
  distinct d hd := h.distinct d (hp.subset hd)
  written d hd := h.written d (hp.subset hd)
  nodup := (hp.map _).nodup_iff.2 h.nodup

theorem subperm {found : List Object} (h : Keyed docs) (hs : found.Subperm docs) :
    Keyed found := by
  obtain ⟨left, hperm, hleft⟩ := hs
  exact (h.sublist hleft).perm hperm.symm

theorem answers_idFilter (h : Keyed docs) (id : Identifier) :
    Answers (Store.idFilter id) docs := by
  intro doc hm
  obtain ⟨id', hid'⟩ := h.written doc hm
  exact ⟨_, Store.matches?_idFilter hid' id⟩

/-- Other documents stand under other identifiers. -/
theorem filter_hits_self (h : Keyed docs) {doc : Object} (hm : doc ∈ docs) {id : Identifier}
    (hid : doc.get? idField = some id.toJson) :
    docs.filter (hits (Store.idFilter id)) = [doc] := by
  obtain ⟨before, rest, rfl⟩ := List.append_of_mem hm
  have hself : hits (Store.idFilter id) doc = true := by
    rw [hits_of_ok (Store.matches?_idFilter hid id), decide_eq_true rfl]
  have hnodup := h.nodup
  unfold ids at hnodup
  rw [List.map_append, List.map_cons, List.nodup_append] at hnodup
  obtain ⟨-, hrest, hbefore⟩ := hnodup
  have hother : ∀ d, d ∈ before ∨ d ∈ rest → ¬ hits (Store.idFilter id) d = true := by
    intro d hd hhit
    have hmem : d ∈ before ++ doc :: rest := by
      rcases hd with hd | hd
      · exact List.mem_append_left _ hd
      · exact List.mem_append_right _ (List.mem_cons_of_mem _ hd)
    obtain ⟨id', hid'⟩ := h.written d hmem
    rw [hits_of_ok (Store.matches?_idFilter hid' id), decide_eq_true_iff] at hhit
    have hsame : d.get? idField = doc.get? idField := by rw [hid', hid, hhit]
    rcases hd with hd | hd
    · exact hbefore _ (List.mem_map_of_mem hd) _ List.mem_cons_self hsame
    · exact (List.nodup_cons.1 hrest).1 (hsame ▸ List.mem_map_of_mem hd)
  rw [List.filter_append, List.filter_cons_of_pos hself,
    List.filter_eq_nil_iff.2 fun d hd => hother d (.inl hd),
    List.filter_eq_nil_iff.2 fun d hd => hother d (.inr hd)]
  rfl

end Keyed

/-! ## Documents that are found -/

namespace Engine

theorem slice_sublist {α : Type} (skip limit : Option UInt64) (xs : List α) :
    (slice skip limit xs).Sublist xs := by
  unfold slice
  have hdrop := List.drop_sublist ((skip.map UInt64.toNat).getD 0) xs
  cases limit with
  | none => exact hdrop
  | some n =>
    simp only
    split
    · exact hdrop
    · exact (List.take_sublist _ _).trans hdrop

theorem sorted_perm (key : Option SortKey) (docs : List Object) : (sorted key docs).Perm docs := by
  cases key with
  | none => exact .refl _
  | some key => exact sortStable_perm _ docs

/-- A search finds documents of the collection, each once. -/
theorem find_subperm {e : Engine} {coll : String} {q : Query} {found : List Object}
    (h : e.find coll q = .ok found) : found.Subperm (e.documents coll) := by
  have hfound := find_of_answers (answers_of_find h)
  rw [h] at hfound
  cases hfound
  have hperm := sorted_perm q.sort ((e.documents coll).filter (hits q.filter))
  exact (slice_sublist _ _ _).subperm.trans
    (hperm.subperm.trans List.filter_sublist.subperm)

theorem findOne_subperm {e : Engine} {coll : String} {q : Query} {doc : Option Object}
    (h : e.findOne coll q = .ok doc) : doc.toList.Subperm (e.documents coll) := by
  unfold findOne at h
  cases hf : e.find coll { q with limit := some 1 } with
  | error cause =>
    rw [hf] at h
    cases h
  | ok found =>
    rw [hf] at h
    cases h
    cases found with
    | nil => exact List.nil_subperm
    | cons doc found =>
      exact List.singleton_subperm_iff.2 ((find_subperm hf).subset List.mem_cons_self)

/-- The identifier of a document leads to it. -/
theorem findOne_self {e : Engine} {coll : String} (h : Keyed (e.documents coll)) {doc : Object}
    (hm : doc ∈ e.documents coll) {id : Identifier} (hid : doc.get? idField = some id.toJson) :
    e.findOne coll { filter := Store.idFilter id } = .ok (some doc) := by
  unfold findOne
  rw [find_of_answers (h.answers_idFilter id), h.filter_hits_self hm hid]
  rfl

end Engine

/-! ## Records that are shown -/

/-- Records of some documents, of each at most one. -/
def Shown (docs : List Object) (rs : List Record) : Prop :=
  ∃ found, found.Subperm docs ∧
    List.Forall₂ (fun doc r => Record.ofDocument doc = .ok r) found rs

/-- A record of a document under an identifier has that identifier, and the other fields. -/
theorem Keyed.record {docs : List Object} (h : Keyed docs) {doc : Object} (hm : doc ∈ docs)
    {r : Record} (hr : Record.ofDocument doc = .ok r) :
    ∃ id : Identifier, doc.get? idField = some id.toJson ∧ r = ⟨id.hex, doc.erase idField⟩ := by
  obtain ⟨id, hid⟩ := h.written doc hm
  rw [Record.ofDocument_of_id hid] at hr
  cases hr
  exact ⟨id, hid, rfl⟩

theorem Keyed.ids_records {found : List Object} (h : Keyed found) {rs : List Record}
    (hrs : List.Forall₂ (fun doc r => Record.ofDocument doc = .ok r) found rs) :
    ids found = (rs.map (·.id)).map fun text => some (.obj [(oidKey, .str text)]) := by
  induction hrs with
  | nil => rfl
  | @cons doc r found rs hr _ ih =>
    obtain ⟨id, hid, rfl⟩ := h.record List.mem_cons_self hr
    show doc.get? idField :: ids found = _
    rw [hid, ih (h.sublist (List.sublist_cons_self doc found))]
    rfl

/-- Of documents that are in order, no two records have the same identifier, and each record is one of
a document. -/
theorem Keyed.shown {docs : List Object} (h : Keyed docs) {rs : List Record}
    (hs : Shown docs rs) :
    (rs.map (·.id)).Nodup ∧
    ∀ r ∈ rs, ∃ doc ∈ docs, ∃ id : Identifier,
      doc.get? idField = some id.toJson ∧ r = ⟨id.hex, doc.erase idField⟩ := by
  obtain ⟨found, hfound, hrs⟩ := hs
  have hkeyed : Keyed found := h.subperm hfound
  refine ⟨?_, fun r hr => ?_⟩
  · have hnodup := hkeyed.nodup
    rw [hkeyed.ids_records hrs] at hnodup
    exact List.Nodup.of_map _ hnodup
  · obtain ⟨doc, hm, hdoc⟩ := (Record.mem_iff_of_forall₂ hrs r).1 hr
    obtain ⟨id, hid, hrecord⟩ := hkeyed.record hm hdoc
    exact ⟨doc, hfound.subset hm, id, hid, hrecord⟩

namespace Store

/-! ## Faults other than a document's -/

/-- No document is to blame for what went wrong. -/
def Blameless {α : Type} (r : Except StoreError α) : Prop :=
  ∀ reason, r ≠ .error (.malformedDocument reason)

theorem blameless_ok {α : Type} (a : α) : Blameless (.ok a : Except StoreError α) := by
  intro reason h
  cases h

theorem Blameless.bind {α β : Type} {x : Except StoreError β} {f : β → Except StoreError α}
    (hx : Blameless x) (hf : ∀ b, x = .ok b → Blameless (f b)) : Blameless (x >>= f) := by
  cases x with
  | error e =>
    intro reason h
    cases h
    exact hx reason rfl
  | ok b => exact hf b rfl

theorem blameless_readId (text : String) : Blameless (readId text) := by
  intro reason h
  unfold readId at h
  split at h <;> cases h

theorem blameless_readIds (texts : List String) : Blameless (texts.mapM readId) := by
  induction texts with
  | nil => exact blameless_ok []
  | cons text texts ih =>
    rw [List.mapM_cons]
    exact (blameless_readId text).bind fun id _ => ih.bind fun ids _ => blameless_ok _

theorem blameless_answer {α : Type} (r : Except Engine.Fault α) : Blameless (answer r) := by
  intro reason h
  unfold answer at h
  split at h
  · cases h
  · next e =>
    rw [Except.error.injEq] at h
    cases e <;> cases h

theorem blameless_fold (index : Nat) (pending : Pending) (c : Cursor)
    (ps : List Predicate) : Blameless (Compile.fold index pending c ps) := by
  induction ps generalizing index pending c with
  | nil => exact blameless_ok c
  | cons p ps ih =>
    unfold Compile.fold
    cases Compile.step pending p ps.head? with
    | error e =>
      intro reason h
      cases h
    | ok r => exact ih _ _ _

theorem blameless_compile (coll : String) (ps : List Predicate) : Blameless (compile coll ps) :=
  blameless_fold 0 {} { collection := coll } ps

theorem of_answer {α : Type} {r : Except Engine.Fault α} {a : α} (h : answer r = .ok a) :
    r = .ok a := by
  unfold answer at h
  split at h
  · cases h
    rfl
  · cases h

theorem bringUp_down {s : Store}
    (hs : ∀ cause, s.connection = .down cause → ∃ reason, cause = .connectionFailure reason)
    (cause : StoreError) (hc : s.bringUp.connection = .down cause) :
    ∃ reason, cause = .connectionFailure reason := by
  by_cases hu : s.connection = .untried
  · rw [bringUp_of_untried hu, attempt_connection] at hc
    cases ho : outcome s.config s.connector with
    | ok engine =>
      rw [ho] at hc
      cases hc
    | error cause' =>
      rw [ho] at hc
      cases hc
      exact outcome_error ho
  · rw [bringUp_of_settled hu] at hc
    exact hs cause hc

/-- A failed bring-up is a failed connection, also when it is looked at later. -/
theorem Reachable.down {s : Store} (h : s.Reachable) {cause : StoreError}
    (hc : s.bringUp.connection = .down cause) : ∃ reason, cause = .connectionFailure reason := by
  obtain ⟨config, connector, console, requests, -, rfl⟩ := h
  refine bringUp_down ?_ cause hc
  refine serve_induction (P := fun s => ∀ cause, s.connection = .down cause →
    ∃ reason, cause = .connectionFailure reason) ?_ requests _ nofun
  intro s r hs cause hc
  rw [s.handle_connection r] at hc
  exact bringUp_down hs cause hc

/-! ## Reads -/

theorem recordOf_of_id {doc : Object} {id : Identifier} (h : doc.get? idField = some id.toJson) :
    recordOf (some doc) = .ok (some ⟨id.hex, doc.erase idField⟩) := by
  show Except.map some (Record.ofDocument doc) = _
  rw [Record.ofDocument_of_id h]
  rfl

/-- An answer of records of documents, or a fault that is no document's. -/
structure Retrieves {α : Type} (docs : List Object) (records : α → List Record)
    (r : Except StoreError α) : Prop where
  blameless : Blameless r
  shown : ∀ a, r = .ok a → Shown docs (records a)

namespace Retrieves

variable {α β : Type} {docs : List Object} {records : α → List Record}

theorem bind {x : Except StoreError β} {f : β → Except StoreError α} (hx : Blameless x)
    (hf : ∀ b, x = .ok b → Retrieves docs records (f b)) : Retrieves docs records (x >>= f) where
  blameless := hx.bind fun b hb => (hf b hb).blameless
  shown a ha := by
    cases x with
    | error e => cases ha
    | ok b => exact (hf b rfl).shown a ha

theorem ofDocuments (h : Keyed docs) {found : List Object} (hs : found.Subperm docs) :
    Retrieves docs id (Record.ofDocuments found) := by
  obtain ⟨rs, hrs⟩ := (h.subperm hs).ofDocuments
  rw [hrs]
  refine ⟨blameless_ok rs, fun _ ha => ?_⟩
  cases ha
  exact ⟨found, hs, Record.forall₂_of_ofDocuments hrs⟩

theorem recordOf (h : Keyed docs) {doc : Option Object} (hs : doc.toList.Subperm docs) :
    Retrieves docs Option.toList (recordOf doc) := by
  cases doc with
  | none =>
    refine ⟨blameless_ok none, fun _ ha => ?_⟩
    cases ha
    exact ⟨[], hs, .nil⟩
  | some doc =>
    obtain ⟨id, hid⟩ := h.written doc (List.singleton_subperm_iff.1 hs)
    rw [recordOf_of_id hid]
    refine ⟨blameless_ok _, fun _ ha => ?_⟩
    cases ha
    exact ⟨[doc], hs, .cons (Record.ofDocument_of_id hid) .nil⟩

theorem ask {s : Store} (hs : s.Reachable) {g : Engine → Except StoreError α}
    (hg : Retrieves docs records (g s.bringUp.engine)) :
    Retrieves docs records (s.ask g).1 := by
  cases hc : s.bringUp.connection with
  | untried => exact absurd hc s.bringUp_settles
  | up =>
    rw [ask_of_up hc]
    exact hg
  | down cause =>
    obtain ⟨reason, rfl⟩ := hs.down hc
    rw [ask_of_down hc]
    exact ⟨nofun, nofun⟩

end Retrieves

/-- The collection of which a request reads records. -/
def Request.readsFrom : Request → Option String
  | .findById coll _ | .findByIds coll _ | .find coll _ | .findOne coll _ => some coll
  | _ => none

/-- The records in a reply. -/
def Reply.recordsRead : Reply → List Record
  | .record r => r.toList
  | .records rs => rs
  | _ => []

/-- A request that reads records asks the engine for them. -/
theorem handle_reads {r : Request} {coll : String} (hr : r.readsFrom = some coll) :
    ∃ (α : Type) (f : α → Reply) (g : Engine → Except StoreError α),
      (∀ s : Store, s.handle r = reply f (s.ask g)) ∧
      ∀ e : Engine, Keyed (e.documents coll) →
        Retrieves (e.documents coll) (fun a => (f a).recordsRead) (g e) := by
  cases r with
  | findById c id =>
    cases hr
    refine ⟨_, .record, _, fun _ => rfl, fun e h => ?_⟩
    refine .bind (blameless_readId id) fun id _ => ?_
    exact .bind (blameless_answer _) fun doc hdoc =>
      .recordOf h (Engine.findOne_subperm (of_answer hdoc))
  | findByIds c ids =>
    cases hr
    refine ⟨_, .records, _, fun _ => rfl, fun e h => ?_⟩
    refine .bind (blameless_readIds ids) fun ids _ => ?_
    exact .bind (blameless_answer _) fun docs hdocs =>
      .ofDocuments h (Engine.find_subperm (of_answer hdocs))
  | find c ps =>
    cases hr
    refine ⟨_, .records, _, fun _ => rfl, fun e h => ?_⟩
    refine .bind (blameless_compile coll ps) fun cursor _ => ?_
    exact .bind (blameless_answer _) fun docs hdocs =>
      .ofDocuments h (Engine.find_subperm (of_answer hdocs))
  | findOne c ps =>
    cases hr
    refine ⟨_, .record, _, fun _ => rfl, fun e h => ?_⟩
    refine .bind (blameless_compile coll ps) fun cursor _ => ?_
    exact .bind (blameless_answer _) fun doc hdoc =>
      .recordOf h (Engine.findOne_subperm (of_answer hdoc))
  | _ => cases hr

theorem Reachable.keyed {s : Store} (h : s.Reachable) (coll : String) :
    Keyed (s.engine.documents coll) := by
  obtain ⟨database, calls, he⟩ := h.engine
  rw [he]
  exact (Engine.sound_run database calls).documents coll

/-- To ask changes nothing, once the connection is settled. -/
theorem ask_store {α : Type} (s : Store) (g : Engine → Except StoreError α) :
    (s.ask g).2 = s.bringUp := by
  unfold ask
  rcases s.onEngine_cases fun e => (g e, e) with ⟨cause, h⟩ | h <;> rw [h]

theorem find_bringUp (s : Store) (coll : String) (ps : List Predicate) :
    s.bringUp.find coll ps = s.find coll ps := by
  unfold find ask
  exact s.onEngine_bringUp _

theorem findById_bringUp (s : Store) (coll text : String) :
    s.bringUp.findById coll text = s.findById coll text := by
  unfold findById ask
  exact s.onEngine_bringUp _

/-- The text of a document's identifier leads to its record. -/
theorem findById_self {s : Store} (hup : s.bringUp.connection = .up) {coll : String}
    (h : Keyed (s.bringUp.engine.documents coll)) {doc : Object}
    (hm : doc ∈ s.bringUp.engine.documents coll) {id : Identifier}
    (hid : doc.get? idField = some id.toJson) :
    (s.findById coll id.hex).1 = .ok (some ⟨id.hex, doc.erase idField⟩) := by
  have hread : readId id.hex = .ok id := readId_of_ok id.ofText_hex
  have hfound : answer (s.bringUp.engine.findOne coll { filter := idFilter id })
      = .ok (some doc) := by
    rw [Engine.findOne_self h hm hid]
    rfl
  unfold findById
  rw [ask_of_up hup, hread]
  show answer (s.bringUp.engine.findOne coll { filter := idFilter id }) >>= recordOf = _
  rw [hfound]
  exact recordOf_of_id hid

/-- A read never fails for a document.  The records that it answers with have identifiers that
differ, each as 24 digits, and no field of it beside; and to look one up by its identifier gives
that record. -/
theorem records_found_again {s : Store} (hs : s.Reachable) {r : Request} {coll : String}
    (hr : r.readsFrom = some coll) :
    (∀ reason, (s.handle r).1 ≠ .error (.malformedDocument reason)) ∧
    ∀ reply, (s.handle r).1 = .ok reply →
      (reply.recordsRead.map (·.id)).Nodup ∧
      ∀ rec ∈ reply.recordsRead, IsIdText rec.id ∧ idField ∉ rec.object.keys ∧
        ((s.handle r).2.findById coll rec.id).1 = .ok (some rec) := by
  have hkeyed : Keyed (s.bringUp.engine.documents coll) := by
    rw [hs.coherent.bringUp_engine]
    exact hs.keyed coll
  obtain ⟨α, f, g, hhandle, hg⟩ := handle_reads hr
  have hread := Retrieves.ask hs (hg _ hkeyed)
  have hbare : ∀ doc ∈ s.bringUp.engine.documents coll,
      idField ∉ Object.keys (Object.erase doc idField) := by
    intro doc hm
    rw [← Json.Object.get?_eq_none_iff, Json.Object.get?_erase (hkeyed.distinct doc hm),
      if_pos rfl]
  rw [hhandle s]
  unfold reply
  cases hask : (s.ask g).1 with
  | error e =>
    refine ⟨fun reason h => ?_, fun answered h => ?_⟩
    · cases h
      exact hread.blameless reason hask
    · cases h
  | ok a =>
    refine ⟨fun reason h => ?_, fun answered h => ?_⟩
    · cases h
    · cases h
      have hup : s.bringUp.connection = .up := up_of_ask hask
      obtain ⟨hnodup, hall⟩ := hkeyed.shown (hread.shown a hask)
      refine ⟨hnodup, fun rec hrec => ?_⟩
      obtain ⟨doc, hm, id, hid, rfl⟩ := hall rec hrec
      refine ⟨id.isIdText_hex, hbare doc hm, ?_⟩
      rw [s.ask_store, s.findById_bringUp]
      exact findById_self hup hkeyed hm hid

theorem records_found_again_books :
    ∃ first second, (serving books).Reachable ∧
      (Request.find "books" []).readsFrom = some "books" ∧
      ((serving books).handle (.find "books" [])).1 = .ok (.records [first, second]) ∧
      first.id ≠ second.id ∧
      (((serving books).handle (.find "books" [])).2.findById "books" second.id).1
        = .ok (some second) := by
  have hs : (serving books).Reachable := reachable_serving reachable_books
  obtain ⟨c, hc⟩ : ∃ c, compile "books" [] = .ok c := ⟨_, rfl⟩
  obtain ⟨first, second, hfound⟩ : ∃ first second,
      answer (books.find "books" c.query) >>= Record.ofDocuments = .ok [first, second] := by
    cases hc
    exact ⟨_, _, rfl⟩
  have hengine : (serving books).bringUp.engine = books := hs.coherent.bringUp_engine
  have hread : ((serving books).handle (.find "books" [])).1
      = .ok (.records [first, second]) := by
    show Except.map Reply.records ((serving books).find "books" []).1 = _
    rw [find_compiled (serving_up books) hc, hengine, hfound]
    rfl
  obtain ⟨hnodup, hall⟩ := (records_found_again hs (r := .find "books" []) rfl).2 _ hread
  refine ⟨first, second, hs, rfl, hread, ?_, ?_⟩
  · exact (List.pairwise_cons.1 hnodup).1 second.id List.mem_cons_self
  · exact (hall second (List.mem_cons_of_mem _ List.mem_cons_self)).2.2

end Store

end DocStore
