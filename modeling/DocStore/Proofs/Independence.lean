import DocStore.Proofs.Atomicity
import DocStore.Proofs.Retrieval

/-!
Partial updates that have nothing to do with each other.

On documents under identifiers, a partial update by identifier is a map over the documents of
its collection: it changes the one under the identifier, in the touched keys, and is else the
identity (`patch`).  Two of them are apart when they go to different identifiers or touch no
key in common, and then neither undoes what the other does:

    (patch id u doc).get? key, for every key                 (get?_patch)
    updateOne at an identifier maps `patch` over the documents
                                                             (Keyed.update_patches)
    two that are apart give the same document in either order, up to the order of keys
                                                             (Apart.perm)
    and the same engine, which holds what both have written  (updates_commute)
-/

namespace DocStore

open Json (Object)
open DocStore.Filter

/-! ## Written again -/

namespace Engine

theorem put_of_collection? {e : Engine} {coll : String} {c : Collection}
    (h : e.collection? coll = some c) : e.put coll c = e := by
  have hwrite : ∀ cs : List (String × Collection), cs.lookup coll = some c →
      writeTo coll c cs = cs := by
    intro cs
    induction cs with
    | nil => exact nofun
    | cons d cs ih =>
      obtain ⟨n, d⟩ := d
      intro h
      rw [List.lookup_cons] at h
      unfold writeTo
      by_cases hn : n = coll
      · rw [hn, beq_self_eq_true] at h
        cases h
        rw [if_pos hn, hn]
      · rw [beq_eq_false_iff_ne.2 (Ne.symm hn)] at h
        rw [if_neg hn, ih h]
  obtain ⟨database, collections⟩ := e
  exact congrArg (Engine.mk database) (hwrite collections h)

theorem put_put (e : Engine) (coll : String) (c c' : Collection) :
    (e.put coll c).put coll c' = e.put coll c' :=
  congrArg (Engine.mk e.database) (writeTo_writeTo coll c c' e.collections)

/-! ## Documents that stay in their places -/

/-- The engine with a map over the documents of a collection. -/
def mapDocuments (e : Engine) (coll : String) (f : Object → Object) : Engine :=
  match e.collection? coll with
  | none => e
  | some c => e.put coll { c with documents := c.documents.map f }

section mapDocuments

variable (e : Engine) (coll : String) (f g : Object → Object)

theorem mapDocuments_of_none {e : Engine} {coll : String} (h : e.collection? coll = none) :
    e.mapDocuments coll f = e ∧ e.documents coll = [] := by
  unfold mapDocuments documents
  rw [h]
  exact ⟨rfl, rfl⟩

theorem mapDocuments_of_some {e : Engine} {coll : String} {c : Collection}
    (h : e.collection? coll = some c) :
    e.mapDocuments coll f = e.put coll { c with documents := c.documents.map f } := by
  unfold mapDocuments
  rw [h]

theorem mapDocuments_mapDocuments :
    (e.mapDocuments coll f).mapDocuments coll g = e.mapDocuments coll (g ∘ f) := by
  cases hc : e.collection? coll with
  | none => rw [(mapDocuments_of_none f hc).1, (mapDocuments_of_none g hc).1,
      (mapDocuments_of_none (g ∘ f) hc).1]
  | some c =>
    have hput : (e.put coll { c with documents := c.documents.map f }).collection? coll
        = some { c with documents := c.documents.map f } := by
      rw [collection?_put, if_pos rfl]
    rw [mapDocuments_of_some f hc, mapDocuments_of_some g hput, put_put,
      mapDocuments_of_some (g ∘ f) hc, List.map_map]

theorem remains_mapDocuments :
    e.Remains coll ((e.documents coll).map f) (e.mapDocuments coll f) := by
  cases hc : e.collection? coll with
  | none =>
    obtain ⟨hsame, hnone⟩ := mapDocuments_of_none f hc
    rw [hsame, hnone]
    exact ⟨rfl, hnone, fun _ _ => rfl, fun _ => rfl⟩
  | some c =>
    rw [mapDocuments_of_some f hc, documents_of_collection? hc]
    refine ⟨rfl, ?_, fun name hne => ?_, fun name => ?_⟩
    · rw [documents_put, if_pos rfl]
    · rw [collection?_put, if_neg hne]
    · rw [collection?_put]
      by_cases hname : name = coll
      · rw [if_pos hname, hname, hc]
        rfl
      · rw [if_neg hname]

end mapDocuments

end Engine

/-- Collections with documents in the same places that are equal up to the order of keys. -/
structure Collection.EqUpToKeys (c c' : Collection) : Prop where
  indexes : c.indexes = c'.indexes
  documents : List.Forall₂ List.Perm c.documents c'.documents

theorem Collection.EqUpToKeys.refl (c : Collection) : c.EqUpToKeys c :=
  ⟨rfl, List.forall₂_same.2 fun doc _ => List.Perm.refl doc⟩

namespace Engine

/-- Engines with the same collections, of which each two are equal up to the order of keys. -/
structure EqUpToKeys (e e' : Engine) : Prop where
  database : e.database = e'.database
  collections : List.Forall₂ (fun nc nc' => nc.1 = nc'.1 ∧ nc.2.EqUpToKeys nc'.2)
    e.collections e'.collections

theorem EqUpToKeys.refl (e : Engine) : e.EqUpToKeys e :=
  ⟨rfl, List.forall₂_same.2 fun nc _ => ⟨rfl, .refl nc.2⟩⟩

theorem eqUpToKeys_put (e : Engine) (coll : String) {c c' : Collection} (h : c.EqUpToKeys c') :
    (e.put coll c).EqUpToKeys (e.put coll c') := by
  have hwrite : ∀ cs : List (String × Collection),
      List.Forall₂ (fun nc nc' => nc.1 = nc'.1 ∧ nc.2.EqUpToKeys nc'.2)
        (writeTo coll c cs) (writeTo coll c' cs) := by
    intro cs
    induction cs with
    | nil => exact .cons ⟨rfl, h⟩ .nil
    | cons d cs ih =>
      unfold writeTo
      by_cases hn : d.1 = coll
      · rw [if_pos hn, if_pos hn]
        exact .cons ⟨rfl, h⟩ (EqUpToKeys.refl ⟨"", cs⟩).collections
      · rw [if_neg hn, if_neg hn]
        exact .cons ⟨rfl, .refl d.2⟩ ih
  exact ⟨rfl, hwrite e.collections⟩

theorem eqUpToKeys_mapDocuments {e : Engine} {coll : String} {f g : Object → Object}
    (h : ∀ doc ∈ e.documents coll, (f doc).Perm (g doc)) :
    (e.mapDocuments coll f).EqUpToKeys (e.mapDocuments coll g) := by
  cases hc : e.collection? coll with
  | none =>
    rw [(mapDocuments_of_none f hc).1, (mapDocuments_of_none g hc).1]
    exact .refl e
  | some c =>
    rw [documents_of_collection? hc] at h
    rw [mapDocuments_of_some f hc, mapDocuments_of_some g hc]
    refine eqUpToKeys_put e coll ⟨rfl, ?_⟩
    rw [List.forall₂_map_left_iff, List.forall₂_map_right_iff]
    exact List.forall₂_same.2 h

end Engine

/-! ## One update of one document -/

/-- What a partial update by identifier is given. -/
structure Edit where
  text : String
  id : Identifier
  valid : Identifier.ofText text = .ok id
  candidate : Document
  touched : List String

namespace Edit

open Engine (hasId hasId_eq changed get?_changed distinct_changed)

def update (w : Edit) : Update :=
  .ofTouched w.candidate.fields w.touched

def request (w : Edit) (coll : String) : Store.Request :=
  .updateById coll w.text w.candidate w.touched

/-- Whether the update writes the key of a document, or takes it out. -/
def reaches (w : Edit) (doc : Object) (key : String) : Bool :=
  hasId w.id doc && isTouched w.touched key

/-- What a key that is reached comes to. -/
def value (w : Edit) (key : String) : Option Json :=
  Update.valueIn w.candidate.fields key

/-- A document after the update of the one under the identifier. -/
def patch (w : Edit) (doc : Object) : Object :=
  if hasId w.id doc then changed w.update.apply doc else doc

section patch

variable (w : Edit) {doc : Object} {id : Identifier} (hd : doc.Distinct)
  (hid : doc.get? idField = some id.toJson)

include hid

theorem get?_id_patch : (w.patch doc).get? idField = some id.toJson := by
  unfold patch
  split
  · exact get?_changed w.update.apply hid
  · exact hid

theorem reaches_patch (w' : Edit) (key : String) :
    w'.reaches (w.patch doc) key = w'.reaches doc key := by
  unfold reaches
  rw [hasId_eq (w.get?_id_patch hid), hasId_eq hid]

theorem patch_of_ne (hne : w.id ≠ id) : w.patch doc = doc := by
  unfold patch
  rw [hasId_eq hid, decide_eq_false hne, if_neg Bool.false_ne_true]

/-- An update without fields to write or take out writes the identifier where it stands. -/
theorem patch_of_isEmpty (hempty : w.update.isEmpty = true) : w.patch doc = doc := by
  have happly : w.update.apply doc = doc := by
    unfold Update.isEmpty at hempty
    rw [Bool.and_eq_true, List.isEmpty_iff, List.isEmpty_iff] at hempty
    unfold Update.apply
    rw [hempty.1, hempty.2]
    rfl
  unfold patch changed
  rw [hid, happly]
  simp only [Json.Object.insert_of_get? hid, ite_self]

include hd

omit hid in
theorem distinct_patch : (w.patch doc).Distinct := by
  unfold patch
  split
  · exact distinct_changed (w.update.distinct_apply hd)
  · exact hd

/-- What a partial update makes of a document, key by key. -/
theorem get?_patch (key : String) :
    (w.patch doc).get? key = if w.reaches doc key then w.value key else doc.get? key := by
  unfold patch reaches
  cases hasId w.id doc with
  | false => rfl
  | true =>
    have hchanged : changed w.update.apply doc
        = (w.update.apply doc).insert idField id.toJson := by
      unfold changed
      rw [hid]
    rw [if_pos rfl, hchanged, Bool.true_and, Json.Object.get?_insert]
    unfold update value
    rw [Update.get?_apply_ofTouched w.candidate.fields w.touched hd]
    by_cases hk : key = idField
    · rw [if_pos hk, hk, isTouched_idField, hid]
      rfl
    · rw [if_neg hk]

end patch

/-! ## Two updates -/

/-- Updates of different documents, or of keys of which none is touched by both. -/
def Apart (w w' : Edit) : Prop :=
  w.id ≠ w'.id ∨ ∀ key, ¬ (isTouched w.touched key = true ∧ isTouched w'.touched key = true)

/-- What two updates make of a key of a document, as if each were made alone. -/
def merged (w w' : Edit) (doc : Object) (key : String) : Option Json :=
  if w.reaches doc key then w.value key
  else if w'.reaches doc key then w'.value key
  else doc.get? key

namespace Apart

variable {w w' : Edit} (h : w.Apart w')

include h

theorem symm : w'.Apart w :=
  h.imp Ne.symm fun hkeys key hboth => hkeys key hboth.symm

variable {doc : Object} {id : Identifier} (hd : doc.Distinct)
  (hid : doc.get? idField = some id.toJson)

include hid

/-- No key of a document is reached by both. -/
theorem not_both (key : String) (hw : w.reaches doc key = true) : w'.reaches doc key = false := by
  rw [← Bool.not_eq_true]
  intro hw'
  unfold reaches at hw hw'
  rw [Bool.and_eq_true, hasId_eq hid, decide_eq_true_iff] at hw hw'
  rcases h with hne | hkeys
  · exact hne (hw.1.trans hw'.1.symm)
  · exact hkeys key ⟨hw.2, hw'.2⟩

include hd

/-- The second update takes nothing of the first one back. -/
theorem get?_patch_patch (key : String) :
    (w'.patch (w.patch doc)).get? key = w.merged w' doc key := by
  rw [w'.get?_patch (w.distinct_patch hd) (w.get?_id_patch hid), w.reaches_patch hid,
    w.get?_patch hd hid]
  unfold merged
  cases hw : w.reaches doc key with
  | false => rfl
  | true =>
    rw [h.not_both hid key hw]
    rfl

omit hd in
theorem merged_comm (key : String) : w'.merged w doc key = w.merged w' doc key := by
  unfold merged
  cases hw : w.reaches doc key with
  | false =>
    rfl
  | true =>
    rw [h.not_both hid key hw]
    rfl

theorem perm : (w'.patch (w.patch doc)).Perm (w.patch (w'.patch doc)) := by
  rw [Json.Object.perm_iff_get? (w'.distinct_patch (w.distinct_patch hd))
    (w.distinct_patch (w'.distinct_patch hd))]
  intro key
  rw [h.get?_patch_patch hd hid, h.symm.get?_patch_patch hd hid, h.merged_comm hid]

end Apart

end Edit

/-! ## Updates of an engine -/

open Engine (hasId hasId_eq changed)

/-- To change the first match of an identifier's filter is to change all documents under it:
there is at most one. -/
theorem Keyed.changeFirst_patch {docs : List Object} (h : Keyed docs) (w : Edit) :
    ∃ n, Engine.changeFirst (Store.idFilter w.id) (fun d => some (changed w.update.apply d)) docs
      = .ok (n, docs.map w.patch) := by
  induction docs with
  | nil => exact ⟨0, rfl⟩
  | cons doc docs ih =>
    obtain ⟨id, hid⟩ := h.written doc List.mem_cons_self
    have hrest : Keyed docs := h.sublist (List.sublist_cons_self doc docs)
    have hmatch := Store.matches?_idFilter hid w.id
    unfold Engine.changeFirst
    rw [hmatch]
    by_cases hw : id = w.id
    · have hpatch : w.patch doc = changed w.update.apply doc := by
        unfold Edit.patch
        rw [hasId_eq hid, decide_eq_true hw.symm, if_pos rfl]
      -- the documents behind the match stand under other identifiers
      have hothers : ∀ d ∈ docs, w.patch d = d := by
        intro d hd
        obtain ⟨id', hid'⟩ := hrest.written d hd
        refine w.patch_of_ne hid' fun hw' => ?_
        have hsame : doc.get? idField = d.get? idField := by rw [hid, hid', hw, hw']
        have hin : d.get? idField ∈ ids docs := List.mem_map_of_mem hd
        rw [← hsame] at hin
        exact (List.nodup_cons.1 h.nodup).1 hin
      rw [decide_eq_true hw, List.map_cons, hpatch, List.map_congr_left hothers, List.map_id']
      exact ⟨1, rfl⟩
    · obtain ⟨n, hn⟩ := ih hrest
      rw [decide_eq_false hw, List.map_cons, w.patch_of_ne hid (Ne.symm hw), hn]
      exact ⟨n, rfl⟩

/-- A partial update maps `patch` over its collection, also when it has nothing to write. -/
theorem Keyed.update_patches {e : Engine} {coll : String} (h : Keyed (e.documents coll))
    (w : Edit) :
    ∃ n, (if w.update.isEmpty then (.ok 0, e)
      else e.updateOne coll (Store.idFilter w.id) w.update)
        = (.ok n, e.mapDocuments coll w.patch) := by
  cases hc : e.collection? coll with
  | none =>
    refine ⟨0, ?_⟩
    unfold Engine.updateOne Engine.changeOne
    simp only [hc, (Engine.mapDocuments_of_none w.patch hc).1, ite_self]
  | some c =>
    rw [Engine.documents_of_collection? hc] at h
    rw [Engine.mapDocuments_of_some w.patch hc]
    by_cases hempty : w.update.isEmpty = true
    · have hsame : ∀ d ∈ c.documents, w.patch d = d := by
        intro d hd
        obtain ⟨id, hid⟩ := h.written d hd
        exact w.patch_of_isEmpty hid hempty
      refine ⟨0, ?_⟩
      rw [if_pos hempty, List.map_congr_left hsame, List.map_id']
      exact congrArg (Prod.mk _) (Engine.put_of_collection? hc).symm
    · obtain ⟨n, hn⟩ := h.changeFirst_patch w
      refine ⟨n, ?_⟩
      unfold Engine.updateOne Engine.changeOne
      rw [if_neg hempty]
      simp only [hc, hn]

/-! ## Updates of a store -/

namespace Store

variable {s : Store}

/-- Over a connection that is up, an update by identifier is done. -/
theorem Reachable.update (hs : s.Reachable) (hup : s.bringUp.connection = .up) (w : Edit)
    (coll : String) :
    (s.handle (w.request coll)).1 = .ok .done ∧
      (s.handle (w.request coll)).2.engine = s.engine.mapDocuments coll w.patch := by
  have hread : readId w.text = .ok w.id := readId_of_ok w.valid
  obtain ⟨n, hn⟩ := (hs.keyed coll).update_patches w
  show (reply _ (s.updateById coll w.text w.candidate.fields w.touched)).1 = _ ∧
    (s.updateById coll w.text w.candidate.fields w.touched).2.engine = _
  unfold updateById onId
  rw [onEngine_of_up _ hup, hs.coherent.bringUp_engine]
  simp only [hread]
  unfold Edit.update at hn
  rw [hn]
  exact ⟨rfl, rfl⟩

theorem update_connection (w : Edit) (coll : String)
    (hup : s.bringUp.connection = .up) :
    (s.handle (w.request coll)).2.bringUp.connection = .up := by
  have hc : (s.handle (w.request coll)).2.connection = .up := by
    rw [s.handle_connection, hup]
  rw [bringUp_of_settled (by rw [hc]; exact nofun), hc]

/-- Over a connection that is down, an update by identifier is refused. -/
theorem update_of_down {cause : StoreError} (hdown : s.connection = .down cause) (w : Edit)
    (coll : String) :
    (s.handle (w.request coll)).1 = .error cause ∧
      (s.handle (w.request coll)).2.connection = .down cause ∧
      (s.handle (w.request coll)).2.engine = s.engine := by
  obtain ⟨hanswer, console, hstore⟩ := handle_of_down hdown (w.request coll)
  rw [hanswer, hstore]
  exact ⟨rfl, hdown, rfl⟩

/-- Two updates by identifier that go to different documents, or touch no key in common, make
the same engine in either order.  Where there is an engine, both are done, and it then holds
what each of them writes; where there is none, both are refused. -/
theorem updates_commute (hs : s.Reachable) (coll : String) {w w' : Edit} (h : w.Apart w') :
    (s.serve [w.request coll, w'.request coll]).engine.EqUpToKeys
      (s.serve [w'.request coll, w.request coll]).engine ∧
    (s.bringUp.connection = .up →
      (s.handle (w.request coll)).1 = .ok .done ∧
      ((s.handle (w.request coll)).2.handle (w'.request coll)).1 = .ok .done ∧
      ∃ left, s.engine.Remains coll left (s.serve [w.request coll, w'.request coll]).engine ∧
        List.Forall₂ (fun doc doc' => ∀ key, Object.get? doc' key = w.merged w' doc key)
          (s.engine.documents coll) left) ∧
    (∀ cause, s.bringUp.connection = .down cause →
      (s.handle (w.request coll)).1 = .error cause ∧
      ((s.handle (w.request coll)).2.handle (w'.request coll)).1 = .error cause ∧
      (s.serve [w.request coll, w'.request coll]).engine = s.engine) := by
  have hkeyed : Keyed (s.engine.documents coll) := hs.keyed coll
  have hdone : ∀ w w' : Edit, s.bringUp.connection = .up →
      ((s.handle (w.request coll)).2.handle (w'.request coll)).1 = .ok .done ∧
      (s.serve [w.request coll, w'.request coll]).engine
        = s.engine.mapDocuments coll (w'.patch ∘ w.patch) := by
    intro w w' hup
    obtain ⟨-, hfirst⟩ := hs.update hup w coll
    obtain ⟨hanswer, hsecond⟩ :=
      (hs.handle (w.request coll)).update (update_connection w coll hup) w' coll
    refine ⟨hanswer, ?_⟩
    rw [← Engine.mapDocuments_mapDocuments, ← hfirst]
    exact hsecond
  have hrefused : ∀ (w w' : Edit) cause, s.bringUp.connection = .down cause →
      (s.handle (w.request coll)).1 = .error cause ∧
      ((s.handle (w.request coll)).2.handle (w'.request coll)).1 = .error cause ∧
      (s.serve [w.request coll, w'.request coll]).engine = s.engine := by
    intro w w' cause hdown
    have hfirst := update_of_down hdown w coll
    rw [handle_bringUp, hs.coherent.bringUp_engine] at hfirst
    obtain ⟨hanswer, hconnection, hengine⟩ := hfirst
    obtain ⟨hanswer', -, hengine'⟩ := update_of_down hconnection w' coll
    exact ⟨hanswer, hanswer', hengine'.trans hengine⟩
  refine ⟨?_, fun hup => ?_, hrefused w w'⟩
  · cases hc : s.bringUp.connection with
    | untried => exact absurd hc s.bringUp_settles
    | down cause =>
      rw [(hrefused w w' cause hc).2.2, (hrefused w' w cause hc).2.2]
      exact .refl s.engine
    | up =>
      rw [(hdone w w' hc).2, (hdone w' w hc).2]
      refine Engine.eqUpToKeys_mapDocuments fun doc hm => ?_
      obtain ⟨id, hid⟩ := hkeyed.written doc hm
      exact h.perm (hkeyed.distinct doc hm) hid
  · obtain ⟨hanswer, hengine⟩ := hdone w w' hup
    refine ⟨(hs.update hup w coll).1, hanswer,
      (s.engine.documents coll).map (w'.patch ∘ w.patch), ?_, ?_⟩
    · rw [hengine]
      exact Engine.remains_mapDocuments s.engine coll _
    · rw [List.forall₂_map_right_iff]
      refine List.forall₂_same.2 fun doc hm key => ?_
      obtain ⟨id, hid⟩ := hkeyed.written doc hm
      exact h.get?_patch_patch (hkeyed.distinct doc hm) hid key

/-- The updates of the field of a title, and of that of the year, of the first book. -/
def retitled : Edit where
  text := (Identifier.Source.take ⟨0, 0⟩).1.hex
  id := (Identifier.Source.take ⟨0, 0⟩).1
  valid := Identifier.ofText_hex _
  candidate := ⟨[("title", .str "t")], List.pairwise_singleton _ _⟩
  touched := ["title", "tags"]

def dated : Edit :=
  { retitled with
    candidate := ⟨[("year", .str "1984")], List.pairwise_singleton _ _⟩
    touched := ["year.printed"] }

theorem apart_retitled_dated : retitled.Apart dated := by
  refine .inr fun key h => ?_
  have htitle : Json.segments "title" = ["title"] := by decide
  have htags : Json.segments "tags" = ["tags"] := by decide
  have hyear : Json.segments "year.printed" = ["year", "printed"] := by decide
  simp only [retitled, dated, isTouched, List.any_cons, List.any_nil, htitle, htags, hyear,
    List.head?_cons, Bool.and_eq_true, Bool.or_eq_true, beq_iff_eq, Option.some.injEq,
    Bool.false_eq_true, or_false] at h
  obtain ⟨⟨-, rfl | rfl⟩, -, hkey⟩ := h <;> exact absurd hkey (by decide)

theorem updates_commute_books :
    ∃ first second first' second', (serving books).Reachable ∧ retitled.Apart dated ∧
    (serving books).engine.documents "books" = [first, second] ∧
    ((serving books).serve [retitled.request "books", dated.request "books"]).engine.EqUpToKeys
      ((serving books).serve [dated.request "books", retitled.request "books"]).engine ∧
    ((serving books).serve
      [retitled.request "books", dated.request "books"]).engine.documents "books"
        = [first', second'] ∧
    Object.get? first' "title" = some (.str "t") ∧ Object.get? first' "tags" = none ∧
    Object.get? first' "year" = some (.str "1984") ∧ Object.get? second' "title" = none := by
  have hs : (serving books).Reachable := reachable_serving reachable_books
  obtain ⟨first, second, hdocs, hfirst, hsecond⟩ : ∃ first second,
      (serving books).engine.documents "books" = [first, second] ∧
      (retitled.merged dated first "title" = some (.str "t") ∧
        retitled.merged dated first "tags" = none ∧
        retitled.merged dated first "year" = some (.str "1984")) ∧
      retitled.merged dated second "title" = none :=
    ⟨_, _, rfl, ⟨rfl, rfl, rfl⟩, rfl⟩
  obtain ⟨hsame, hup, -⟩ := updates_commute hs "books" apart_retitled_dated
  obtain ⟨-, -, left, hremains, hleft⟩ := hup (serving_up books)
  rw [hdocs] at hleft
  cases hleft with
  | cons hfirst' hleft =>
    cases hleft with
    | cons hsecond' hleft =>
      cases hleft
      refine ⟨first, second, _, _, hs, apart_retitled_dated, hdocs, hsame, hremains.documents,
        ?_, ?_, ?_, ?_⟩
      · rw [hfirst', hfirst.1]
      · rw [hfirst', hfirst.2.1]
      · rw [hfirst', hfirst.2.2]
      · rw [hsecond', hsecond]

end Store

end DocStore
