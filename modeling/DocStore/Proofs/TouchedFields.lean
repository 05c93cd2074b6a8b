import DocStore.Proofs.Independence

/-!
Partial updates touch exactly the touched fields.

The fields that an update is about are the first segments of the paths that its author touched.
Nothing else of the paths counts, and what the update makes of a document can be read off key by
key (`Update.Touches`): a field is written with the candidate's value, taken out where there is
none, or left alone.

    paths with the same first segments make the same update  (ofTouched_congr)
    u.apply (u.apply doc) = u.apply doc                      (apply_apply_ofTouched)

An update by identifier applies the update to the one document under the identifier, which it
leaves under it, and to send it again changes nothing        (update_touches).
-/

namespace DocStore

open Json (Object)

/-- A loop whose steps change nothing. -/
theorem foldl_eq_self {α β : Type} {f : α → β → α} {a : α} {bs : List β}
    (h : ∀ b ∈ bs, f a b = a) : bs.foldl f a = a := by
  induction bs with
  | nil => rfl
  | cons b bs ih =>
    obtain ⟨hb, hbs⟩ := List.forall_mem_cons.1 h
    rw [List.foldl_cons, hb, ih hbs]

namespace Update

/-! ## Updates of a document -/

/-- The second document is the first one but for the touched fields, which it has from the
candidate. -/
structure Touches (candidate : Object) (paths : List String) (doc doc' : Object) : Prop where
  written : ∀ key v, isTouched paths key = true → candidate.get? key = some v → v ≠ .null →
    doc'.get? key = some v
  removed : ∀ key, isTouched paths key = true →
    (candidate.get? key = none ∨ candidate.get? key = some .null) → doc'.get? key = none
  kept : ∀ key, isTouched paths key = false → doc'.get? key = doc.get? key
  identifier : doc'.get? idField = doc.get? idField
  below : ∀ path ∈ paths, ∀ key v, (Json.segments path).head? = some key →
    isTouched paths key = true → candidate.get? key = some v → v ≠ .null →
    Json.lookup doc' path = Json.lookup candidate path

section

variable (candidate : Object) (paths : List String) {doc : Object} (hd : doc.Distinct)

/-- An update depends on its paths by the fields that they touch. -/
theorem ofTouched_congr {paths paths' : List String}
    (h : ∀ key, isTouched paths' key = isTouched paths key) :
    ofTouched candidate paths' = ofTouched candidate paths := by
  have hfields : touchedFields paths' = touchedFields paths := by
    have hmem : ∀ key, key ∈ touchedFields paths' ↔ key ∈ touchedFields paths := by
      intro key
      rw [mem_touchedFields, mem_touchedFields, h]
    unfold touchedFields at hmem ⊢
    simp only [mem_sortTexts] at hmem
    exact sortTexts_congr hmem
  unfold ofTouched
  rw [hfields]

include hd

theorem touches_apply_ofTouched :
    Touches candidate paths doc ((ofTouched candidate paths).apply doc) := by
  have hget := get?_apply_ofTouched candidate paths hd
  have hwritten : ∀ key v, isTouched paths key = true → candidate.get? key = some v → v ≠ .null →
      ((ofTouched candidate paths).apply doc).get? key = some v := by
    intro key v hkey hv hnull
    rw [hget, if_pos hkey, valueIn_eq_some_iff]
    refine ⟨hv, ?_⟩
    cases v with
    | null => exact absurd rfl hnull
    | _ => rfl
  have hkept : ∀ key, isTouched paths key = false →
      ((ofTouched candidate paths).apply doc).get? key = doc.get? key := by
    intro key hkey
    rw [hget, hkey]
    rfl
  refine ⟨hwritten, fun key hkey hv => ?_, hkept, hkept _ (isTouched_idField paths), ?_⟩
  · rw [hget, if_pos hkey, valueIn]
    rcases hv with hv | hv <;> rw [hv]
  · intro path _ key v hpath hkey hv hnull
    refine Json.lookup_congr hpath ?_
    rw [hwritten key v hkey hv hnull, hv]

/-- To apply an update again is to write what is there and to take out what is gone. -/
theorem apply_apply_ofTouched :
    (ofTouched candidate paths).apply ((ofTouched candidate paths).apply doc)
      = (ofTouched candidate paths).apply doc := by
  have hget := get?_apply_ofTouched candidate paths hd
  generalize (ofTouched candidate paths).apply doc = updated at hget
  have hset : ∀ e ∈ (ofTouched candidate paths).set, updated.insert e.1 e.2 = updated := by
    intro e he
    obtain ⟨key, hkey, hentry⟩ := List.mem_filterMap.1 he
    obtain ⟨v, hv, rfl⟩ := Option.map_eq_some_iff.1 hentry
    refine Json.Object.insert_of_get? ?_
    rw [hget, if_pos ((mem_touchedFields paths key).1 hkey), hv]
  have hunset : ∀ key ∈ (ofTouched candidate paths).unset, updated.erase key = updated := by
    intro key he
    obtain ⟨hkey, hv⟩ := List.mem_filter.1 he
    refine Json.Object.erase_of_get? ?_
    rw [hget, if_pos ((mem_touchedFields paths key).1 hkey), Option.isNone_iff_eq_none.1 hv]
  have hwritten : (ofTouched candidate paths).set.foldl
      (fun d e => Object.insert d e.1 e.2) updated = updated := foldl_eq_self hset
  unfold apply
  rw [hwritten]
  exact foldl_eq_self hunset

end

end Update

/-! ## Updates by identifier -/

open Engine (hasId hasId_eq changed)

namespace Edit

variable (w : Edit) {doc : Object} {id : Identifier} (hd : doc.Distinct)
  (hid : doc.get? idField = some id.toJson)

include hd hid

/-- The document under the identifier is updated; the identifier is not among its fields that
can be touched, so that to write it back changes nothing. -/
theorem patch_of_hasId (h : hasId w.id doc = true) : w.patch doc = w.update.apply doc := by
  have hkept : (w.update.apply doc).get? idField = some id.toJson :=
    (Update.touches_apply_ofTouched _ _ hd).identifier.trans hid
  unfold patch changed
  rw [if_pos h, hid]
  exact Json.Object.insert_of_get? hkept

theorem patch_patch : w.patch (w.patch doc) = w.patch doc := by
  cases h : hasId w.id doc with
  | false =>
    have hsame : w.patch doc = doc := by
      unfold patch
      rw [h]
      rfl
    rw [hsame, hsame]
  | true =>
    have hagain : hasId w.id (w.patch doc) = true := by
      rw [hasId_eq (w.get?_id_patch hid), ← hasId_eq hid, h]
    rw [w.patch_of_hasId (w.distinct_patch hd) (w.get?_id_patch hid) hagain,
      w.patch_of_hasId hd hid h]
    exact Update.apply_apply_ofTouched _ _ hd

end Edit

namespace Engine

theorem mapDocuments_congr {e : Engine} {coll : String} {f g : Object → Object}
    (h : ∀ doc ∈ e.documents coll, f doc = g doc) :
    e.mapDocuments coll f = e.mapDocuments coll g := by
  cases hc : e.collection? coll with
  | none => rw [(mapDocuments_of_none f hc).1, (mapDocuments_of_none g hc).1]
  | some c =>
    rw [documents_of_collection? hc] at h
    rw [mapDocuments_of_some f hc, mapDocuments_of_some g hc, List.map_congr_left h]

end Engine

namespace Store

open Update (Touches)

/-- A partial update touches exactly the fields that its paths start with: in a document, and in
the one document of a collection that stands under the identifier, where all other documents
stay as they are.  How the paths go on, in which order and how often does not matter, and made
twice the update is the same as made once. -/
theorem update_touches (w : Edit) :
    (∀ doc : Object, doc.Distinct →
      Touches w.candidate.fields w.touched doc (w.update.apply doc) ∧
      w.update.apply (w.update.apply doc) = w.update.apply doc) ∧
    (∀ paths, (∀ key, isTouched paths key = isTouched w.touched key) →
      Update.ofTouched w.candidate.fields paths = w.update) ∧
    ∀ s : Store, s.Reachable → s.bringUp.connection = .up → ∀ coll,
      let s' := (s.handle (w.request coll)).2
      (s.handle (w.request coll)).1 = .ok .done ∧
      (∃ left, s.engine.Remains coll left s'.engine ∧
        List.Forall₂ (fun doc doc' =>
          (hasId w.id doc = true → doc' = w.update.apply doc ∧
            Touches w.candidate.fields w.touched doc doc') ∧
          (hasId w.id doc = false → doc' = doc)) (s.engine.documents coll) left) ∧
      (s'.handle (w.request coll)).2.engine = s'.engine := by
  refine ⟨fun doc hd => ⟨Update.touches_apply_ofTouched _ _ hd,
    Update.apply_apply_ofTouched _ _ hd⟩, fun paths => Update.ofTouched_congr _,
    fun s hs hup coll => ?_⟩
  have hkeyed : Keyed (s.engine.documents coll) := hs.keyed coll
  obtain ⟨hdone, hengine⟩ := hs.update hup w coll
  refine ⟨hdone, ⟨(s.engine.documents coll).map w.patch, ?_, ?_⟩, ?_⟩
  · rw [hengine]
    exact Engine.remains_mapDocuments s.engine coll w.patch
  · rw [List.forall₂_map_right_iff]
    refine List.forall₂_same.2 fun doc hm => ⟨fun h => ?_, fun h => ?_⟩
    · obtain ⟨id, hid⟩ := hkeyed.written doc hm
      have hd := hkeyed.distinct doc hm
      rw [w.patch_of_hasId hd hid h]
      exact ⟨rfl, Update.touches_apply_ofTouched _ _ hd⟩
    · unfold Edit.patch
      rw [h]
      rfl
  · obtain ⟨-, hagain⟩ :=
      (hs.handle (w.request coll)).update (update_connection w coll hup) w coll
    rw [hagain, hengine, Engine.mapDocuments_mapDocuments]
    refine Engine.mapDocuments_congr fun doc hm => ?_
    obtain ⟨id, hid⟩ := hkeyed.written doc hm
    exact w.patch_patch (hkeyed.distinct doc hm) hid

/-- The first book gets a title and loses its tags, of which the candidate has none; the second
one stays as it is. -/
theorem update_touches_books :
    ∃ first second first', (serving books).Reachable ∧
      (serving books).bringUp.connection = .up ∧
      (serving books).engine.documents "books" = [first, second] ∧
      ((serving books).handle (retitled.request "books")).2.engine.documents "books"
        = [first', second] ∧
      Object.get? first' "title" = some (.str "t") ∧ Object.get? first "tags" = some .null ∧
      Object.get? first' "tags" = none ∧
      Object.get? first' idField = Object.get? first idField := by
  have hs : (serving books).Reachable := reachable_serving reachable_books
  have hup : (serving books).bringUp.connection = .up := serving_up books
  obtain ⟨first, second, hdocs, hfirst, hsecond, htags⟩ : ∃ first second,
      (serving books).engine.documents "books" = [first, second] ∧
      hasId retitled.id first = true ∧ hasId retitled.id second = false ∧
      Object.get? first "tags" = some .null :=
    ⟨_, _, rfl, rfl, rfl, rfl⟩
  obtain ⟨-, -, hstore⟩ := update_touches retitled
  obtain ⟨-, ⟨left, hremains, hleft⟩, -⟩ := hstore (serving books) hs hup "books"
  rw [hdocs] at hleft
  cases hleft with
  | @cons _ first' _ _ hfirst' hleft =>
    cases hleft with
    | cons hsecond' hleft =>
      cases hleft
      obtain ⟨-, htouches⟩ := hfirst'.1 hfirst
      rw [hsecond'.2 hsecond] at hremains
      refine ⟨first, second, first', hs, hup, hdocs, hremains.documents, ?_, htags, ?_,
        htouches.identifier⟩
      · exact htouches.written "title" _ (by decide) rfl (by simp)
      · exact htouches.removed "tags" (by decide) (.inl rfl)

end Store

end DocStore
