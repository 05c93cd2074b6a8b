import DocStore.Proofs.History
import DocStore.Proofs.PartialUpdate

/-!
Identifiers in an engine, after any run of writes.

Every document stands under an identifier in its one written form, and no two documents
of a collection under the same (`Keyed`).  An insertion writes the identifier in that form
before it looks for a document that has it; a change puts the identifier back that the
document had; and to take documents out does no harm.

    Keyed docs → (∀ d ∈ docs, ¬ hasId id d) → Keyed (docs ++ [stored id doc])
                                                             (Keyed.append)
    (e.run calls).Sound, and no change moves or renames a document
                                                             (run_keeps_identifiers)
-/

namespace DocStore

open Json (Object)

/-! ## The written form -/

/-- The one written form of an identifier: 24 lowercase digits under the one key. -/
def IsWrittenId (v : Json) : Prop :=
  ∃ h : String, v = .obj [("$oid", .str h)] ∧ h.length = 24 ∧
    ∀ c ∈ h.toList, c ∈ "0123456789abcdef".toList

theorem Hex.digit_mem (d : Fin 16) : Hex.digit d ∈ "0123456789abcdef".toList := by
  revert d
  decide

namespace Identifier

theorem isWrittenId_toJson (id : Identifier) : IsWrittenId id.toJson := by
  refine ⟨id.hex, rfl, ?_, ?_⟩
  · unfold hex
    rw [String.length_ofList, List.length_map, id.length_digits]
  · intro c hc
    unfold hex at hc
    rw [String.toList_ofList] at hc
    obtain ⟨d, -, rfl⟩ := List.mem_map.1 hc
    exact Hex.digit_mem d

theorem toJson_injective {id id' : Identifier} (h : id.toJson = id'.toJson) : id = id' := by
  have hr := ofJson_toJson id
  rw [h, ofJson_toJson] at hr
  cases hr
  rfl

theorem hex_injective {id id' : Identifier} (h : id.hex = id'.hex) : id = id' :=
  toJson_injective (by unfold toJson; rw [h])

/-- Written identifiers are equal as values exactly when they are the same. -/
theorem same_toJson (id id' : Identifier) : id.toJson.same id'.toJson = decide (id = id') := by
  have hs : id.toJson.same id'.toJson = (id.hex == id'.hex) := by
    simp [toJson, Json.same, Json.sameFields, Json.Object.get?_cons]
  rw [hs, Bool.eq_iff_iff, beq_iff_eq, decide_eq_true_iff]
  exact ⟨hex_injective, congrArg hex⟩

end Identifier

/-! ## Documents under identifiers -/

/-- What the documents have under the field of the identifier, in their order. -/
def ids (docs : List Object) : List (Option Json) :=
  docs.map (·.get? idField)

structure Keyed (docs : List Object) : Prop where
  distinct : ∀ doc ∈ docs, Object.Distinct doc
  written : ∀ doc ∈ docs, ∃ id : Identifier, doc.get? idField = some id.toJson
  nodup : (ids docs).Nodup

theorem Keyed.nil : Keyed [] :=
  ⟨nofun, nofun, .nil⟩

theorem Engine.hasId_eq {doc : Object} {id' : Identifier} (h : doc.get? idField = some id'.toJson)
    (id : Identifier) : hasId id doc = decide (id = id') := by
  unfold hasId
  rw [h]
  exact id.same_toJson id'

namespace Keyed

variable {docs : List Object}

theorem append (h : Keyed docs) {id : Identifier} (hnew : ∀ d ∈ docs, Engine.hasId id d = false)
    {doc : Object} (hd : doc.Distinct) : Keyed (docs ++ [Engine.stored id doc]) := by
  have hget : (Engine.stored id doc).get? idField = some id.toJson := by
    unfold Engine.stored
    rw [Json.Object.get?_insert, if_pos rfl]
  refine ⟨?_, ?_, ?_⟩
  · intro d hm
    rcases List.mem_append.1 hm with hm | hm
    · exact h.distinct d hm
    · rw [List.mem_singleton.1 hm]
      exact hd.insert _ _
  · intro d hm
    rcases List.mem_append.1 hm with hm | hm
    · exact h.written d hm
    · exact ⟨id, by rw [List.mem_singleton.1 hm, hget]⟩
  · unfold ids
    rw [List.map_append, List.nodup_append]
    refine ⟨h.nodup, List.pairwise_singleton _ _, ?_⟩
    rintro v hv w hw rfl
    obtain ⟨d, hm, hv⟩ := List.mem_map.1 hv
    obtain ⟨id', hid'⟩ := h.written d hm
    have hw : v = some id.toJson := (List.mem_singleton.1 hw).trans hget
    have hsame : id = id' := by
      rw [← hv, hid'] at hw
      exact Identifier.toJson_injective (Option.some.inj hw).symm
    have hno := hnew d hm
    rw [Engine.hasId_eq hid', hsame] at hno
    simp at hno

theorem sublist (h : Keyed docs) {left : List Object} (hs : left.Sublist docs) : Keyed left where
  distinct d hd := h.distinct d (hs.mem hd)
  written d hd := h.written d (hs.mem hd)
  nodup := h.nodup.sublist (hs.map _)

end Keyed

/-- A document that keeps its identifier keeps the identifiers of the list. -/
theorem ids_change {before rest : List Object} {doc doc' : Object}
    (h : doc'.get? idField = doc.get? idField) :
    ids (before ++ doc' :: rest) = ids (before ++ doc :: rest) := by
  simp [ids, h]

theorem Keyed.change {before rest : List Object} {doc doc' : Object}
    (h : Keyed (before ++ doc :: rest)) (hid : doc'.get? idField = doc.get? idField)
    (hd : doc'.Distinct) : Keyed (before ++ doc' :: rest) := by
  have hmem : ∀ d ∈ before ++ doc' :: rest, d = doc' ∨ d ∈ before ++ doc :: rest := by
    intro d hm
    rcases List.mem_append.1 hm with hm | hm
    · exact .inr (List.mem_append_left _ hm)
    · rcases List.mem_cons.1 hm with rfl | hm
      · exact .inl rfl
      · exact .inr (List.mem_append_right _ (List.mem_cons_of_mem _ hm))
  refine ⟨?_, ?_, by rw [ids_change hid]; exact h.nodup⟩
  · intro d hm
    rcases hmem d hm with rfl | hm
    · exact hd
    · exact h.distinct d hm
  · intro d hm
    rcases hmem d hm with rfl | hm
    · rw [hid]
      exact h.written doc (List.mem_append_right _ List.mem_cons_self)
    · exact h.written d hm

/-! ## Changes -/

namespace Engine

theorem get?_changed (change : Object → Object) {doc : Object} {v : Json}
    (h : doc.get? idField = some v) : (changed change doc).get? idField = some v := by
  unfold changed
  rw [h]
  show (Object.insert _ idField v).get? idField = _
  rw [Json.Object.get?_insert, if_pos rfl]

theorem distinct_changed {change : Object → Object} {doc : Object} (h : (change doc).Distinct) :
    (changed change doc).Distinct := by
  unfold changed
  split
  · exact h.insert _ _
  · exact h

/-- A change of the first match keeps the identifiers of the list, in their order. -/
theorem keyed_changeFirst {filter : Object} {change : Object → Object} {docs left : List Object}
    {n : Nat} (h : Keyed docs) (hchange : ∀ d, d.Distinct → (change d).Distinct)
    (hr : changeFirst filter (fun d => some (changed change d)) docs = .ok (n, left)) :
    Keyed left ∧ ids left = ids docs := by
  rcases changeFirst_cases hr with ⟨-, rfl, -⟩ | ⟨before, doc, rest, rfl, -, -, -, rfl⟩
  · exact ⟨h, rfl⟩
  · have hm : doc ∈ before ++ doc :: rest := List.mem_append_right _ List.mem_cons_self
    obtain ⟨id, hid⟩ := h.written doc hm
    have hkept : (changed change doc).get? idField = doc.get? idField := by
      rw [get?_changed change hid, hid]
    have hd := distinct_changed (hchange doc (h.distinct doc hm))
    exact ⟨h.change hkept hd, ids_change hkept⟩

/-- Taking out the first match takes out a document. -/
theorem sublist_deleteFirst {filter : Object} {docs left : List Object} {n : Nat}
    (hr : changeFirst filter (fun _ => none) docs = .ok (n, left)) : left.Sublist docs := by
  rcases changeFirst_cases hr with ⟨-, rfl, -⟩ | ⟨before, doc, rest, rfl, -, -, -, rfl⟩
  · exact .refl _
  · exact (List.Sublist.refl before).append (List.sublist_cons_self doc rest)

/-! ## Steps and runs -/

/-- Every collection is in order. -/
def Sound (e : Engine) : Prop :=
  ∀ nc ∈ e.collections, Keyed nc.2.documents

variable {e : Engine}

theorem Sound.put (h : e.Sound) (name : String) {c : Collection} (hc : Keyed c.documents) :
    (e.put name c).Sound := by
  intro nc hm
  rcases mem_writeTo hm with rfl | hm
  · exact hc
  · exact h nc hm

theorem Sound.documents (h : e.Sound) (name : String) : Keyed (e.documents name) := by
  unfold Engine.documents
  cases hc : e.collection? name with
  | none => exact .nil
  | some c => exact h _ (mem_of_collection? hc)

theorem Sound.changeOne (h : e.Sound) {coll : String} {filter : Object} {change : Object → Object}
    (hchange : ∀ d, d.Distinct → (change d).Distinct) :
    (e.changeOne coll filter fun d => some (changed change d)).2.Sound ∧
    ∀ name, ids ((e.changeOne coll filter fun d => some (changed change d)).2.documents name)
      = ids (e.documents name) := by
  rcases changeOne_cases e coll filter fun d => some (changed change d) with
    he | ⟨c, n, left, hc, hr, he⟩
  · rw [he]
    exact ⟨h, fun _ => rfl⟩
  · have hd := documents_of_collection? hc
    have hk : Keyed c.documents := hd ▸ h.documents coll
    obtain ⟨hleft, hids⟩ := keyed_changeFirst hk hchange hr
    rw [he]
    refine ⟨h.put coll hleft, fun name => ?_⟩
    rw [documents_put]
    split
    · next hn => rw [hn, hd]; exact hids
    · rfl

/-- A write keeps every collection in order. -/
theorem Sound.after (h : e.Sound) (call : Call) : (e.after call).Sound := by
  cases call with
  | insertOne coll fresh doc =>
    show (e.insertOne coll fresh doc.fields).2.Sound
    rcases insertOne_cases e coll fresh doc.fields with ⟨f, he⟩ | ⟨id, c, -, hc, hnew, he⟩
    · rw [he]
      exact h
    · rw [he]
      refine h.put coll ?_
      rw [hc]
      exact (h.documents coll).append hnew doc.distinct
  | replaceOne coll filter replacement =>
    exact (h.changeOne fun _ _ => replacement.distinct).1
  | updateOne coll filter u =>
    exact (h.changeOne fun _ hd => u.distinct_apply hd).1
  | deleteOne coll filter =>
    show (e.changeOne coll filter fun _ => none).2.Sound
    rcases changeOne_cases e coll filter fun _ => none with he | ⟨c, n, left, hc, hr, he⟩
    · rw [he]
      exact h
    · rw [he]
      exact h.put coll ((h _ (mem_of_collection? hc)).sublist (sublist_deleteFirst hr))
  | deleteMany coll filter =>
    show (e.deleteMany coll filter).2.Sound
    unfold deleteMany
    cases hc : e.collection? coll with
    | none => exact h
    | some c => exact h.put coll ((h _ (mem_of_collection? hc)).sublist (sweep_sublist filter _))
  | createIndex coll index keys =>
    show (e.createIndex coll index keys).2.Sound
    rcases createIndex_cases e coll index keys with he | ⟨c, rfl, he⟩
    · rw [he]
      exact h
    · rw [he]
      refine h.put coll ?_
      show Keyed ((e.collection? coll).getD {}).documents
      rw [documents_getD]
      exact h.documents coll

theorem sound_run (database : String) (calls : List Call) :
    (run { database } calls).Sound :=
  run_induction (P := Sound) (fun _ call h => h.after call) calls _ nofun

/-- After any run of writes from an empty engine, every document of every collection
stands under an identifier in its written form and no two under the same, and neither a
replacement nor an update moves or renames a document. -/
theorem run_keeps_identifiers (database : String) (calls : List Call) :
    let e := run { database } calls
    (∀ nc ∈ e.collections,
      (∀ doc ∈ nc.2.documents, ∃ v, doc.get? idField = some v ∧ IsWrittenId v) ∧
      (ids nc.2.documents).Nodup) ∧
    ∀ coll filter name,
      (∀ replacement : Document,
        ids ((e.replaceOne coll filter replacement.fields).2.documents name)
          = ids (e.documents name)) ∧
      ∀ u, ids ((e.updateOne coll filter u).2.documents name) = ids (e.documents name) := by
  intro e
  have h : e.Sound := sound_run database calls
  refine ⟨fun nc hm => ⟨fun doc hd => ?_, (h nc hm).nodup⟩, fun coll filter name => ⟨?_, ?_⟩⟩
  · obtain ⟨id, hid⟩ := (h nc hm).written doc hd
    exact ⟨id.toJson, hid, id.isWrittenId_toJson⟩
  · exact fun replacement => (h.changeOne fun _ _ => replacement.distinct).2 name
  · exact fun u => (h.changeOne fun _ hd => u.distinct_apply hd).2 name

end Engine

end DocStore
