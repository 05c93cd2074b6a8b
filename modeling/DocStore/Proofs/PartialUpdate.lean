import DocStore.Proofs.Document
import DocStore.Update

/-!
What a partial update does to a document, key by key.

A key is touched when it is the first segment of a touched path and neither empty nor the
identifier's (`isTouched`).  A touched key gets the candidate's value, or goes when there
is none; every other key stays.

    ((ofTouched candidate paths).apply doc).get? key =
      if isTouched paths key then valueIn candidate key else doc.get? key
                                                             (get?_apply_ofTouched)

`Document.overwrite` says the same of whole documents, without an update in between.
-/

namespace DocStore

open Json (Object)

/-- Whether a key is the top level of one of the paths. -/
def isTouched (paths : List String) (key : String) : Bool :=
  key != "" && key != idField && paths.any fun p => (Json.segments p).head? == some key

theorem isTouched_idField (paths : List String) : isTouched paths idField = false := by
  unfold isTouched
  rw [bne_self_eq_false, Bool.and_false, Bool.false_and]

namespace Update

theorem mem_touchedFields (paths : List String) (key : String) :
    key ∈ touchedFields paths ↔ isTouched paths key = true := by
  unfold touchedFields isTouched
  rw [mem_sortTexts, List.mem_filter, List.mem_filterMap]
  simp [and_comm]

/-! ## Single fields -/

/-- Writing the values that there are, key after key. -/
theorem get?_foldl_insert (value : String → Option Json) (keys : List String) (doc : Object)
    (key : String) :
    ((keys.filterMap fun k => (value k).map (k, ·)).foldl
        (fun d e => Object.insert d e.1 e.2) doc).get? key
      = if key ∈ keys ∧ (value key).isSome then value key else doc.get? key := by
  induction keys generalizing doc with
  | nil => simp
  | cons k keys ih =>
    cases hv : value k with
    | none =>
      rw [List.filterMap_cons_none (by rw [hv]; rfl), ih]
      by_cases hk : key = k
      · simp [hk, hv]
      · simp [hk]
    | some v =>
      rw [List.filterMap_cons_some (by rw [hv]; rfl), List.foldl_cons, ih, Object.get?_insert]
      by_cases hk : key = k
      · simp [hk, hv]
      · simp [hk]

theorem get?_foldl_erase (keys : List String) {doc : Object} (h : doc.Distinct) (key : String) :
    (keys.foldl (fun d k => Object.erase d k) doc).get? key
      = if key ∈ keys then none else doc.get? key := by
  induction keys generalizing doc with
  | nil => simp
  | cons k keys ih =>
    rw [List.foldl_cons, ih (h.erase k), Object.get?_erase h]
    by_cases hk : key = k
    · simp [hk]
    · simp [hk]

theorem distinct_foldl_insert (es : Object) {doc : Object} (h : doc.Distinct) :
    (es.foldl (fun d e => Object.insert d e.1 e.2) doc).Distinct := by
  induction es generalizing doc with
  | nil => exact h
  | cons e es ih => exact ih (h.insert e.1 e.2)

theorem distinct_foldl_erase (keys : List String) {doc : Object} (h : doc.Distinct) :
    (keys.foldl (fun d k => Object.erase d k) doc).Distinct := by
  induction keys generalizing doc with
  | nil => exact h
  | cons k keys ih => exact ih (h.erase k)

/-! ## Whole updates -/

theorem distinct_apply (u : Update) {doc : Object} (h : doc.Distinct) : (u.apply doc).Distinct :=
  distinct_foldl_erase _ (distinct_foldl_insert _ h)

/-- An update touches exactly the touched keys. -/
theorem get?_apply_ofTouched (candidate : Object) (paths : List String) {doc : Object}
    (h : doc.Distinct) (key : String) :
    ((ofTouched candidate paths).apply doc).get? key
      = if isTouched paths key then valueIn candidate key else doc.get? key := by
  unfold apply ofTouched
  rw [get?_foldl_erase _ (distinct_foldl_insert _ h), get?_foldl_insert]
  simp only [List.mem_filter, mem_touchedFields]
  cases isTouched paths key with
  | false => simp
  | true =>
    cases valueIn candidate key with
    | none => simp
    | some v => simp

/-- An update without fields to write or take out has no touched key. -/
theorem isTouched_of_isEmpty {candidate : Object} {paths : List String}
    (h : (ofTouched candidate paths).isEmpty = true) (key : String) :
    isTouched paths key = false := by
  unfold isEmpty ofTouched at h
  rw [Bool.and_eq_true, List.isEmpty_iff, List.isEmpty_iff, List.filterMap_eq_nil_iff,
    List.filter_eq_nil_iff] at h
  obtain ⟨hset, hunset⟩ := h
  rw [← Bool.not_eq_true, ← mem_touchedFields]
  intro hm
  have hno := hset key hm
  rw [Option.map_eq_none_iff] at hno
  exact hunset key hm (by rw [hno]; rfl)

theorem valueIn_eq_some_iff (candidate : Object) (key : String) (v : Json) :
    valueIn candidate key = some v ↔ candidate.get? key = some v ∧ v.isNull = false := by
  unfold valueIn
  split
  · next h =>
    rw [h]
    constructor
    · nofun
    · rintro ⟨hv, hnull⟩
      cases hv
      cases hnull
  · next hne =>
    constructor
    · intro h
      refine ⟨h, ?_⟩
      cases v with
      | null => exact absurd h hne
      | _ => rfl
    · exact And.left

end Update

/-! ## Overwriting -/

namespace Document

/-- A document with the entries that a candidate has for the touched keys, those of null
left out, in the place of its own. -/
def overwrite (d candidate : Document) (paths : List String) : Document where
  fields :=
    d.fields.filter (fun e => !isTouched paths e.1)
      ++ candidate.fields.filter fun e => isTouched paths e.1 && !e.2.isNull
  distinct := by
    unfold Object.Distinct Object.keys
    rw [List.map_append]
    refine List.nodup_append.2 ⟨d.distinct.filter _, candidate.distinct.filter _, ?_⟩
    intro k hk k' hk' he
    obtain ⟨e, hm, rfl⟩ := List.mem_map.1 hk
    obtain ⟨e', hm', rfl⟩ := List.mem_map.1 hk'
    have hno := (List.mem_filter.1 hm).2
    have hyes := (List.mem_filter.1 hm').2
    rw [Bool.and_eq_true, ← he] at hyes
    rw [hyes.1] at hno
    cases hno

theorem get?_overwrite (d candidate : Document) (paths : List String) (key : String) :
    (d.overwrite candidate paths).fields.get? key
      = if isTouched paths key then Update.valueIn candidate.fields key
        else d.fields.get? key := by
  apply Option.ext
  intro v
  rw [← Object.mem_iff_get? (d.overwrite candidate paths).distinct]
  unfold overwrite
  rw [List.mem_append, List.mem_filter, List.mem_filter, Object.mem_iff_get? d.distinct,
    Object.mem_iff_get? candidate.distinct]
  cases isTouched paths key with
  | false => simp
  | true => simp [Update.valueIn_eq_some_iff]

theorem overwrite_of_untouched (d candidate : Document) {paths : List String}
    (h : ∀ key, isTouched paths key = false) : d.overwrite candidate paths = d := by
  obtain ⟨fields, distinct⟩ := d
  unfold overwrite
  simp [h]

end Document

end DocStore
