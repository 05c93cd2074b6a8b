import DocStore.Proofs.Identity
import DocStore.Proofs.KeyedStore
import DocStore.Store
import Mathlib.Data.List.Forall2

/-!
Engines that represent keyed stores.

A collection's documents stand for the rows of a table one by one: each is its row's
object with the identifier, up to the order of keys (`Holds`).  On such documents the
filter of an identifier is never at fault and matches the one row under it, so that what
the engine does through that filter is what the table does by identifier.

    doc.get? idField = some id'.toJson
      → matches? (idFilter id) doc = .ok (decide (id' = id)) (Store.matches?_idFilter)
    Represents e k → findOne, insertOne and changeOne keep it, and find the same
                                                   (Represents.findOne, .insertOne, .changeOne)
    after any run of writes an engine represents a keyed store
                                                             (Sound.exists_represents)
-/

namespace DocStore

open Json (Object)

/-! ## The field of the identifier -/

section

variable {doc : Object} {id' : Identifier} (h : doc.get? idField = some id'.toJson)

include h

theorem Json.lookup_idField : lookup doc idField = some id'.toJson := by
  have hkey : '.' ∉ idField.toList := by decide
  rw [lookup_of_not_mem doc hkey, h]

/-- As a value, an identifier equals the one that a document is under. -/
theorem Filter.equals_idField (id : Identifier) :
    equals (Json.lookup doc idField) id.toJson = decide (id' = id) := by
  rw [Json.lookup_idField h]
  exact id'.same_toJson id

/-- The filter of an identifier is a literal, never operators, and matches the document under
that identifier. -/
theorem Store.matches?_idFilter (id : Identifier) :
    Filter.matches? (idFilter id) doc = .ok (decide (id' = id)) := by
  have hentry : Filter.matchEntry idField id.toJson doc
      = .ok (Filter.equals (Json.lookup doc idField) id.toJson) := by
    unfold Identifier.toJson Filter.matchEntry
    rfl
  show Filter.matchEntries [(idField, id.toJson)] doc = _
  unfold Filter.matchEntries
  rw [hentry, Filter.equals_idField h]
  cases decide (id' = id) <;> rfl

end

/-! ## Documents and rows -/

/-- A stored document stands for a row: it is the object with the identifier, up to the
order of keys. -/
structure Holds (doc : Object) (r : Row) : Prop where
  distinct : doc.Distinct
  perm : doc.Perm ((idField, r.id.toJson) :: r.object.fields)

namespace Holds

variable {doc : Object} {r : Row}

/-- The object of a row has no field of the identifier. -/
theorem get?_object (h : Holds doc r) : r.object.fields.get? idField = none := by
  have hd : Object.Distinct ((idField, r.id.toJson) :: r.object.fields) := h.distinct.perm h.perm
  rw [Json.Object.get?_eq_none_iff]
  exact (List.nodup_cons.1 hd).1

theorem get?_eq (h : Holds doc r) (key : String) :
    doc.get? key = if key = idField then some r.id.toJson else r.object.fields.get? key := by
  rw [(Json.Object.perm_iff_get? h.distinct (h.distinct.perm h.perm)).1 h.perm key,
    Json.Object.get?_cons]

theorem get?_id (h : Holds doc r) : doc.get? idField = some r.id.toJson := by
  rw [h.get?_eq, if_pos rfl]

theorem of_get? (hd : doc.Distinct) (ho : r.object.fields.get? idField = none)
    (h : ∀ key, doc.get? key
      = if key = idField then some r.id.toJson else r.object.fields.get? key) :
    Holds doc r where
  distinct := hd
  perm := by
    have hrow : Object.Distinct ((idField, r.id.toJson) :: r.object.fields) :=
      List.nodup_cons.2 ⟨(Json.Object.get?_eq_none_iff _ _).1 ho, r.object.distinct⟩
    rw [Json.Object.perm_iff_get? hd hrow]
    intro key
    rw [h, Json.Object.get?_cons]

/-- To write the identifier into an object makes the document of a row. -/
theorem insert {o : Document} (hd : doc.Distinct) (ho : o.fields.get? idField = none)
    (h : ∀ key, key ≠ idField → doc.get? key = o.fields.get? key) (id : Identifier) :
    Holds (Object.insert doc idField id.toJson) ⟨id, o⟩ := by
  refine of_get? (hd.insert _ _) ho fun key => ?_
  rw [Json.Object.get?_insert]
  by_cases hk : key = idField
  · rw [if_pos hk, if_pos hk]
  · rw [if_neg hk, if_neg hk]
    exact h key hk

/-- A document under a written identifier stands for a row. -/
theorem exists_row (hd : doc.Distinct) {id : Identifier}
    (hid : doc.get? idField = some id.toJson) : ∃ r, Holds doc r := by
  refine ⟨⟨id, (Document.mk doc hd).without idField⟩, of_get? hd ?_ fun key => ?_⟩
  · rw [Document.get?_without, if_pos rfl]
  · rw [Document.get?_without]
    by_cases hk : key = idField
    · rw [if_pos hk, hk, hid]
    · rw [if_neg hk, if_neg hk]

/-- What is left of the document without the identifier is the object. -/
theorem erase_perm (h : Holds doc r) : (Object.erase doc idField).Perm r.object.fields := by
  rw [Json.Object.perm_iff_get? (h.distinct.erase _) r.object.distinct]
  intro key
  rw [Json.Object.get?_erase h.distinct, h.get?_eq]
  by_cases hk : key = idField
  · rw [if_pos hk, hk, h.get?_object]
  · rw [if_neg hk, if_neg hk]

theorem hasId_eq (h : Holds doc r) (id : Identifier) :
    Engine.hasId id doc = decide (id = r.id) :=
  Engine.hasId_eq h.get?_id id

end Holds

/-! ## Collections and tables -/

theorem selectMatching_holds {docs : List Object} {rows : List Row}
    (h : List.Forall₂ Holds docs rows) (id : Identifier) :
    ∃ found, Engine.selectMatching (Store.idFilter id) docs = .ok found ∧
      List.Forall₂ Holds found (rows.filter fun r => r.id = id) := by
  induction h with
  | nil => exact ⟨[], rfl, .nil⟩
  | @cons doc r docs rows hd _ ih =>
    obtain ⟨found, hfound, hrows⟩ := ih
    unfold Engine.selectMatching
    rw [Store.matches?_idFilter hd.get?_id id, hfound]
    by_cases hid : r.id = id
    · refine ⟨doc :: found, by simp [hid], ?_⟩
      rw [List.filter_cons_of_pos (by simp [hid])]
      exact .cons hd hrows
    · refine ⟨found, by simp [hid], ?_⟩
      rw [List.filter_cons_of_neg (by simp [hid])]
      exact hrows

/-- To change the first match of an identifier's filter is to change the row under it:
no other row stands under that identifier. -/
theorem changeFirst_holds {docs : List Object} {rows : List Row}
    (h : List.Forall₂ Holds docs rows) (hnodup : (rows.map (·.id)).Nodup) (id : Identifier)
    {change : Object → Option Object} {f : Document → Option Document}
    (hchange : ∀ doc r, Holds doc r → r.id = id →
      Option.Rel Holds (change doc) (r.change id f)) :
    ∃ n left, Engine.changeFirst (Store.idFilter id) change docs = .ok (n, left) ∧
      List.Forall₂ Holds left (rows.filterMap (Row.change id f)) := by
  induction h with
  | nil => exact ⟨0, [], rfl, .nil⟩
  | @cons doc r docs rows hd hrest ih =>
    obtain ⟨hr, hrows⟩ := List.nodup_cons.1 hnodup
    unfold Engine.changeFirst
    rw [Store.matches?_idFilter hd.get?_id id]
    by_cases hid : r.id = id
    · have hstay : rows.filterMap (Row.change id f) = rows :=
        Table.filterMap_change_of_not_mem (hid ▸ hr) f
      refine ⟨1, (change doc).toList ++ docs, by simp [hid], ?_⟩
      have hrel := hchange doc r hd hid
      generalize change doc = left at hrel ⊢
      generalize hrow : r.change id f = row at hrel
      cases hrel with
      | none =>
        rw [List.filterMap_cons_none hrow, hstay]
        exact hrest
      | some hd' =>
        rw [List.filterMap_cons_some hrow, hstay]
        exact .cons hd' hrest
    · obtain ⟨n, left, hleft, hholds⟩ := ih hrows
      have hrow : r.change id f = some r := if_neg hid
      refine ⟨n, doc :: left, by simp [hid, hleft], ?_⟩
      rw [List.filterMap_cons_some hrow]
      exact .cons hd hholds

theorem any_hasId_holds {docs : List Object} {rows : List Row}
    (h : List.Forall₂ Holds docs rows) (id : Identifier) :
    docs.any (Engine.hasId id) = decide (id ∈ rows.map (·.id)) := by
  induction h with
  | nil => rfl
  | cons hd _ ih => simp [hd.hasId_eq, ih]

theorem ids_holds {docs : List Object} {rows : List Row} (h : List.Forall₂ Holds docs rows) :
    ids docs = (rows.map (·.id)).map fun id => some id.toJson := by
  induction h with
  | nil => rfl
  | @cons doc r docs rows hd _ ih =>
    show doc.get? idField :: ids docs = _
    rw [hd.get?_id, ih]
    rfl

theorem exists_rows {docs : List Object} (h : ∀ doc ∈ docs, ∃ r, Holds doc r) :
    ∃ rows, List.Forall₂ Holds docs rows := by
  induction docs with
  | nil => exact ⟨[], .nil⟩
  | cons doc docs ih =>
    obtain ⟨hdoc, hdocs⟩ := List.forall_mem_cons.1 h
    obtain ⟨r, hr⟩ := hdoc
    obtain ⟨rows, hrows⟩ := ih hdocs
    exact ⟨r :: rows, .cons hr hrows⟩

/-- Documents under identifiers of which no two are the same make a table. -/
theorem Keyed.exists_table {docs : List Object} (h : Keyed docs) :
    ∃ t : Table, List.Forall₂ Holds docs t.rows := by
  have hrow : ∀ doc ∈ docs, ∃ r, Holds doc r := by
    intro doc hm
    obtain ⟨id, hid⟩ := h.written doc hm
    exact Holds.exists_row (h.distinct doc hm) hid
  obtain ⟨rows, hrows⟩ := exists_rows hrow
  have hnodup := h.nodup
  rw [ids_holds hrows] at hnodup
  exact ⟨⟨rows, List.Nodup.of_map _ hnodup⟩, hrows⟩

/-! ## Engines and keyed stores -/

namespace Engine

/-- The documents of every collection stand for the rows of its table. -/
structure Represents (e : Engine) (k : KeyedStore) : Prop where
  database : e.database = k.database
  holds : ∀ coll, List.Forall₂ Holds (e.documents coll) (k.table coll).rows

theorem Sound.exists_represents {e : Engine} (h : e.Sound) : ∃ k, e.Represents k := by
  choose table htable using fun coll => (h.documents coll).exists_table
  exact ⟨⟨e.database, table⟩, rfl, htable⟩

namespace Represents

variable {e : Engine} {k : KeyedStore}

theorem put (h : e.Represents k) (coll : String) {c : Collection} {t : Table}
    (hc : List.Forall₂ Holds c.documents t.rows) : (e.put coll c).Represents (k.put coll t) := by
  refine ⟨h.database, fun coll' => ?_⟩
  rw [documents_put]
  show List.Forall₂ Holds _ (Function.update k.table coll t coll').rows
  by_cases hn : coll' = coll
  · rw [if_pos hn, hn, Function.update_self]
    exact hc
  · rw [if_neg hn, Function.update_of_ne hn]
    exact h.holds coll'

theorem changeOne (h : e.Represents k) (coll : String) (id : Identifier)
    {change : Object → Option Object} {f : Document → Option Document}
    (hchange : ∀ doc r, Holds doc r → r.id = id →
      Option.Rel Holds (change doc) (r.change id f)) :
    ∃ n e', e.changeOne coll (Store.idFilter id) change = (.ok n, e') ∧
      e'.Represents (k.put coll ((k.table coll).change id f)) := by
  have hdocs := h.holds coll
  unfold Engine.changeOne
  cases hc : e.collection? coll with
  | none =>
    have hnone : e.documents coll = [] := by
      unfold documents
      rw [hc]
      rfl
    have habsent : id ∉ (k.table coll).ids := by
      rw [hnone, List.forall₂_nil_left_iff] at hdocs
      unfold Table.ids
      rw [hdocs]
      exact List.not_mem_nil
    refine ⟨0, e, rfl, ?_⟩
    rw [Table.change_of_not_mem habsent, KeyedStore.put_table]
    exact h
  | some c =>
    rw [documents_of_collection? hc] at hdocs
    obtain ⟨n, left, hleft, hrows⟩ := changeFirst_holds hdocs (k.table coll).nodup id hchange
    refine ⟨n, e.put coll { c with documents := left }, ?_, h.put coll hrows⟩
    simp only [hleft]

/-- A change of the fields of a document, whose identifier stays. -/
theorem changeFields (h : e.Represents k) (coll : String) (id : Identifier)
    {change : Object → Object} {f : Document → Document}
    (hchange : ∀ doc r, Holds doc r → (change doc).Distinct ∧
      ∀ key, (f r.object).fields.get? key
        = if key = idField then none else (change doc).get? key) :
    ∃ n e', e.changeOne coll (Store.idFilter id) (fun d => some (changed change d)) = (.ok n, e') ∧
      e'.Represents (k.put coll ((k.table coll).change id fun o => some (f o))) := by
  refine h.changeOne coll id fun doc r hd hid => ?_
  obtain ⟨hdist, hkeys⟩ := hchange doc r hd
  have hrow : r.change id (fun o => some (f o)) = some ⟨r.id, f r.object⟩ := if_pos hid
  have hdoc : changed change doc = (change doc).insert idField r.id.toJson := by
    unfold changed
    rw [hd.get?_id]
  rw [hrow, hdoc]
  refine .some (.insert hdist ?_ ?_ r.id)
  · rw [hkeys, if_pos rfl]
  · intro key hk
    rw [hkeys, if_neg hk]

/-- The first document found under an identifier stands for the row found. -/
theorem findOne (h : e.Represents k) (coll : String) (id : Identifier) :
    ∃ doc, e.findOne coll { filter := Store.idFilter id } = .ok doc ∧
      Option.Rel Holds doc ((k.table coll).find? id) := by
  obtain ⟨found, hfound, hrows⟩ := selectMatching_holds (h.holds coll) id
  refine ⟨found.head?, ?_, ?_⟩
  · unfold Engine.findOne Engine.find
    simp only [hfound]
    show Except.ok (found.take 1).head? = _
    rw [List.head?_take, if_neg Nat.one_ne_zero]
  · unfold Table.find?
    rw [← List.head?_filter]
    generalize (k.table coll).rows.filter (fun r => r.id = id) = rows at hrows ⊢
    cases hrows with
    | nil => exact .none
    | cons hd _ => exact .some hd

theorem insertOne (h : e.Represents k) (coll : String) {fresh id : Identifier} {doc : Object}
    {o : Document} (hid : idFor fresh doc = .ok id) (hd : doc.Distinct)
    (ho : o.fields.get? idField = none)
    (hkeys : ∀ key, key ≠ idField → doc.get? key = o.fields.get? key) :
    (id ∈ (k.table coll).ids ∧
      e.insertOne coll fresh doc = (.error (.duplicate e.database coll id), e)) ∨
    ∃ t e', (k.table coll).append? ⟨id, o⟩ = some t ∧
      e.insertOne coll fresh doc = (.ok id, e') ∧ e'.Represents (k.put coll t) := by
  rw [insertOne_of_idFor hid, any_hasId_holds (h.holds coll)]
  by_cases hm : id ∈ (k.table coll).ids
  · have hin : decide (id ∈ (k.table coll).rows.map (·.id)) = true := decide_eq_true hm
    rw [hin, if_pos rfl]
    exact .inl ⟨hm, rfl⟩
  · have hout : decide (id ∈ (k.table coll).rows.map (·.id)) = false := decide_eq_false hm
    rw [hout, if_neg Bool.false_ne_true]
    refine .inr ⟨_, _, dif_neg hm, rfl, h.put coll ?_⟩
    exact List.rel_append (h.holds coll) (.cons (.insert hd ho hkeys id) .nil)

end Represents

end Engine

end DocStore
