import DocStore.Error
import DocStore.Proofs.PartialUpdate
import Mathlib.Logic.Function.Basic

/-!
The keyed store: what a store amounts to for those who go by identifiers.

A keyed store has one table for each collection: rows of an identifier and an object in
order of insertion, no identifier twice (`Table`).  The five calls that name a document by
its identifier (`ById`) append a row, read one, or change one in place; each gives its
answer and the keyed store after it (`KeyedStore.call`).

    id ∉ t.ids → t.change id f = t                           (Table.change_of_not_mem)
-/

namespace DocStore

/-! ## Tables -/

structure Row where
  id : Identifier
  object : Document

/-- The rows of a collection in order of insertion. -/
structure Table where
  rows : List Row
  nodup : (rows.map (·.id)).Nodup

/-- The row that a change of the object under an identifier leaves; none when the object
goes. -/
def Row.change (id : Identifier) (f : Document → Option Document) (r : Row) : Option Row :=
  if r.id = id then (f r.object).map fun o => { r with object := o } else some r

theorem Row.id_of_change {id : Identifier} {f : Document → Option Document} {r r' : Row}
    (h : r.change id f = some r') : r'.id = r.id := by
  unfold change at h
  split at h
  · obtain ⟨o, -, rfl⟩ := Option.map_eq_some_iff.1 h
    rfl
  · cases h
    rfl

theorem ids_filterMap_change (id : Identifier) (f : Document → Option Document)
    (rows : List Row) :
    ((rows.filterMap (Row.change id f)).map (·.id)).Sublist (rows.map (·.id)) := by
  induction rows with
  | nil => exact .slnil
  | cons r rows ih =>
    cases hr : r.change id f with
    | none =>
      rw [List.filterMap_cons_none hr]
      exact ih.cons r.id
    | some r' =>
      rw [List.filterMap_cons_some hr, List.map_cons, Row.id_of_change hr]
      exact ih.cons_cons r.id

namespace Table

def ids (t : Table) : List Identifier :=
  t.rows.map (·.id)

def find? (t : Table) (id : Identifier) : Option Row :=
  t.rows.find? fun r => r.id = id

/-- Append a row, unless its identifier is taken. -/
def append? (t : Table) (r : Row) : Option Table :=
  if h : r.id ∈ t.ids then none
  else
    some {
      rows := t.rows ++ [r]
      nodup := by
        rw [List.map_append, List.nodup_append]
        refine ⟨t.nodup, List.pairwise_singleton _ _, ?_⟩
        rintro id hid _ hr rfl
        rw [List.map_singleton, List.mem_singleton] at hr
        exact h (hr ▸ hid) }

/-- Change the object under an identifier in its place; none takes the row out. -/
def change (t : Table) (id : Identifier) (f : Document → Option Document) : Table where
  rows := t.rows.filterMap (Row.change id f)
  nodup := t.nodup.sublist (ids_filterMap_change id f t.rows)

theorem filterMap_change_of_not_mem {id : Identifier} {rows : List Row}
    (h : id ∉ rows.map (·.id)) (f : Document → Option Document) :
    rows.filterMap (Row.change id f) = rows := by
  induction rows with
  | nil => rfl
  | cons r rows ih =>
    rw [List.map_cons, List.mem_cons, not_or] at h
    obtain ⟨hr, hrows⟩ := h
    have hkept : r.change id f = some r := if_neg (Ne.symm hr)
    rw [List.filterMap_cons_some hkept, ih hrows]

/-- Nothing stands under an absent identifier that a change could reach. -/
theorem change_of_not_mem {t : Table} {id : Identifier} (h : id ∉ t.ids)
    (f : Document → Option Document) : t.change id f = t := by
  obtain ⟨rows, nodup⟩ := t
  unfold change
  simp only [filterMap_change_of_not_mem h]

theorem change_some (t : Table) (id : Identifier) : t.change id some = t := by
  obtain ⟨rows, nodup⟩ := t
  have hkept : Row.change id some = some := by
    funext r
    unfold Row.change
    split <;> rfl
  unfold change
  simp only [hkept, List.filterMap_some]

end Table

/-! ## Calls -/

/-- The calls that name a document by its identifier; `fresh` is the identifier that an
insertion generates. -/
inductive ById where
  | insert (coll : String) (fresh : Identifier) (doc : Document)
  | findById (coll id : String)
  | replaceById (coll id : String) (object : Document)
  | updateById (coll id : String) (candidate : Document) (touched : List String)
  | removeById (coll id : String)

/-- An answer that shows a found document as a `ρ`. -/
inductive Answer (ρ : Type) where
  | inserted (id : String)
  | found (r : Option ρ)
  | done
  | failed (cause : StoreError)

/-- Calls made one after the other: the answers to them, and the state after them. -/
def perform {σ ρ : Type} (call : σ → ById → Answer ρ × σ) (s : σ) :
    List ById → List (Answer ρ) × σ
  | [] => ([], s)
  | c :: calls =>
    let (a, s) := call s c
    let (as, s) := perform call s calls
    (a :: as, s)

/-! ## Keyed stores -/

structure KeyedStore where
  /-- The name that duplicates are reported with. -/
  database : String
  table : String → Table

/-- The identifier that a document is to stand under: its own, unless that is missing or
null. -/
def Document.idOr (d : Document) (fresh : Identifier) : Except Identifier.Fault Identifier :=
  match d.fields.get? idField with
  | none => .ok fresh
  | some v => if v.isNull then .ok fresh else Identifier.ofJson v

namespace KeyedStore

def put (k : KeyedStore) (coll : String) (t : Table) : KeyedStore :=
  { k with table := Function.update k.table coll t }

theorem put_table (k : KeyedStore) (coll : String) : k.put coll (k.table coll) = k := by
  unfold put
  rw [Function.update_eq_self]

def duplicate (k : KeyedStore) (coll : String) (id : Identifier) : StoreError :=
  .storage ("duplicate key error: " ++ k.database ++ "." ++ coll ++ " _id " ++ id.hex)

/-- Append the document under its own identifier or the fresh one. -/
def insert (k : KeyedStore) (coll : String) (fresh : Identifier) (doc : Document) :
    Answer Row × KeyedStore :=
  match doc.idOr fresh with
  | .error cause => (.failed (.invalidIdentifier cause.message), k)
  | .ok id =>
    match (k.table coll).append? ⟨id, doc.without idField⟩ with
    | none => (.failed (k.duplicate coll id), k)
    | some t => (.inserted id.hex, k.put coll t)

def findById (k : KeyedStore) (coll text : String) : Answer Row × KeyedStore :=
  match Identifier.ofText text with
  | .error cause => (.failed (.invalidIdentifier cause.message), k)
  | .ok id => (.found ((k.table coll).find? id), k)

/-- A change of the object under an identifier that is given as text. -/
def onId (k : KeyedStore) (coll text : String) (f : Document → Option Document) :
    Answer Row × KeyedStore :=
  match Identifier.ofText text with
  | .error cause => (.failed (.invalidIdentifier cause.message), k)
  | .ok id => (.done, k.put coll ((k.table coll).change id f))

def call (k : KeyedStore) : ById → Answer Row × KeyedStore
  | .insert coll fresh doc => k.insert coll fresh doc
  | .findById coll text => k.findById coll text
  | .replaceById coll text object => k.onId coll text fun _ => some (object.without idField)
  | .updateById coll text candidate touched =>
    k.onId coll text fun o => some (o.overwrite candidate touched)
  | .removeById coll text => k.onId coll text fun _ => none

end KeyedStore

end DocStore
