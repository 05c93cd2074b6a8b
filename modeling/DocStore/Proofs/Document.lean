import DocStore.Json
import Mathlib.Data.List.Nodup
import Mathlib.Data.List.Perm.Lattice

/-!
Documents: objects in which no key stands twice (`Document`), and objects up to the order
of their entries.

    o.Perm p ↔ ∀ key, o.get? key = p.get? key                (perm_iff_get?)
    (d.without k).fields.get? key =
      if key = k then none else d.fields.get? key            (get?_without)
-/

namespace DocStore

open Json (Object)

namespace Json.Object

/-! ## Entries up to order -/

variable {o p : Object}

theorem Distinct.nodup (h : o.Distinct) : o.Nodup :=
  List.Nodup.of_map _ h

theorem Distinct.filter (h : o.Distinct) (keep : String × Json → Bool) :
    Distinct (o.filter keep) :=
  h.sublist (List.filter_sublist.map _)

theorem Distinct.perm (h : o.Distinct) (hp : o.Perm p) : p.Distinct :=
  (hp.map _).nodup_iff.1 h

/-- Objects are the same up to order exactly when every key is read alike. -/
theorem perm_iff_get? (ho : o.Distinct) (hp : p.Distinct) :
    o.Perm p ↔ ∀ key, o.get? key = p.get? key := by
  constructor
  · intro h key
    apply Option.ext
    intro v
    rw [← mem_iff_get? ho, ← mem_iff_get? hp, h.mem_iff]
  · intro h
    rw [List.perm_ext_iff_of_nodup ho.nodup hp.nodup]
    rintro ⟨key, v⟩
    rw [mem_iff_get? ho, mem_iff_get? hp, h]

/-! ## Written again -/

theorem insert_of_get? {key : String} {v : Json} (h : o.get? key = some v) :
    o.insert key v = o := by
  induction o with
  | nil => cases h
  | cons e o ih =>
    obtain ⟨k, w⟩ := e
    rw [get?_cons] at h
    unfold insert
    by_cases hk : k = key
    · rw [if_pos hk.symm] at h
      cases h
      rw [if_pos hk]
    · rw [if_neg (Ne.symm hk)] at h
      rw [if_neg hk, ih h]

theorem erase_of_get? {key : String} (h : o.get? key = none) : o.erase key = o := by
  induction o with
  | nil => rfl
  | cons e o ih =>
    obtain ⟨k, w⟩ := e
    rw [get?_cons] at h
    unfold erase
    by_cases hk : key = k
    · rw [if_pos hk] at h
      cases h
    · rw [if_neg hk] at h
      rw [if_neg (Ne.symm hk), ih h]

theorem insert_of_not_mem {key : String} (h : key ∉ o.keys) (v : Json) :
    o.insert key v = o ++ [(key, v)] := by
  induction o with
  | nil => rfl
  | cons e o ih =>
    obtain ⟨k, w⟩ := e
    obtain ⟨hk, ho⟩ : key ≠ k ∧ key ∉ keys o := by
      rwa [keys, List.map_cons, List.mem_cons, not_or] at h
    unfold insert
    rw [if_neg (Ne.symm hk), ih ho]
    rfl

/-- Entries under different keys are their object. -/
theorem ofEntries_of_distinct (h : o.Distinct) : ofEntries o = o := by
  have gen : ∀ es o : Object, Distinct (o ++ es) →
      es.foldl (fun o e => Object.insert o e.1 e.2) o = o ++ es := by
    intro es
    induction es with
    | nil => exact fun o _ => (List.append_nil o).symm
    | cons e es ih =>
      intro o h
      have hnew : e.1 ∉ o.keys := by
        intro hm
        unfold Distinct keys at h
        rw [List.map_append, List.nodup_append] at h
        exact h.2.2 e.1 hm e.1 List.mem_cons_self rfl
      rw [List.foldl_cons, insert_of_not_mem hnew, ih _ (by rwa [List.append_assoc]),
        List.append_assoc]
      rfl
  exact gen o [] h

end Json.Object

/-! ## Documents -/

/-- An object in which no key stands twice. -/
structure Document where
  fields : Object
  distinct : fields.Distinct

/-- A document without one of its keys. -/
def Document.without (d : Document) (key : String) : Document where
  fields := d.fields.filter fun e => e.1 ≠ key
  distinct := d.distinct.filter _

theorem Document.get?_without (d : Document) (k key : String) :
    (d.without k).fields.get? key = if key = k then none else d.fields.get? key := by
  have hp : (d.fields.erase k).Perm (d.without k).fields := Object.erase_perm d.distinct k
  rw [← (Object.perm_iff_get? (d.distinct.erase k) (d.without k).distinct).1 hp key,
    Object.get?_erase d.distinct]

end DocStore
