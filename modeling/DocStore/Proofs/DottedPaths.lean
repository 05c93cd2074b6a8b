import DocStore.Proofs.Equality

/-!
Paths that go on behind a dot.

A path is followed key by key, each in the object to which the one before it has led.  So what
stands behind a dot is looked up in the object that is found in front of it, and nowhere else:

    lookup doc (p ++ "." ++ q) = ((lookup doc p).bind object?).bind (lookup · q)
                                                             (lookup_dot)

The empty key is a key as any other, so that a dot at the end of a path leads one level deeper;
a path and one that goes on behind it never end at the same value (`length_add_sizeOf_descend`).
This law and the look-up of keys that have no dot fix the look-up of every path
                                                             (eq_lookup).
-/

namespace DocStore

open Json (Object)

namespace Json

/-! ## Keys one after the other -/

/-- Every key leads at least one level deeper. -/
theorem length_add_sizeOf_descend {v w : Json} {keys : List String}
    (h : v.descend keys = some w) : keys.length + sizeOf w ≤ sizeOf v := by
  induction keys generalizing v with
  | nil =>
    cases h
    simp
  | cons key keys ih =>
    rw [descend_cons] at h
    obtain ⟨u, hu, hw⟩ := Option.bind_eq_some_iff.1 h
    cases v with
    | obj o =>
      have hmem : (key, u) ∈ o := Object.mem_of_get? hu
      have hlt : sizeOf (key, u) < sizeOf o := List.sizeOf_lt_of_mem hmem
      have hle := ih hw
      simp only [Prod.mk.sizeOf_spec] at hlt
      simp only [obj.sizeOf_spec, List.length_cons]
      omega
    | _ => cases hu

/-- A path leads from an object only. -/
theorem descend_segments (v : Json) (path : String) :
    v.descend (segments path) = v.object?.bind (lookup · path) := by
  cases v with
  | obj o => rfl
  | _ =>
    obtain ⟨key, keys, hs⟩ := List.exists_cons_of_ne_nil (segments_ne_nil path)
    rw [hs]
    rfl

/-! ## Look-up -/

theorem lookup_empty (doc : Object) : lookup doc "" = doc.get? "" :=
  lookup_of_not_mem doc (by simp)

/-- What stands behind a dot is looked up in the object in front of it. -/
theorem lookup_dot (doc : Object) (p q : String) :
    lookup doc (p ++ "." ++ q) = ((lookup doc p).bind object?).bind (lookup · q) := by
  have hsplit := descend_append (.obj doc) (segments p) (segments q)
  rw [← segments_dot] at hsplit
  unfold lookup
  rw [hsplit, Option.bind_assoc]
  exact congrArg _ (funext fun v => descend_segments v q)

/-- A dot at the end asks for the empty key. -/
theorem lookup_dot_end (doc : Object) (p : String) :
    lookup doc (p ++ ".") = ((lookup doc p).bind object?).bind (Object.get? · "") := by
  have h := lookup_dot doc p ""
  rw [String.append_empty] at h
  rw [h]
  exact congrArg _ (funext lookup_empty)

/-- So does a dot at the beginning. -/
theorem lookup_dot_start (doc : Object) (q : String) :
    lookup doc ("." ++ q) = ((doc.get? "").bind object?).bind (lookup · q) := by
  have h := lookup_dot doc "" q
  rwa [lookup_empty, String.empty_append] at h

/-- A path that goes on behind a dot does not end where it ended in front of it. -/
theorem lookup_dot_ne {doc : Object} {p : String} {v : Json} (h : lookup doc p = some v)
    (q : String) : lookup doc (p ++ "." ++ q) ≠ some v := by
  intro hq
  rw [lookup_dot, h, Option.bind_some] at hq
  obtain ⟨o, ho, hv⟩ := Option.bind_eq_some_iff.1 hq
  have hdeeper := length_add_sizeOf_descend hv
  have hsegments := List.length_pos_of_ne_nil (segments_ne_nil q)
  cases v with
  | obj o' =>
    cases ho
    omega
  | _ => cases ho

/-- A path without a dot is a key of the document.  Of a path that goes on behind a dot, the rest
is looked up in the object under its beginning, and there is nothing where there is no object: in
particular nothing below an array.  An empty segment asks for the empty key, so that it makes a
difference at either end, and the longer path never ends at the same value. -/
theorem lookup_composes (doc : Object) (p q : String) :
    (∀ key, '.' ∉ key.toList → lookup doc key = doc.get? key) ∧
    lookup doc (p ++ "." ++ q) = ((lookup doc p).bind object?).bind (lookup · q) ∧
    (∀ items, lookup doc p = some (.arr items) → lookup doc (p ++ "." ++ q) = none) ∧
    lookup doc (p ++ ".") = ((lookup doc p).bind object?).bind (Object.get? · "") ∧
    lookup doc ("." ++ q) = ((doc.get? "").bind object?).bind (lookup · q) ∧
    ∀ v, lookup doc p = some v → lookup doc (p ++ "." ++ q) ≠ some v := by
  refine ⟨fun _ => lookup_of_not_mem doc, lookup_dot doc p q, fun items h => ?_,
    lookup_dot_end doc p, lookup_dot_start doc q, fun v h => lookup_dot_ne h q⟩
  rw [lookup_dot, h]
  rfl

/-- The look-up is the one function that reads keys without a dot as they stand and what is
behind a dot in the object in front of it. -/
theorem eq_lookup {f : Object → String → Option Json}
    (hkey : ∀ doc key, '.' ∉ key.toList → f doc key = doc.get? key)
    (hdot : ∀ doc p q, f doc (p ++ "." ++ q) = ((f doc p).bind object?).bind (f · q)) :
    f = lookup := by
  suffices h : ∀ path doc, f doc path = lookup doc path from
    funext fun doc => funext fun path => h path doc
  intro path
  -- on the length of the path: what is behind its first dot is shorter
  induction hn : path.toList.length using Nat.strongRecOn generalizing path with
  | ind n ih =>
    intro doc
    by_cases hpath : '.' ∈ path.toList
    · obtain ⟨before, after, hsplit, hbefore⟩ := List.eq_append_cons_of_mem hpath
      have hp : '.' ∉ (String.ofList before).toList := by rwa [String.toList_ofList]
      have heq : path = String.ofList before ++ "." ++ String.ofList after := by
        rw [← String.toList_inj]
        simp [hsplit]
      have hshort : (String.ofList after).toList.length < n := by
        rw [← hn, hsplit, String.toList_ofList, List.length_append, List.length_cons]
        omega
      rw [heq, hdot, lookup_dot, hkey doc _ hp, lookup_of_not_mem doc hp]
      exact congrArg _ (funext (ih _ hshort _ rfl))
    · rw [hkey doc path hpath, lookup_of_not_mem doc hpath]

end Json

end DocStore
