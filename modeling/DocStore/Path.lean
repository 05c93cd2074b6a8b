import DocStore.Json

/-!
Dotted paths into a document.

`Json.lookup` follows the segments of a path through nested objects; arrays are not
entered, and an empty segment names the empty key.

    segments (p ++ "." ++ q) = segments p ++ segments q      (segments_dot)
    v.descend (keys ++ more) = (v.descend keys).bind (descend · more)
                                                             (descend_append)
-/

namespace DocStore.Json

/-- The pieces between the dots: one more than there are dots. -/
def segments (path : String) : List String :=
  (path.toList.splitOn '.').map String.ofList

theorem segments_ne_nil (path : String) : segments path ≠ [] := by
  unfold segments
  rw [ne_eq, List.map_eq_nil_iff]
  exact List.splitOn_ne_nil _ _

theorem segments_of_not_mem {key : String} (h : '.' ∉ key.toList) : segments key = [key] := by
  unfold segments
  rw [List.splitOn_eq_singleton h, List.map_singleton, String.ofList_toList]

theorem segments_dot (p q : String) : segments (p ++ "." ++ q) = segments p ++ segments q := by
  unfold segments
  rw [String.toList_append, String.toList_append, List.append_assoc, ← List.map_append]
  exact congrArg _ (List.splitOn_append_cons_self p.toList q.toList)

/-- The value below `v` at the end of a chain of keys. -/
def descend : Json → List String → Option Json
  | v, [] => some v
  | obj o, key :: keys =>
    match Object.get? o key with
    | some v => descend v keys
    | none => none
  | _, _ :: _ => none

theorem descend_cons (v : Json) (key : String) (keys : List String) :
    v.descend (key :: keys) = (v.object?.bind (Object.get? · key)).bind (descend · keys) := by
  cases v with
  | obj o =>
    rw [descend]
    show _ = (Object.get? o key).bind (descend · keys)
    cases Object.get? o key <;> rfl
  | _ => rfl

theorem descend_append (v : Json) (keys more : List String) :
    v.descend (keys ++ more) = (v.descend keys).bind (descend · more) := by
  induction keys generalizing v with
  | nil => rfl
  | cons key keys ih => simp only [List.cons_append, descend_cons, ih, Option.bind_assoc]

def lookup (doc : Object) (path : String) : Option Json :=
  descend (obj doc) (segments path)

theorem lookup_of_not_mem (doc : Object) {key : String} (h : '.' ∉ key.toList) :
    lookup doc key = doc.get? key := by
  unfold lookup
  rw [segments_of_not_mem h, descend_cons]
  exact Option.bind_fun_some _

/-- A path goes on below the key that it starts with. -/
theorem lookup_congr {doc doc' : Object} {path key : String}
    (hkey : (segments path).head? = some key) (h : doc.get? key = doc'.get? key) :
    lookup doc path = lookup doc' path := by
  obtain ⟨rest, hrest⟩ := List.head?_eq_some_iff.1 hkey
  unfold lookup
  rw [hrest]
  unfold descend
  rw [h]

end DocStore.Json
