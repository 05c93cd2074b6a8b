import DocStore.Identifier
import DocStore.Error

/-!
Records: stored documents as callers see them, the identifier as text beside an object
without it.
-/

namespace DocStore

structure Record where
  id : String
  object : Json.Object

namespace Record

/-- The text of an identifier value; what is no identifier is shown as it is. -/
def idText (v : Json) : String :=
  match Identifier.ofJson v with
  | .ok id => id.hex
  | .error _ =>
    match v with
    | .str s => s
    | v => v.render

/-- The record of a stored document; one without an identifier is malformed. -/
def ofDocument (doc : Json.Object) : Except StoreError Record :=
  match doc.get? idField with
  | none | some .null => .error (.malformedDocument ("document has no " ++ idField ++ " field"))
  | some v => .ok ⟨idText v, doc.erase idField⟩

/-- The records of documents; the first malformed one decides. -/
def ofDocuments (docs : List Json.Object) : Except StoreError (List Record) :=
  match docs with
  | [] => .ok []
  | doc :: rest =>
    match ofDocument doc with
    | .error e => .error e
    | .ok r =>
      match ofDocuments rest with
      | .error e => .error e
      | .ok rs => .ok (r :: rs)

def toJson (r : Record) : Json :=
  .obj [("id", .str r.id), ("object", .obj r.object)]

end Record

end DocStore
