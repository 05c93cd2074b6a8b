import DocStore.Identifier
import DocStore.Path
import DocStore.Text.Sorted

/-!
Partial updates: which top-level fields to write and which to take out.

An update is made of a candidate object and the paths its author touched
(`Update.ofTouched`): a touched field is written if the candidate has a value for it that
is not null, else taken out, and every other field is left alone.
-/

namespace DocStore

structure Update where
  set : Json.Object
  unset : List String

namespace Update

/-- The top-level fields of touched paths, ascending; the identifier is never touched. -/
def touchedFields (paths : List String) : List String :=
  let top := paths.filterMap fun p => (Json.segments p).head?
  sortTexts (top.filter fun k => k ≠ "" ∧ k ≠ idField)

/-- The candidate's value for a field, unless it is null. -/
def valueIn (candidate : Json.Object) (key : String) : Option Json :=
  match candidate.get? key with
  | some .null => none
  | v => v

def ofTouched (candidate : Json.Object) (paths : List String) : Update :=
  let fields := touchedFields paths
  { set := fields.filterMap fun k => (valueIn candidate k).map (k, ·)
    unset := fields.filter fun k => (valueIn candidate k).isNone }

def isEmpty (u : Update) : Bool :=
  u.set.isEmpty && u.unset.isEmpty

/-- A document after the update. -/
def apply (u : Update) (doc : Json.Object) : Json.Object :=
  let written := u.set.foldl (fun d e => Json.Object.insert d e.1 e.2) doc
  u.unset.foldl (fun d k => Json.Object.erase d k) written

/-- The update as an update document. -/
def toJson (u : Update) : Json :=
  .obj ((if u.set.isEmpty then [] else [("$set", .obj u.set)])
    ++ (if u.unset.isEmpty then [] else [("$unset", .obj (u.unset.map fun k => (k, .str "")))]))

end Update

end DocStore
