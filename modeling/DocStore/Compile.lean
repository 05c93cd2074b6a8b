import DocStore.Cursor
import DocStore.Error

/-!
Compiling predicates into a cursor.

The predicates are folded from left to right with one predicate of lookahead
(`Compile.step`).  Exclusions of one key that stand side by side are gathered in a buffer
(`Pending`) and emitted as one; any other predicate leaves the buffer alone.  Of several
sorts, skips and limits the last one holds.
-/

namespace DocStore

/-- Exclusions of `key` that are read but not emitted. -/
structure Pending where
  key : Option String := none
  values : List Json := []

/-- What a predicate does to the cursor. -/
inductive Effect where
  | constrain (c : Constraint)
  | sort (s : SortKey)
  | skip (amount : UInt64)
  | limit (amount : UInt64)

namespace Compile

/-! ## One predicate -/

/-- The fields of a filter that ask for equality, and the patterns, each in their order. -/
def splitFields : List (String × Json) → Except Pattern.Fault (Json.Object × List Constraint)
  | [] => .ok ([], [])
  | (name, v) :: rest =>
    match Pattern.ofMarker? v with
    | some (.error e) => .error e
    | some (.ok p) => do
      let (plain, patterns) ← splitFields rest
      return (plain, .pattern name p :: patterns)
    | none => do
      let (plain, patterns) ← splitFields rest
      return ((name, v) :: plain, patterns)

/-- One equality of the plain fields, if there are any, then one constraint per pattern. -/
def splitFilter (fields : Json.Object) : Except Pattern.Fault (List Constraint) := do
  let (plain, patterns) ← splitFields fields
  return if plain.isEmpty then patterns else .equals plain :: patterns

/-- An element filter; a payload that is no document is compared with the element. -/
def elemFilter : Json → Json
  | .obj o => .obj o
  | v => .obj [("$eq", v)]

/-- Whether the next predicate carries on excluding values of `key`. -/
def continues (key : String) : Option Predicate → Bool
  | some (.ne next _) => next == key
  | _ => false

/-- Buffer an exclusion, or emit it with what the buffer holds. -/
def exclude (pending : Pending) (key : String) (value : Json) (next : Option Predicate) :
    Pending × List Effect :=
  if continues key next then
    ({ key := some key, values := pending.values ++ [value] }, [])
  else if pending.values.isEmpty then
    (pending, [.constrain (.notEqual key value)])
  else
    ({}, [.constrain (.notIn key (pending.values ++ [value]))])

/-- One step: the buffer, the predicate and the one after it give the new buffer and what
the predicate does. -/
def step (pending : Pending) (p : Predicate) (next : Option Predicate) :
    Except Predicate.Fault (Pending × List Effect) :=
  match p.validate with
  | .error e => .error e
  | .ok () =>
    match p with
    | .filter fields =>
      match splitFilter fields with
      | .ok cs => .ok (pending, cs.map .constrain)
      | .error e => .error (.pattern e)
    | .elem key payload => .ok (pending, [.constrain (.elemMatch key (elemFilter payload))])
    | .ne key value => .ok (exclude pending key value next)
    | .nin key values => .ok (pending, [.constrain (.notIn key values)])
    | .isIn key values => .ok (pending, [.constrain (.isIn key values)])
    | .whereOr filters => .ok (pending, [.constrain (.or filters)])
    | .whereAnd filters => .ok (pending, [.constrain (.and filters)])
    | .limit amount => .ok (pending, [.limit amount])
    | .skip amount => .ok (pending, [.skip amount])
    | .sort key descending => .ok (pending, [.sort ⟨key, descending⟩])
    | .range op key bound => .ok (pending, [.constrain (.range key op bound)])

/-! ## All predicates -/

/-- A cursor after an effect. -/
def apply (c : Cursor) : Effect → Cursor
  | .constrain k => { c with constraints := c.constraints ++ [k] }
  | .sort s => { c with sort := some s }
  | .skip n => { c with skip := some n }
  | .limit n => { c with limit := some n }

/-- Fold the predicates that stand at `index` and behind it into a cursor. -/
def fold (index : Nat) (pending : Pending) (c : Cursor) :
    List Predicate → Except StoreError Cursor
  | [] => .ok c
  | p :: rest =>
    match step pending p rest.head? with
    | .error e => .error (.malformedPredicate index e.message)
    | .ok (pending, effects) => fold (index + 1) pending (effects.foldl apply c) rest

end Compile

/-- The cursor that a query stands for; the first predicate at fault is reported by its
position. -/
def compile (collection : String) (predicates : List Predicate) : Except StoreError Cursor :=
  Compile.fold 0 {} { collection } predicates

end DocStore
