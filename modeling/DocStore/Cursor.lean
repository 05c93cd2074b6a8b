import DocStore.Predicate

/-!
Compiled queries: constraints in the order in which they were emitted, one sort key, and
the slice of the result.

`Cursor.filter` renders the constraints as one filter document, `Cursor.pipeline` the
whole query as aggregation stages.
-/

namespace DocStore

/-! ## Parts -/

structure SortKey where
  field : String
  descending : Bool
  deriving DecidableEq

def SortKey.toJson (s : SortKey) : Json :=
  .obj [(s.field, .num (if s.descending then .whole (-1) (by decide) else .whole 1 (by decide)))]

inductive Constraint where
  /-- All fields equal. -/
  | equals (fields : Json.Object)
  | pattern (field : String) (p : Pattern)
  /-- An element of the array fits the filter. -/
  | elemMatch (field : String) (filter : Json)
  | notEqual (field : String) (value : Json)
  | notIn (field : String) (values : List Json)
  | isIn (field : String) (values : List Json)
  | or (filters : List Json.Object)
  | and (filters : List Json.Object)
  | range (field : String) (op : Comparison) (bound : Json)

namespace Constraint

/-- A document with one entry. -/
def entry (key : String) (v : Json) : Json.Object :=
  [(key, v)]

/-- The filter document of one constraint. -/
def toFilter : Constraint → Json.Object
  | equals fields => fields
  | pattern f p => entry f p.toJson
  | elemMatch f filter => entry f (.obj (entry "$elemMatch" filter))
  | notEqual f v => entry f (.obj (entry "$ne" v))
  | notIn f vs => entry f (.obj (entry "$nin" (.arr vs)))
  | isIn f vs => entry f (.obj (entry "$in" (.arr vs)))
  | or filters => entry "$or" (.arr (filters.map .obj))
  | and filters => entry "$and" (.arr (filters.map .obj))
  | range f op bound => entry f (.obj (entry op.operator bound))

end Constraint

/-- A read: what matches, in which order, and which slice of it. -/
structure Query where
  filter : Json.Object
  sort : Option SortKey := none
  skip : Option UInt64 := none
  limit : Option UInt64 := none

structure Cursor where
  collection : String
  constraints : List Constraint := []
  sort : Option SortKey := none
  skip : Option UInt64 := none
  limit : Option UInt64 := none

namespace Cursor

/-- The conjunction of filters: none, the only one, or `$and` of all. -/
def conjunction : List Json.Object → Json.Object
  | [] => []
  | [only] => only
  | all => [("$and", .arr (all.map .obj))]

def filter (c : Cursor) : Json.Object :=
  conjunction (c.constraints.map (·.toFilter))

def query (c : Cursor) : Query where
  filter := c.filter
  sort := c.sort
  skip := c.skip
  limit := c.limit

/-- The query as aggregation stages. -/
def pipeline (c : Cursor) : List Json :=
  let stage (name : String) (v : Json) : Json := .obj [(name, v)]
  stage "$match" (.obj c.filter)
    :: (c.sort.map fun s => stage "$sort" s.toJson).toList
    ++ (c.skip.map fun n => stage "$skip" (.ofWord n)).toList
    ++ (c.limit.map fun n => stage "$limit" (.ofWord n)).toList

def toJson (c : Cursor) : Json :=
  .obj [
    ("collection", .str c.collection),
    ("filter", .obj c.filter),
    ("sort", (c.sort.map SortKey.toJson).getD .null),
    ("skip", (c.skip.map .ofWord).getD .null),
    ("limit", (c.limit.map .ofWord).getD .null)]

end Cursor

end DocStore
