import DocStore.Predicate
import DocStore.Text.Quoted

/-!
The wire form of predicates.

A predicate is written as an object whose entry `type` names its kind
(`Predicate.toJson`).  It is read from that object, with its entries in any order and
others ignored, or from an array of the kind and the fields in their order
(`Predicate.ofJson`).
-/

namespace DocStore.Predicate

/-! ## Kinds and their fields -/

/-- What a field may hold. -/
inductive Shape where
  | anything
  | text
  | list
  | object
  | objects
  | word
  | flag

def Shape.expected : Shape → String
  | anything => "any value"
  | text => "a string"
  | list | objects => "a sequence"
  | object => "a map"
  | word => "u64"
  | flag => "a boolean"

/-- Kinds of predicates. -/
inductive Kind where
  | filter | elem | ne | nin | isIn | whereOr | whereAnd | limit | skip | sort
  | range (op : Comparison)
  deriving DecidableEq

namespace Kind

/-- Every kind, in the order in which messages list them. -/
def all : List Kind :=
  [filter, elem, ne, nin, isIn, whereOr, whereAnd, limit, skip, sort,
    range .gt, range .gte, range .lt, range .lte]

def tag : Kind → String
  | filter => "filter"
  | elem => "elem"
  | ne => "ne"
  | nin => "nin"
  | isIn => "in"
  | whereOr => "whereOr"
  | whereAnd => "whereAnd"
  | limit => "limit"
  | skip => "skip"
  | sort => "sort"
  | range op => op.tag

def ofTag? (tag : String) : Option Kind :=
  all.find? fun k => k.tag == tag

/-- The fields of a kind in their order. -/
def fields : Kind → List (String × Shape)
  | filter => [("filter", .object)]
  | elem => [("arrKey", .text), ("filter", .anything)]
  | ne => [("key", .text), ("val", .anything)]
  | nin | isIn => [("key", .text), ("vals", .list)]
  | whereOr | whereAnd => [("matches", .objects)]
  | limit => [("limitAmount", .word)]
  | skip => [("skipAmount", .word)]
  | sort => [("sortKey", .text), ("desc", .flag)]
  | range .gt | range .gte => [("key", .text), ("min", .anything)]
  | range .lt | range .lte => [("key", .text), ("max", .anything)]

/-- The name of a kind in a message about its length. -/
def title (k : Kind) : String :=
  match k.tag.toList with
  | c :: rest => String.ofList (c.toUpper :: rest)
  | [] => ""

end Kind

/-! ## Faults -/

inductive WireFault where
  | wrongType (found : Json) (expected : String)
  | negative (n : Int)
  | missing (field : String)
  | unknownKind (tag : String)
  | tooShort (length : Nat) (kind : Kind)
  | tooLong (length expected : Nat)

/-- How a message names a value. -/
def describe : Json → String
  | .null => "null"
  | .bool b => "boolean \x60" ++ (if b then "true" else "false") ++ "\x60"
  | .num (.whole n _) => "integer \x60" ++ n.repr ++ "\x60"
  | .num (.real x) => "floating point \x60" ++ x.text ++ "\x60"
  | .str s => "string " ++ Text.quoted s
  | .arr _ => "sequence"
  | .obj _ => "map"

def countOfElements (n : Nat) : String :=
  n.repr ++ (if n = 1 then " element" else " elements")

def WireFault.message : WireFault → String
  | wrongType v expected => "invalid type: " ++ describe v ++ ", expected " ++ expected
  | negative n => "invalid value: integer \x60" ++ n.repr ++ "\x60, expected u64"
  | missing field => "missing field \x60" ++ field ++ "\x60"
  | unknownKind tag =>
    "unknown variant \x60" ++ tag ++ "\x60, expected one of "
      ++ ", ".intercalate (Kind.all.map fun k => "\x60" ++ k.tag ++ "\x60")
  | tooShort n k =>
    "invalid length " ++ n.repr ++ ", expected struct variant Predicate::" ++ k.title
      ++ " with " ++ countOfElements k.fields.length
  | tooLong n expected =>
    "invalid length " ++ n.repr ++ ", expected " ++ countOfElements expected ++ " in sequence"

/-! ## Writing -/

/-- The fields of a predicate in their order. -/
def wireFields : Predicate → Json.Object
  | .filter fields => [("filter", .obj fields)]
  | .elem key payload => [("arrKey", .str key), ("filter", payload)]
  | .ne key value => [("key", .str key), ("val", value)]
  | .nin key values | .isIn key values => [("key", .str key), ("vals", .arr values)]
  | .whereOr filters | .whereAnd filters => [("matches", .arr (filters.map .obj))]
  | .limit amount => [("limitAmount", .ofWord amount)]
  | .skip amount => [("skipAmount", .ofWord amount)]
  | .sort key descending => [("sortKey", .str key), ("desc", .bool descending)]
  | .range .gt key bound | .range .gte key bound => [("key", .str key), ("min", bound)]
  | .range .lt key bound | .range .lte key bound => [("key", .str key), ("max", bound)]

def toJson (p : Predicate) : Json :=
  .obj (("type", .str p.tag) :: p.wireFields)

/-! ## Fields -/

def textOf : Json → Except WireFault String
  | .str s => .ok s
  | v => .error (.wrongType v Shape.text.expected)

def listOf : Json → Except WireFault (List Json)
  | .arr xs => .ok xs
  | v => .error (.wrongType v Shape.list.expected)

def objectOf : Json → Except WireFault Json.Object
  | .obj o => .ok o
  | v => .error (.wrongType v Shape.object.expected)

def objectsOf (v : Json) : Except WireFault (List Json.Object) := do
  (← listOf v).mapM objectOf

def wordOf : Json → Except WireFault UInt64
  | .num (.whole n _) => if 0 ≤ n then .ok n.toNat.toUInt64 else .error (.negative n)
  | v => .error (.wrongType v Shape.word.expected)

def flagOf : Json → Except WireFault Bool
  | .bool b => .ok b
  | v => .error (.wrongType v Shape.flag.expected)

/-- Whether a value fits a field. -/
def Shape.check (s : Shape) (v : Json) : Except WireFault Unit :=
  match s with
  | .anything => .ok ()
  | .text => (textOf v).map fun _ => ()
  | .list => (listOf v).map fun _ => ()
  | .object => (objectOf v).map fun _ => ()
  | .objects => (objectsOf v).map fun _ => ()
  | .word => (wordOf v).map fun _ => ()
  | .flag => (flagOf v).map fun _ => ()

def field (o : Json.Object) (name : String) : Except WireFault Json :=
  match o.get? name with
  | some v => .ok v
  | none => .error (.missing name)

/-- The predicate of a kind with the fields of an object.  Only the direction of a sort may
be left out. -/
def ofFields (kind : Kind) (o : Json.Object) : Except WireFault Predicate :=
  match kind with
  | .filter => do return .filter (← objectOf (← field o "filter"))
  | .elem => do return .elem (← textOf (← field o "arrKey")) (← field o "filter")
  | .ne => do return .ne (← textOf (← field o "key")) (← field o "val")
  | .nin => do return .nin (← textOf (← field o "key")) (← listOf (← field o "vals"))
  | .isIn => do return .isIn (← textOf (← field o "key")) (← listOf (← field o "vals"))
  | .whereOr => do return .whereOr (← objectsOf (← field o "matches"))
  | .whereAnd => do return .whereAnd (← objectsOf (← field o "matches"))
  | .limit => do return .limit (← wordOf (← field o "limitAmount"))
  | .skip => do return .skip (← wordOf (← field o "skipAmount"))
  | .sort => do
    let key ← textOf (← field o "sortKey")
    match o.get? "desc" with
    | some v => return .sort key (← flagOf v)
    | none => return .sort key false
  | .range .gt => do return .range .gt (← textOf (← field o "key")) (← field o "min")
  | .range .gte => do return .range .gte (← textOf (← field o "key")) (← field o "min")
  | .range .lt => do return .range .lt (← textOf (← field o "key")) (← field o "max")
  | .range .lte => do return .range .lte (← textOf (← field o "key")) (← field o "max")

/-! ## Reading -/

def kindOf (v : Json) : Except WireFault Kind :=
  match v with
  | .str tag =>
    match Kind.ofTag? tag with
    | some k => .ok k
    | none => .error (.unknownKind tag)
  | _ => .error (.wrongType v "variant identifier")

/-- The known fields of an object have to fit their shapes, in the object's order. -/
def checkEntries (kind : Kind) : List (String × Json) → Except WireFault Unit
  | [] => .ok ()
  | (name, v) :: rest => do
    match kind.fields.lookup name with
    | some s => s.check v
    | none => .ok ()
    checkEntries kind rest

/-- The entries that a list of values stands for, field by field; `count` values came
before. -/
def entriesOf (kind : Kind) : Nat → List (String × Shape) → List Json →
    Except WireFault Json.Object
  | _, [], [] => .ok []
  | count, [], rest => .error (.tooLong (count + rest.length) count)
  | _, [(_, .flag)], [] => .ok []
  | count, _ :: _, [] => .error (.tooShort count kind)
  | count, (name, s) :: fields, v :: rest => do
    s.check v
    return (name, v) :: (← entriesOf kind (count + 1) fields rest)

/-- The predicate that a value stands for. -/
def ofJson (v : Json) : Except WireFault Predicate :=
  match v with
  | .obj o => do
    let kind ← kindOf (← field o "type")
    checkEntries kind (o.filter (·.1 != "type"))
    ofFields kind o
  | .arr [] => .error (.missing "type")
  | .arr (t :: rest) => do
    let kind ← kindOf t
    ofFields kind (← entriesOf kind 0 kind.fields rest)
  | _ => .error (.wrongType v "internally tagged enum Predicate")

end DocStore.Predicate
