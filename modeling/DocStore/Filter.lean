import DocStore.Path
import DocStore.Order
import DocStore.Pattern

/-!
Filter documents and what they match.

A filter is a conjunction of entries: `$and` and `$or` of filters, or a condition on the
field at a path.  A condition is a literal, which the field has to equal, or a document
of operators, each of which has to hold; entries are looked at in their order, and the
first that fails or is at fault decides (`Filter.matches?`).
-/

namespace DocStore.Filter

/-! ## Faults -/

inductive Fault where
  | unknownClause (name : String)
  | noClauses (name : String)
  | clauseNoDocument (name : String)
  | unknownOperator (name : String)
  | operandNoArray (name : String)
  | patternNoText
  | pattern (cause : Regex.Fault)
  | elementNoDocument
  deriving DecidableEq

def Fault.message : Fault → String
  | unknownClause name => "unknown top level operator: " ++ name
  | noClauses name => name ++ " requires a non-empty array"
  | clauseNoDocument name => name ++ " entries must be documents"
  | unknownOperator name => "unknown operator: " ++ name
  | operandNoArray name => name ++ " needs an array"
  | patternNoText => "$regex needs a string pattern"
  | pattern cause => "invalid $regex: " ++ cause.message
  | elementNoDocument => "$elemMatch needs a document"

/-! ## Fields against values -/

/-- Equality of a field: a missing one equals null, an array also what an element equals. -/
def equals (actual : Option Json) (expected : Json) : Bool :=
  match actual with
  | none => expected.isNull
  | some (.arr xs) => (Json.arr xs).same expected || xs.any (·.same expected)
  | some v => v.same expected

/-- Whether the field, or an element of an array field, passes a test. -/
def anyElement (actual : Option Json) (test : Json → Bool) : Bool :=
  match actual with
  | none => false
  | some (.arr xs) => xs.any test
  | some v => test v

/-- Whether the field stands to the bound as asked; what is unordered does not. -/
def inRange (op : Comparison) (actual : Option Json) (bound : Json) : Bool :=
  anyElement actual fun v => (v.order? bound).any op.accepts

def matchesText (actual : Option Json) (r : Regex) : Bool :=
  anyElement actual fun v => v.string?.any r.isMatch

/-! ## Operators -/

/-- The operators of a condition. -/
inductive Operator where
  | eq
  | ne
  | range (op : Comparison)
  | isIn
  | nin
  | regex
  | options
  | elemMatch
  | exists
  deriving DecidableEq

def Operator.ofName? (name : String) : Option Operator :=
  match name with
  | "$eq" => some eq
  | "$ne" => some ne
  | "$gt" => some (range .gt)
  | "$gte" => some (range .gte)
  | "$lt" => some (range .lt)
  | "$lte" => some (range .lte)
  | "$in" => some isIn
  | "$nin" => some nin
  | "$regex" => some regex
  | "$options" => some options
  | "$elemMatch" => some elemMatch
  | "$exists" => some .exists
  | _ => none

def startsWithDollar (name : String) : Bool :=
  name.toList.head? == some '$'

/-- An object that reads as operators: not empty, every key with a dollar sign, and no
identifier. -/
def isOperators (o : Json.Object) : Bool :=
  !o.isEmpty && !o.contains oidKey && o.keys.all startsWithDollar

/-- Whether an object holds operators; one that reads as operators may hold no others than
the known ones. -/
def operators? (o : Json.Object) : Except Fault Bool :=
  if isOperators o then
    match o.keys.find? fun k => (Operator.ofName? k).isNone with
    | some k => .error (.unknownOperator k)
    | none => .ok true
  else .ok false

/-- The flags that stand beside a pattern. -/
def flagsOf (ops : Json.Object) : String :=
  ((ops.get? optionsKey).bind Json.string?).getD ""

/-! ## Evaluation -/

/-- The first element that passes or is at fault decides. -/
def anyOk {α ε : Type} (test : α → Except ε Bool) : List α → Except ε Bool
  | [] => .ok false
  | x :: xs =>
    match test x with
    | .ok true => .ok true
    | .ok false => anyOk test xs
    | .error e => .error e

/-- The second answer, unless the first is no or a fault. -/
@[macro_inline]
def andThen {ε : Type} (first : Except ε Bool) (second : Except ε Bool) : Except ε Bool :=
  match first with
  | .ok true => second
  | .ok false => .ok false
  | .error e => .error e

/-- The second answer, unless the first is yes or a fault. -/
@[macro_inline]
def orElse {ε : Type} (first : Except ε Bool) (second : Except ε Bool) : Except ε Bool :=
  match first with
  | .ok false => second
  | .ok true => .ok true
  | .error e => .error e

/-- The clauses of `$and` and `$or` have to be documents, and there has to be one. -/
def checkClauses (name : String) (clauses : Json) : Except Fault Unit :=
  match clauses with
  | .arr [] => .error (.noClauses name)
  | .arr items =>
    if items.all fun v => v.object?.isSome then .ok () else .error (.clauseNoDocument name)
  | _ => .error (.noClauses name)

mutual

/-- Whether every entry of a filter holds of a document. -/
def matchEntries : List (String × Json) → Json.Object → Except Fault Bool
  | [], _ => .ok true
  | (key, condition) :: rest, doc =>
    andThen (matchEntry key condition doc) (matchEntries rest doc)
termination_by structural es => es

def matchEntry (key : String) : Json → Json.Object → Except Fault Bool
  | condition, doc =>
    if key = "$and" then
      match checkClauses key condition with
      | .error e => .error e
      | .ok () =>
        match condition with
        | .arr items => matchAll items doc
        | _ => .ok true
    else if key = "$or" then
      match checkClauses key condition with
      | .error e => .error e
      | .ok () =>
        match condition with
        | .arr items => matchAny items doc
        | _ => .ok false
    else if startsWithDollar key then .error (.unknownClause key)
    else
      let actual := Json.lookup doc key
      match condition with
      | .obj o =>
        match operators? o with
        | .error e => .error e
        | .ok true => matchOperators (flagsOf o) o actual
        | .ok false => .ok (equals actual (.obj o))
      | v => .ok (equals actual v)
termination_by structural condition => condition

def matchAll : List Json → Json.Object → Except Fault Bool
  | [], _ => .ok true
  | .obj filter :: rest, doc => andThen (matchEntries filter doc) (matchAll rest doc)
  | _ :: rest, doc => matchAll rest doc
termination_by structural items => items

def matchAny : List Json → Json.Object → Except Fault Bool
  | [], _ => .ok false
  | .obj filter :: rest, doc => orElse (matchEntries filter doc) (matchAny rest doc)
  | _ :: rest, doc => matchAny rest doc
termination_by structural items => items

/-- Whether every operator holds of a field; `flags` are those of a pattern. -/
def matchOperators (flags : String) : List (String × Json) → Option Json → Except Fault Bool
  | [], _ => .ok true
  | (name, operand) :: rest, actual =>
    andThen (matchOperator flags name operand actual) (matchOperators flags rest actual)
termination_by structural ops => ops

/-- Whether an operator holds of a field.  Of the elements of an array, operators are asked
of every one, a filter of those that are objects. -/
def matchOperator (flags : String) (name : String) : Json → Option Json → Except Fault Bool
  | operand, actual =>
    match Operator.ofName? name with
    | none => .error (.unknownOperator name)
    | some .eq => .ok (equals actual operand)
    | some .ne => .ok (!equals actual operand)
    | some (.range op) => .ok (inRange op actual operand)
    | some .isIn =>
      match operand with
      | .arr vs => .ok (vs.any (equals actual))
      | _ => .error (.operandNoArray name)
    | some .nin =>
      match operand with
      | .arr vs => .ok (!vs.any (equals actual))
      | _ => .error (.operandNoArray name)
    | some .regex =>
      match operand with
      | .str source =>
        match Regex.withFlags? source flags with
        | .ok r => .ok (matchesText actual r)
        | .error cause => .error (.pattern cause)
      | _ => .error .patternNoText
    | some .options => .ok true
    | some .elemMatch =>
      match actual with
      | some (.arr xs) =>
        match operand with
        | .obj sub =>
          match operators? sub with
          | .error e => .error e
          | .ok true => anyOk (fun x => matchOperators (flagsOf sub) sub (some x)) xs
          | .ok false =>
            anyOk (fun x =>
              match x with
              | .obj doc => matchEntries sub doc
              | _ => .ok false) xs
        | _ => .error .elementNoDocument
      | _ => .ok false
    | some .exists => .ok (actual.isSome == operand.bool?.getD true)
termination_by structural operand => operand

end

/-- Whether a document matches a filter. -/
def matches? (filter doc : Json.Object) : Except Fault Bool :=
  matchEntries filter doc

end DocStore.Filter
