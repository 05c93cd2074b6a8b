import DocStore.Filter

/-!
Matching with remembered patterns.

A matcher that is asked many questions keeps the expressions of the patterns it has met, by
source and flags, so that each is read once (`Filter.Memo`).  Of the expressions themselves it
knows no more than their dialect.  With those of this library it answers as `Filter.matches?`
does.
-/

namespace DocStore.Filter

/-- Expressions by source and flags. -/
abbrev Patterns (ρ : Type) := List ((String × String) × ρ)

/-- A computation that may add to the patterns, also when it ends in a fault. -/
def Memo (ρ α : Type) := Patterns ρ → Except Fault α × Patterns ρ

namespace Memo

variable {ρ : Type}

def ok {α : Type} (a : α) : Memo ρ α :=
  fun ps => (.ok a, ps)

def error {α : Type} (e : Fault) : Memo ρ α :=
  fun ps => (.error e, ps)

def andThen (first second : Memo ρ Bool) : Memo ρ Bool :=
  fun ps =>
    match first ps with
    | (.ok true, ps) => second ps
    | r => r

def orElse (first second : Memo ρ Bool) : Memo ρ Bool :=
  fun ps =>
    match first ps with
    | (.ok false, ps) => second ps
    | r => r

/-- The first element that passes or is at fault decides. -/
def anyOk {α : Type} (test : α → Memo ρ Bool) : List α → Memo ρ Bool
  | [] => ok false
  | x :: xs => orElse (test x) (anyOk test xs)

variable (L : Dialect ρ)

/-- The expression of a pattern, remembered when it is new; a faulty pattern is not. -/
def pattern (source flags : String) : Memo ρ ρ :=
  fun ps =>
    match ps.lookup (source, flags) with
    | some r => (.ok r, ps)
    | none =>
      match L.withFlags? source flags with
      | .ok r => (.ok r, ((source, flags), r) :: ps)
      | .error cause => (.error (.pattern cause), ps)

/-- Whether a text of the field matches a pattern. -/
def matchesPattern (source flags : String) (actual : Option Json) : Memo ρ Bool :=
  fun ps =>
    match pattern L source flags ps with
    | (.ok r, ps) => (.ok (anyElement actual fun v => v.string?.any (L.isMatch r)), ps)
    | (.error e, ps) => (.error e, ps)

/-! ## Evaluation -/

mutual

def matchEntries : List (String × Json) → Json.Object → Memo ρ Bool
  | [], _ => ok true
  | (key, condition) :: rest, doc =>
    andThen (matchEntry key condition doc) (matchEntries rest doc)
termination_by structural es => es

def matchEntry (key : String) : Json → Json.Object → Memo ρ Bool
  | condition, doc =>
    if key = "$and" then
      match checkClauses key condition with
      | .error e => error e
      | .ok () =>
        match condition with
        | .arr items => matchAll items doc
        | _ => ok true
    else if key = "$or" then
      match checkClauses key condition with
      | .error e => error e
      | .ok () =>
        match condition with
        | .arr items => matchAny items doc
        | _ => ok false
    else if startsWithDollar key then error (.unknownClause key)
    else
      let actual := Json.lookup doc key
      match condition with
      | .obj o =>
        match operators? o with
        | .error e => error e
        | .ok true => matchOperators (flagsOf o) o actual
        | .ok false => ok (equals actual (.obj o))
      | v => ok (equals actual v)
termination_by structural condition => condition

def matchAll : List Json → Json.Object → Memo ρ Bool
  | [], _ => ok true
  | .obj filter :: rest, doc => andThen (matchEntries filter doc) (matchAll rest doc)
  | _ :: rest, doc => matchAll rest doc
termination_by structural items => items

def matchAny : List Json → Json.Object → Memo ρ Bool
  | [], _ => ok false
  | .obj filter :: rest, doc => orElse (matchEntries filter doc) (matchAny rest doc)
  | _ :: rest, doc => matchAny rest doc
termination_by structural items => items

def matchOperators (flags : String) : List (String × Json) → Option Json → Memo ρ Bool
  | [], _ => ok true
  | (name, operand) :: rest, actual =>
    andThen (matchOperator flags name operand actual) (matchOperators flags rest actual)
termination_by structural ops => ops

def matchOperator (flags : String) (name : String) : Json → Option Json → Memo ρ Bool
  | operand, actual =>
    match Operator.ofName? name with
    | none => error (.unknownOperator name)
    | some .eq => ok (equals actual operand)
    | some .ne => ok (!equals actual operand)
    | some (.range op) => ok (inRange op actual operand)
    | some .isIn =>
      match operand with
      | .arr vs => ok (vs.any (equals actual))
      | _ => error (.operandNoArray name)
    | some .nin =>
      match operand with
      | .arr vs => ok (!vs.any (equals actual))
      | _ => error (.operandNoArray name)
    | some .regex =>
      match operand with
      | .str source => matchesPattern L source flags actual
      | _ => error .patternNoText
    | some .options => ok true
    | some .elemMatch =>
      match actual with
      | some (.arr xs) =>
        match operand with
        | .obj sub =>
          match operators? sub with
          | .error e => error e
          | .ok true => anyOk (fun x => matchOperators (flagsOf sub) sub (some x)) xs
          | .ok false =>
            anyOk (fun x =>
              match x with
              | .obj doc => matchEntries sub doc
              | _ => ok false) xs
        | _ => error .elementNoDocument
      | _ => ok false
    | some .exists => ok (actual.isSome == operand.bool?.getD true)
termination_by structural operand => operand

end

/-! ## Matchers -/

/-- What a new matcher answers, which has no patterns yet. -/
def fresh (filter doc : Json.Object) : Except Fault Bool :=
  (matchEntries L filter doc []).1

/-- What one matcher answers to questions, each a filter and a document, one after the other. -/
def answers (asked : List (Json.Object × Json.Object)) (ps : Patterns ρ) :
    List (Except Fault Bool) × Patterns ρ :=
  match asked with
  | [] => ([], ps)
  | (filter, doc) :: rest =>
    let (first, ps) := matchEntries L filter doc ps
    let (others, ps) := answers rest ps
    (first :: others, ps)

end Memo

/-- Match documents one after the other with one set of patterns. -/
def matchesEach (filter : Json.Object) (docs : List Json.Object) (ps : Patterns Regex) :
    List (Except Fault Bool) × Patterns Regex :=
  Memo.answers .own (docs.map fun doc => (filter, doc)) ps

end DocStore.Filter
