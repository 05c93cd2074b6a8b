import DocStore.Predicate.Wire
import DocStore.Error

/-!
Reading whole queries: an array of predicates, alone or under the key `pts`.
-/

namespace DocStore.Predicate

/-- The valid predicate that a value at position `index` stands for. -/
def read (index : Nat) (v : Json) : Except StoreError Predicate :=
  match ofJson v with
  | .error e => .error (.malformedPredicate index e.message)
  | .ok p =>
    match p.validate with
    | .error e => .error (.malformedPredicate index e.message)
    | .ok () => .ok p

/-- The predicates of the values that stand at `index` and behind it. -/
def readFrom (index : Nat) : List Json → Except StoreError (List Predicate)
  | [] => .ok []
  | v :: rest => do
    let p ← read index v
    let ps ← readFrom (index + 1) rest
    return p :: ps

/-- The predicates of a query. -/
def sequence (v : Json) : Except StoreError (List Predicate) :=
  match v with
  | .arr items => readFrom 0 items
  | .obj o =>
    match Json.Object.get? o "pts" with
    | some (.arr items) => readFrom 0 items
    | _ =>
      .error (.malformedPredicate 0
        "expected an array of predicates or \x7b\"pts\": [...]\x7d")
  | _ => .error (.malformedPredicate 0 "expected an array of predicates")

end DocStore.Predicate
