import DocStore.Order
import DocStore.Pattern

/-!
Predicates: the units of a query, in the order in which its author wrote them.

`Predicate.validate` checks what the type leaves open: keys that are empty, patterns that
do not compile, alternatives without a member.
-/

namespace DocStore

inductive Predicate where
  /-- Equality of every field; markers ask for a match. -/
  | filter (fields : Json.Object)
  /-- Some element of the array under `key` fits the payload. -/
  | elem (key : String) (payload : Json)
  | ne (key : String) (value : Json)
  | nin (key : String) (values : List Json)
  | isIn (key : String) (values : List Json)
  /-- Some of the filters holds. -/
  | whereOr (filters : List Json.Object)
  /-- Each of the filters holds. -/
  | whereAnd (filters : List Json.Object)
  | limit (amount : UInt64)
  | skip (amount : UInt64)
  | sort (key : String) (descending : Bool)
  | range (op : Comparison) (key : String) (bound : Json)

namespace Predicate

def tag : Predicate → String
  | filter _ => "filter"
  | elem _ _ => "elem"
  | ne _ _ => "ne"
  | nin _ _ => "nin"
  | isIn _ _ => "in"
  | whereOr _ => "whereOr"
  | whereAnd _ => "whereAnd"
  | limit _ => "limit"
  | skip _ => "skip"
  | sort _ _ => "sort"
  | range op _ _ => op.tag

/-- The field a predicate is about, for the kinds that are about one. -/
def key? : Predicate → Option String
  | elem k _ | ne k _ | nin k _ | isIn k _ | sort k _ | range _ k _ => some k
  | filter _ | whereOr _ | whereAnd _ | limit _ | skip _ => none

/-! ## Validity -/

inductive Fault where
  | emptyKey (tag : String)
  | emptyField
  | field (name : String) (cause : Pattern.Fault)
  | pattern (cause : Pattern.Fault)
  | noMember (tag : String)

def Fault.message : Fault → String
  | emptyKey tag => tag ++ " requires a non-empty key"
  | emptyField => "filter contains an empty field name"
  | field name cause => "filter field '" ++ name ++ "': " ++ cause.message
  | pattern cause => cause.message
  | noMember tag => tag ++ " requires at least one match"

/-- The first fault of a filter's fields, in their order. -/
def validateFields : List (String × Json) → Except Fault Unit
  | [] => .ok ()
  | (name, v) :: rest =>
    if name.isEmpty then .error .emptyField
    else
      match Pattern.ofMarker? v with
      | some (.error e) => .error (.field name e)
      | _ => validateFields rest

def validate (p : Predicate) : Except Fault Unit :=
  if p.key? = some "" then .error (.emptyKey p.tag)
  else
    match p with
    | filter fields => validateFields fields
    | whereOr [] | whereAnd [] => .error (.noMember p.tag)
    | _ => .ok ()

/-- A predicate about one field is valid unless the field has no name. -/
theorem validate_of_key {p : Predicate} {key : String} (hp : p.key? = some key)
    (hkey : key ≠ "") : p.validate = .ok () := by
  have hvalid : p.key? ≠ some "" := by
    rw [hp, Ne, Option.some.injEq]
    exact hkey
  unfold validate
  rw [if_neg hvalid]
  cases p with
  | filter _ | whereOr _ | whereAnd _ | limit _ | skip _ => cases hp
  | _ => rfl

theorem validate_whereAnd {filters : List Json.Object} (h : filters ≠ []) :
    (whereAnd filters).validate = .ok () := by
  cases filters with
  | nil => exact absurd rfl h
  | cons _ _ => rfl

theorem validate_whereOr {filters : List Json.Object} (h : filters ≠ []) :
    (whereOr filters).validate = .ok () := by
  cases filters with
  | nil => exact absurd rfl h
  | cons _ _ => rfl

end Predicate

end DocStore
