import DocStore.Json
import DocStore.Regex.Dialect

/-!
Patterns: a filter value of the exact shape `{"$regex": source, "$options": flags}` asks
for a match and not for equality.

`Dialect.ofMarker?` tells ordinary values, malformed markers and patterns apart; every
pattern it returns compiles in the dialect.  `Pattern.ofMarker?` does so in the dialect of this
library.

    L.ofParts source options = .ok p → p = ⟨source, options⟩ ∧ ∃ r, L.compile p = .ok r
                                                             (compile_of_ofParts)
    L.compile p = .ok r → L.withFlags? p.source p.options = .ok r
                                                             (withFlags?_of_compile)
-/

namespace DocStore

def regexKey : String := "$regex"

def optionsKey : String := "$options"

structure Pattern where
  source : String
  options : String
  deriving DecidableEq

namespace Pattern

inductive Fault where
  | sourceNotText
  | optionsNotText
  | flag (c : Char)
  | invalid (source : String) (cause : Regex.Fault)

def Fault.message : Fault → String
  | sourceNotText => "$regex must be a string"
  | optionsNotText => "$options must be a string"
  | flag c => "unsupported regex flag '" ++ c.toString ++ "'"
  | invalid source cause => "invalid regex '" ++ source ++ "': " ++ cause.message

/-- Flags that a pattern may carry. -/
def allowedFlags : List Char := ['i', 'm', 's', 'x']

/-- The entries of the marker of a pattern; empty flags are left out. -/
def marker (p : Pattern) : Json.Object :=
  (regexKey, .str p.source) :: if p.options.isEmpty then [] else [(optionsKey, .str p.options)]

def toJson (p : Pattern) : Json :=
  .obj p.marker

/-- An object with a source and nothing but source and flags. -/
def isMarker (o : Json.Object) : Bool :=
  o.contains regexKey && o.keys.all fun k => k == regexKey || k == optionsKey

end Pattern

/-! ## Patterns of a dialect -/

namespace Dialect

variable {ρ : Type} (L : Dialect ρ)

/-- The expression that a pattern stands for. -/
def compile (p : Pattern) : Except Pattern.Fault ρ :=
  match p.options.toList.find? fun c => !Pattern.allowedFlags.contains c with
  | some c => .error (.flag c)
  | none =>
    match L.withFlags? p.source p.options with
    | .ok r => .ok r
    | .error cause => .error (.invalid p.source cause)

/-- A pattern that compiles. -/
def ofParts (source options : String) : Except Pattern.Fault Pattern :=
  match L.compile ⟨source, options⟩ with
  | .ok _ => .ok ⟨source, options⟩
  | .error e => .error e

/-- The pattern of a marker; `none` for a value that is no marker. -/
def ofMarker? (v : Json) : Option (Except Pattern.Fault Pattern) :=
  match v with
  | .obj o =>
    if Pattern.isMarker o then
      some (match Json.Object.get? o regexKey, Json.Object.get? o optionsKey with
        | some (.str source), none => L.ofParts source ""
        | some (.str source), some (.str options) => L.ofParts source options
        | some (.str _), some _ => .error .optionsNotText
        | _, _ => .error .sourceNotText)
    else none
  | _ => none

variable {L}

theorem compile_of_ofParts {source options : String} {p : Pattern}
    (h : L.ofParts source options = .ok p) : p = ⟨source, options⟩ ∧ ∃ r, L.compile p = .ok r := by
  unfold ofParts at h
  split at h
  · next r hr =>
    cases h
    exact ⟨rfl, r, hr⟩
  · cases h

theorem withFlags?_of_compile {p : Pattern} {r : ρ} (h : L.compile p = .ok r) :
    L.withFlags? p.source p.options = .ok r := by
  unfold compile at h
  split at h
  · cases h
  · split at h
    · next hr =>
      cases h
      exact hr
    · cases h

end Dialect

/-! ## Patterns of this library -/

namespace Pattern

/-- The library's own expression of a pattern. -/
def compile (p : Pattern) : Except Fault Regex :=
  Dialect.own.compile p

def ofParts (source options : String) : Except Fault Pattern :=
  Dialect.own.ofParts source options

def ofMarker? (v : Json) : Option (Except Fault Pattern) :=
  Dialect.own.ofMarker? v

end Pattern

end DocStore
