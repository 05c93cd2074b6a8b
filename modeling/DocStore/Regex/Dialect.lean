import DocStore.Regex.Parse

/-!
Dialects of regular expressions.

The library depends on regular expressions in two ways only: how a text is read as an expression,
and which texts the expression matches.  A `Dialect` supplies both, for expressions of any kind;
`Dialect.own` supplies the expressions of this library.
-/

namespace DocStore

/-- How texts are read as expressions, and which texts an expression matches. -/
structure Dialect (ρ : Type) where
  read : String → Except Regex.Fault ρ
  isMatch : ρ → String → Bool

namespace Dialect

/-- The expressions of this library. -/
def own : Dialect Regex where
  read := Regex.parse?
  isMatch := Regex.isMatch

/-- The expression of a source with flags in front of it. -/
def withFlags? {ρ : Type} (L : Dialect ρ) (source flags : String) : Except Regex.Fault ρ :=
  L.read (if flags.isEmpty then source else "(?" ++ flags ++ ")" ++ source)

end Dialect

/-- The library's own expression of a source with flags in front of it. -/
def Regex.withFlags? (source flags : String) : Except Regex.Fault Regex :=
  Dialect.own.withFlags? source flags

end DocStore
