import DocStore.Text.Hex

/-!
Texts between double quotes.

Between the quotes a character stands as itself, as a letter behind a backslash, or as a code.
Which characters have a letter, which of the others are coded, and how a code is written, is all
that quoted texts differ in (`Escapes`).
-/

namespace DocStore

/-- How the characters of a quoted text are written. -/
structure Escapes where
  letters : List (Char × Char)
  isCoded : Char → Bool
  code : Char → List Char

namespace Escapes

variable (x : Escapes)

/-- How a character stands between the quotes. -/
def char (c : Char) : List Char :=
  match x.letters.lookup c with
  | some letter => ['\\', letter]
  | none => if x.isCoded c then x.code c else [c]

def quote (s : String) : List Char :=
  '"' :: s.toList.flatMap x.char ++ ['"']

end Escapes

/-- The code of a character below U+0100: `\u00xx` with two lowercase digits. -/
def Hex.code (c : Char) : List Char :=
  ['\\', 'u', '0', '0', digit (lowest (c.toNat / 16)), digit (lowest c.toNat)]

end DocStore
