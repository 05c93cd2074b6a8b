import DocStore.Unicode.Newest

/-!
Questions about one character: is it blank, does it belong to a word, may a name hold it,
does a quoted text show it.
-/

namespace DocStore.Unicode

/-- A character that is only space. -/
def isBlank (c : Char) : Bool :=
  Property.whiteSpace.contains c.toNat

/-- Below U+0080 the letters, the digits and the underscore are word characters. -/
def isWord (c : Char) : Bool :=
  if c.toNat < 0x80 then c.isAlphanum || c == '_' else Property.wordCharacters.contains c.toNat

def isAlphabetic (c : Char) : Bool :=
  if c.toNat < 0x80 then c.isAlpha else Newest.alphabetic.contains c.toNat

def isAlphanumeric (c : Char) : Bool :=
  if c.toNat < 0x80 then c.isAlphanum else Newest.alphanumeric.contains c.toNat

/-- A character that does not show in a text, or shows as part of another. -/
def isHidden (c : Char) : Bool :=
  if c.toNat < 0x80 then c.toNat < 0x20 || c.toNat == 0x7F else Newest.hidden.contains c.toNat

/-- A text without the blanks at its ends. -/
def trimBlanks (s : String) : String :=
  let cs := s.toList.dropWhile isBlank
  String.ofList (cs.reverse.dropWhile isBlank).reverse

end DocStore.Unicode
