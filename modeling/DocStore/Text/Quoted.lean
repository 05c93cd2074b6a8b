import DocStore.Text.Escape
import DocStore.Unicode.Character

/-!
Texts quoted for a message: between double quotes, with the quote, the backslash and
the characters that would not show escaped.
-/

namespace DocStore.Text

/-- `\u` and the code point in lowercase hexadecimal between braces. -/
def bracedCode (c : Char) : List Char :=
  ['\\', 'u', '\x7b'] ++ Nat.toDigits 16 c.toNat ++ ['\x7d']

/-- Marks that are drawn into the character before them are coded too, for that may be the
quote. -/
def escapes : Escapes where
  letters := [('\x00', '0'), ('\t', 't'), ('\r', 'r'), ('\n', 'n'), ('"', '"'), ('\\', '\\')]
  isCoded := Unicode.isHidden
  code := bracedCode

def quoted (s : String) : String :=
  String.ofList (escapes.quote s)

end DocStore.Text
