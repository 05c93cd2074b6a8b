import DocStore.Json
import DocStore.Text.Escape

/-!
The compact text of a JSON value: no blanks, entries in the object's order, and in
strings only the quote, the backslash and the controls below U+0020 escaped.
-/

namespace DocStore.Json

def escapes : Escapes where
  letters := [('"', '"'), ('\\', '\\'), ('\x08', 'b'), ('\x0c', 'f'), ('\n', 'n'), ('\r', 'r'),
    ('\t', 't')]
  isCoded c := c.toNat < 0x20
  code := Hex.code

def quote (s : String) : String :=
  String.ofList (escapes.quote s)

mutual

/-- The compact text of a value. -/
def render : Json → String
  | null => "null"
  | bool true => "true"
  | bool false => "false"
  | num n => n.text
  | str s => quote s
  | arr xs => "[" ++ renderItems xs ++ "]"
  | obj o => "\x7b" ++ renderFields o ++ "\x7d"

def renderItems : List Json → String
  | [] => ""
  | [x] => render x
  | x :: y :: rest => render x ++ "," ++ renderItems (y :: rest)

def renderFields : List (String × Json) → String
  | [] => ""
  | [(k, v)] => quote k ++ ":" ++ render v
  | (k, v) :: e :: rest => quote k ++ ":" ++ render v ++ "," ++ renderFields (e :: rest)

end

end DocStore.Json
