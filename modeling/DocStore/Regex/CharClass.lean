import DocStore.Unicode.Character
import DocStore.Unicode.PropertyName

/-!
Classes of characters, and those that patterns name: `[:alpha:]`, `\d`, `\s`, `\w`.
-/

namespace DocStore.Regex

open Unicode

abbrev CharClass : Type := CodeSet

namespace CharClass

def holds (k : CharClass) (c : Char) : Bool :=
  k.contains c.toNat

def single (c : Char) : CharClass :=
  CodeSet.single c.toNat

def range (first last : Char) : CharClass :=
  CodeSet.range first.toNat last.toNat

def ofRanges (rs : List (Char × Char)) : CharClass :=
  CodeSet.ofRanges (rs.map fun r => (r.1.toNat, r.2.toNat))

/-- The only member of a class. -/
def only? (k : CharClass) : Option Char :=
  match k.ranges.toList with
  | [(first, last)] => if first = last then some (Char.ofNat first) else none
  | _ => none

/-- The classes written between `[:` and `:]`; all of them lie below U+0080. -/
def ofBracketName? (name : String) : Option CharClass :=
  match name with
  | "alnum" => some (ofRanges [('0', '9'), ('A', 'Z'), ('a', 'z')])
  | "alpha" => some (ofRanges [('A', 'Z'), ('a', 'z')])
  | "ascii" => some CodeSet.ascii
  | "blank" => some (ofRanges [('\t', '\t'), (' ', ' ')])
  | "cntrl" => some (ofRanges [('\x00', '\x1f'), ('\x7f', '\x7f')])
  | "digit" => some (range '0' '9')
  | "graph" => some (range '!' '~')
  | "lower" => some (range 'a' 'z')
  | "print" => some (range ' ' '~')
  | "punct" => some (ofRanges [('!', '/'), (':', '@'), ('[', '\x60'), ('\x7b', '~')])
  | "space" => some (ofRanges [('\t', '\r'), (' ', ' ')])
  | "upper" => some (range 'A' 'Z')
  | "word" => some (ofRanges [('0', '9'), ('A', 'Z'), ('_', '_'), ('a', 'z')])
  | "xdigit" => some (ofRanges [('0', '9'), ('A', 'F'), ('a', 'f')])
  | _ => none

/-- The class of `\d`, `\s` or `\w`; outside Unicode it lies below U+0080. -/
def ofLetter (unicode : Bool) (letter : Char) : CharClass :=
  let k : CharClass :=
    match letter with
    | 'd' => Category.decimal
    | 's' => Property.whiteSpace
    | _ => Property.wordCharacters
  if unicode then k else k.inter CodeSet.ascii

end CharClass

end DocStore.Regex
