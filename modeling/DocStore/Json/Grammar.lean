import DocStore.Json
import DocStore.Text.Hex

/-!
The grammar of JSON texts, and the reader of values above it.

`Json.Tree` is what a text says before any value is made of it: numerals as digits,
strings as units (characters and `\u` codes), objects with every entry.  A text that
fits the grammar may still hold no value: a numeral beyond the doubles, half of a
surrogate pair, too many levels (`Tree.value?`).

`Tree.ofText?` reads a whole text, `Json.ofText?` the value it stands for.
-/

namespace DocStore.Json

/-! ## Trees -/

/-- A numeral `± digits * 10 ^ exponent`; integral when written without point and
exponent. -/
structure Numeral where
  negative : Bool
  integral : Bool
  digits : Nat
  exponent : Int

/-- A piece of a string: a character, or the code of a `\u` escape. -/
inductive TextUnit where
  | char (c : Char)
  | code (n : Nat)

abbrev RawText := List TextUnit

inductive Tree where
  | null
  | bool (b : Bool)
  | number (n : Numeral)
  | string (s : RawText)
  | array (items : List Tree)
  | object (fields : List (RawText × Tree))

/-! ## Scanning -/

def isBlank (c : Char) : Bool :=
  c = ' ' || c = '\n' || c = '\r' || c = '\t'

def skipBlanks (cs : List Char) : List Char :=
  cs.dropWhile isBlank

/-- The value of a run of decimal digits. -/
def decimalValue (cs : List Char) : Nat :=
  cs.foldl (fun n c => 10 * n + (c.toNat - '0'.toNat)) 0

/-- The character behind a one-letter escape. -/
def escaped? : Char → Option Char
  | '"' => some '"'
  | '\\' => some '\\'
  | '/' => some '/'
  | 'b' => some '\x08'
  | 'f' => some '\x0c'
  | 'n' => some '\n'
  | 'r' => some '\r'
  | 't' => some '\t'
  | _ => none

/-- The units of a string up to its closing quote, and the text after it. -/
def scanString : List Char → Option (RawText × List Char)
  | [] => none
  | '"' :: rest => some ([], rest)
  | '\\' :: 'u' :: a :: b :: c :: d :: rest => do
    let (h, i, j, k) := (← Hex.value? a, ← Hex.value? b, ← Hex.value? c, ← Hex.value? d)
    let (units, rest) ← scanString rest
    return (.code (h * 4096 + i * 256 + j * 16 + k) :: units, rest)
  | '\\' :: e :: rest => do
    let c ← escaped? e
    let (units, rest) ← scanString rest
    return (.char c :: units, rest)
  | c :: rest =>
    if c = '\\' ∨ c.toNat < 0x20 then none
    else do
      let (units, rest) ← scanString rest
      return (.char c :: units, rest)

/-- The places after a point, if there is one; at least one digit has to follow it. -/
def scanFraction : List Char → Option (List Char × List Char)
  | '.' :: rest =>
    let places := rest.takeWhile Char.isDigit
    if places.isEmpty then none else some (places, rest.dropWhile Char.isDigit)
  | cs => some ([], cs)

/-- The exponent, if there is one. -/
def scanExponent (cs : List Char) : Option (Option Int × List Char) :=
  match cs with
  | e :: rest =>
    if e = 'e' ∨ e = 'E' then
      let (negative, rest) := match rest with
        | '+' :: r => (false, r)
        | '-' :: r => (true, r)
        | r => (false, r)
      let digits := rest.takeWhile Char.isDigit
      if digits.isEmpty then none
      else
        let n : Int := decimalValue digits
        some (some (if negative then -n else n), rest.dropWhile Char.isDigit)
    else some (none, cs)
  | [] => some (none, [])

/-- A numeral: no leading zeros, digits on both sides of a point. -/
def scanNumeral (cs : List Char) : Option (Numeral × List Char) := do
  let (negative, cs) := match cs with
    | '-' :: rest => (true, rest)
    | cs => (false, cs)
  let whole := cs.takeWhile Char.isDigit
  if whole.isEmpty ∨ (whole.head? = some '0' ∧ whole.length > 1) then none
  let (places, cs) ← scanFraction (cs.dropWhile Char.isDigit)
  let (exponent, cs) ← scanExponent cs
  return ({ negative, integral := places.isEmpty && exponent.isNone,
            digits := decimalValue (whole ++ places),
            exponent := exponent.getD 0 - places.length }, cs)

/-- The text after a word, if it starts with that word. -/
def after? (word : List Char) (cs : List Char) : Option (List Char) :=
  if word.isPrefixOf cs then some (cs.drop word.length) else none

/-! ## The grammar

Every call takes at least one character, so the length of the text bounds the calls. -/

mutual

def scanValue : Nat → List Char → Option (Tree × List Char)
  | 0, _ => none
  | fuel + 1, cs =>
    match skipBlanks cs with
    | [] => none
    | '"' :: rest => (scanString rest).map fun (s, rest) => (.string s, rest)
    | '[' :: rest =>
      match skipBlanks rest with
      | ']' :: rest => some (.array [], rest)
      | rest => (scanItems fuel rest).map fun (xs, rest) => (.array xs, rest)
    | '\x7b' :: rest =>
      match skipBlanks rest with
      | '\x7d' :: rest => some (.object [], rest)
      | rest => (scanFields fuel rest).map fun (es, rest) => (.object es, rest)
    | 'n' :: rest => (after? ['u', 'l', 'l'] rest).map (.null, ·)
    | 't' :: rest => (after? ['r', 'u', 'e'] rest).map (.bool true, ·)
    | 'f' :: rest => (after? ['a', 'l', 's', 'e'] rest).map (.bool false, ·)
    | rest => (scanNumeral rest).map fun (n, rest) => (.number n, rest)

def scanItems : Nat → List Char → Option (List Tree × List Char)
  | 0, _ => none
  | fuel + 1, cs => do
    let (x, rest) ← scanValue fuel cs
    match skipBlanks rest with
    | ']' :: rest => return ([x], rest)
    | ',' :: rest => do
      let (xs, rest) ← scanItems fuel rest
      return (x :: xs, rest)
    | _ => none

def scanFields : Nat → List Char → Option (List (RawText × Tree) × List Char)
  | 0, _ => none
  | fuel + 1, cs =>
    match skipBlanks cs with
    | '"' :: rest => do
      let (key, rest) ← scanString rest
      match skipBlanks rest with
      | ':' :: rest => do
        let (x, rest) ← scanValue fuel rest
        match skipBlanks rest with
        | '\x7d' :: rest => return ([(key, x)], rest)
        | ',' :: rest => do
          let (es, rest) ← scanFields fuel rest
          return ((key, x) :: es, rest)
        | _ => none
      | _ => none
    | _ => none

end

/-- The tree of a text that holds one value and blanks around it. -/
def Tree.ofText? (text : String) : Option Tree :=
  let cs := text.toList
  match scanValue (2 * cs.length + 2) cs with
  | some (t, rest) => if (skipBlanks rest).isEmpty then some t else none
  | none => none

/-! ## Values of trees -/

/-- Join a high and a low surrogate. -/
def joinSurrogates (high low : Nat) : Char :=
  Char.ofNat (0x10000 + (high - 0xD800) * 0x400 + (low - 0xDC00))

/-- The characters of a string; surrogates have to come in pairs of `\u` codes. -/
def RawText.chars? : RawText → Option (List Char)
  | [] => some []
  | .char c :: rest => (chars? rest).map (c :: ·)
  | .code n :: rest =>
    if 0xD800 ≤ n ∧ n < 0xDC00 then
      match rest with
      | .code m :: rest =>
        if 0xDC00 ≤ m ∧ m < 0xE000 then (chars? rest).map (joinSurrogates n m :: ·) else none
      | _ => none
    else if 0xDC00 ≤ n ∧ n < 0xE000 then none
    else (chars? rest).map (Char.ofNat n :: ·)

def RawText.string? (s : RawText) : Option String :=
  s.chars?.map String.ofList

mutual

/-- The value of a tree with at most `levels` levels of arrays and objects. -/
def Tree.value? : Nat → Tree → Option Json
  | _, .null => some .null
  | _, .bool b => some (.bool b)
  | _, .number n => (Number.ofNumeral? n.negative n.integral n.digits n.exponent).map .num
  | _, .string s => s.string?.map .str
  | 0, .array _ => none
  | 0, .object _ => none
  | levels + 1, .array xs => (itemValues? levels xs).map .arr
  | levels + 1, .object es => (fieldValues? levels es).map fun o => .obj (Object.ofEntries o)

def itemValues? : Nat → List Tree → Option (List Json)
  | _, [] => some []
  | levels, x :: xs => do
    let v ← Tree.value? levels x
    let vs ← itemValues? levels xs
    return v :: vs

def fieldValues? : Nat → List (RawText × Tree) → Option (List (String × Json))
  | _, [] => some []
  | levels, (k, x) :: es => do
    let key ← k.string?
    let v ← Tree.value? levels x
    let vs ← fieldValues? levels es
    return (key, v) :: vs

end

/-- Arrays and objects that may stand in each other. -/
def levelLimit : Nat := 127

/-- The value that a text stands for. -/
def ofText? (text : String) (levels : Nat) : Option Json :=
  (Tree.ofText? text).bind (Tree.value? levels)

end DocStore.Json
