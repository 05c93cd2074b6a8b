import DocStore.Order
import DocStore.Json.Printer

/-!
Document identifiers: twelve bytes, written as 24 lowercase hexadecimal digits.

Inside a document an identifier is the object `{"$oid": hex}`; reading takes that object,
or the text alone, in either case.

    ofText id.hex = .ok id                                   (ofText_hex)
    ofJson id.toJson = .ok id                                (ofJson_toJson)
-/

namespace DocStore

/-- The field that holds a document's identifier. -/
def idField : String := "_id"

/-- Twelve bytes by their digits. -/
structure Identifier where
  digits : List (Fin 16)
  length_digits : digits.length = 24
  deriving DecidableEq

namespace Identifier

/-! ## Text -/

def hex (id : Identifier) : String :=
  String.ofList (id.digits.map Hex.digit)

def toJson (id : Identifier) : Json :=
  .obj [(oidKey, .str id.hex)]

/-! ## Reading -/

/-- Why a text or a value is no identifier: its number of bytes, a byte that is no digit
and stands at an index, or the whole value. -/
inductive Fault where
  | length (text : String) (bytes : Nat)
  | character (text : String) (found : Char) (index : Nat)
  | value (v : Json)

def Fault.message : Fault → String
  | length s n =>
    "'" ++ s ++ "': provided hex string representation must be exactly 12 bytes, instead got: \""
      ++ s ++ "\", length " ++ n.repr
  | character s c i =>
    "'" ++ s ++ "': invalid character '" ++ c.toString ++ "' was found at index " ++ i.repr
      ++ " in the provided hex string: \"" ++ s ++ "\""
  | value v => v.render

/-- The identifier with the given digits, if there are 24 of them. -/
def ofDigits? (ds : List (Fin 16)) : Option Identifier :=
  if h : ds.length = 24 then some ⟨ds, h⟩ else none

/-- The fault of a text that is no identifier.  An odd number of bytes comes first, then
the first byte that is no digit, shown as the character of its number, then the length. -/
def faultOf (s : String) : Fault :=
  let bytes := s.toUTF8.toList.map fun b => Char.ofNat b.toNat
  if bytes.length % 2 = 1 then .length s bytes.length
  else
    match bytes.zipIdx.find? fun (c, _) => (Hex.value? c).isNone with
    | some (c, i) => .character s c i
    | none => .length s bytes.length

def ofText (s : String) : Except Fault Identifier :=
  match (Hex.values? s.toList).bind ofDigits? with
  | some id => .ok id
  | none => .error (faultOf s)

theorem ofText_hex (id : Identifier) : ofText id.hex = .ok id := by
  have hd : (Hex.values? id.hex.toList).bind ofDigits? = some id := by
    unfold hex
    rw [String.toList_ofList, Hex.values?_map_digit]
    show ofDigits? id.digits = some id
    unfold ofDigits?
    rw [dif_pos id.length_digits]
  unfold ofText
  rw [hd]

/-- The identifier that a text or an identifier object stands for. -/
def ofJson (v : Json) : Except Fault Identifier :=
  match v with
  | .str s => ofText s
  | .obj [(key, .str s)] =>
    if key = oidKey then
      match ofText s with
      | .ok id => .ok id
      | .error _ => .error (.value v)
    else .error (.value v)
  | _ => .error (.value v)

theorem ofJson_toJson (id : Identifier) : ofJson id.toJson = .ok id := by
  unfold ofJson toJson
  simp only [ofText_hex, if_true]

/-! ## Fresh identifiers -/

/-- A source of identifiers: a number that is not used again, and the part that tells this
source from others. -/
structure Source where
  origin : Nat
  next : Nat

/-- The `count` lowest hexadecimal digits of a number, highest first. -/
def lowDigits (n : Nat) : Nat → List (Fin 16)
  | 0 => []
  | count + 1 => lowDigits (n / 16) count ++ [Hex.lowest n]

theorem length_lowDigits (n count : Nat) : (lowDigits n count).length = count := by
  induction count generalizing n with
  | zero => rfl
  | succ count ih => simp [lowDigits, ih]

/-- The next identifier: eight bytes of origin, four of number. -/
def Source.take (s : Source) : Identifier × Source :=
  (⟨lowDigits s.origin 16 ++ lowDigits s.next 8, by simp [length_lowDigits]⟩,
    { s with next := s.next + 1 })

end Identifier

end DocStore
