/-!
Hexadecimal digits.  Reading takes either case, writing the lower one
(`Hex.value?_digit`).
-/

namespace DocStore.Hex

def value? (c : Char) : Option (Fin 16) :=
  match c with
  | '0' => some 0 | '1' => some 1 | '2' => some 2 | '3' => some 3
  | '4' => some 4 | '5' => some 5 | '6' => some 6 | '7' => some 7
  | '8' => some 8 | '9' => some 9
  | 'a' | 'A' => some 10 | 'b' | 'B' => some 11 | 'c' | 'C' => some 12
  | 'd' | 'D' => some 13 | 'e' | 'E' => some 14 | 'f' | 'F' => some 15
  | _ => none

def digit (d : Fin 16) : Char :=
  Nat.digitChar d

/-- The lowest digit of a number. -/
def lowest (n : Nat) : Fin 16 :=
  ⟨n % 16, Nat.mod_lt n (by decide)⟩

theorem value?_digit (d : Fin 16) : value? (digit d) = some d := by
  revert d; decide

/-- The digits of a text that holds nothing else. -/
def values? : List Char → Option (List (Fin 16))
  | [] => some []
  | c :: rest =>
    match value? c, values? rest with
    | some d, some ds => some (d :: ds)
    | _, _ => none

theorem values?_map_digit (ds : List (Fin 16)) : values? (ds.map digit) = some ds := by
  induction ds with
  | nil => rfl
  | cons d ds ih => simp [values?, value?_digit, ih]

end DocStore.Hex
