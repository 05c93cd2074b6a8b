import DocStore.Unicode.Age
import DocStore.Unicode.Segmentation

/-!
Properties of characters by name (Unicode 16.0).

A name is read without case, blanks, hyphens and underscores, and without `is` in front
(`plainName`).  Alone it stands for a property, a category or a script (`namedSet?`);
together with a value it stands for the characters that have this value (`valueSet?`).
-/

namespace DocStore.Unicode

/-- The name in lower case, without blanks, hyphens, underscores and what is not ASCII.  An
`is` in front is left out, except from `isc`, which abbreviates a name of its own. -/
def plainName (name : List Char) : String :=
  let plain (cs : List Char) : List Char :=
    (cs.filter fun c => c ≠ ' ' ∧ c ≠ '_' ∧ c ≠ '-' ∧ c.toNat < 0x80).map Char.toLower
  match name with
  | i :: s :: rest =>
    if i.toLower = 'i' ∧ s.toLower = 's' then
      if plain rest = ['c'] then "isc" else String.ofList (plain rest)
    else String.ofList (plain name)
  | _ => String.ofList (plain name)

/-- The characters that a plain name stands for. -/
def namedSet? (name : String) : Option CodeSet :=
  (NamedSet.find? Property.sets name).or
    ((NamedSet.find? Category.sets name).or (NamedSet.find? Script.sets name))

/-- The characters for which the property has the value; both are plain names. -/
def valueSet? (property value : String) : Option CodeSet :=
  match property with
  | "generalcategory" | "gc" => NamedSet.find? Category.sets value
  | "script" | "sc" => NamedSet.find? Script.sets value
  | "scriptextensions" | "scx" =>
    (Script.sets.find? fun k => k.names.contains value).map Script.extended
  | "age" => Age.upTo? value
  | "graphemeclusterbreak" | "gcb" => NamedSet.find? Segmentation.graphemeClasses value
  | "wordbreak" | "wb" => NamedSet.find? Segmentation.wordClasses value
  | "sentencebreak" | "sb" => NamedSet.find? Segmentation.sentenceClasses value
  | _ => none

end DocStore.Unicode
