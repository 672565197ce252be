import ResourceAccessors.Json.Value
import ResourceAccessors.Keyed

/-!
# Reading stored values

A stored structure is an object with its fields by name, or an array of its fields in order. A field
that is absent reads as null, a field that is no part of the structure is passed over, and a field
that is given twice makes the structure unreadable.
-/

namespace ResourceAccessors.Stored

/-- A reading of JSON values, which fails on a value of another shape. -/
abbrev Decoder (α : Type) := Json → Option α

/-- A text. -/
def text : Decoder String
  | .string value => some value
  | _ => none

/-- A truth value. -/
def flag : Decoder Bool
  | .bool value => some value
  | _ => none

/-- A natural number, written as its digits. -/
def natural : Decoder Nat
  | .number digits => if digits.toList.all Char.isDigit then digits.toNat? else none
  | _ => none

/-- A value or null. -/
def optional (item : Decoder α) : Decoder (Option α)
  | .null => some none
  | value => (item value).map some

/-- Every value of a list read, when all of them can be. -/
def readAll (item : Decoder α) : List Json → Option (List α)
  | [] => some []
  | value :: rest => do
    let first ← item value
    let others ← readAll item rest
    return first :: others

/-- A list. -/
def list (item : Decoder α) : Decoder (List α)
  | .array items => readAll item items
  | _ => none

/-- Every field of an object read, when all of them can be. -/
def readEntries (item : Decoder α) : List (String × Json) → Option (List (String × α))
  | [] => some []
  | (key, value) :: rest => do
    let first ← item value
    let others ← readEntries item rest
    return (key, first) :: others

/-- A map from texts; of several values under one key the last one counts. -/
def keyed (item : Decoder α) : Decoder (Keyed α)
  | .object fields => (readEntries item fields).map Keyed.ofList
  | _ => none

/-- The value of the field `name`. -/
def fieldNamed (fields : List (String × Json)) (name : String) : Option Json :=
  match fields.filter fun field => field.1 == name with
  | [] => some .null
  | [(_, value)] => some value
  | _ => none

/-- The values of the named fields, in the order of the names. -/
def fieldsNamed (fields : List (String × Json)) : List String → Option (List Json)
  | [] => some []
  | name :: rest => do
    let first ← fieldNamed fields name
    let others ← fieldsNamed fields rest
    return first :: others

/-- The values of the fields of a structure with the given field names. -/
def structureFields (names : List String) : Decoder (List Json)
  | .object fields => fieldsNamed fields names
  | .array items => if items.length = names.length then some items else none
  | _ => none

/-- The name of a variant and what it carries; null when it is written by its name alone. -/
def variant : Decoder (String × Json)
  | .string name => some (name, .null)
  | .object [(name, value)] => some (name, value)
  | _ => none

/-- The object of a map. -/
def ofKeyed (encode : α → Json) (map : Keyed α) : Json :=
  .object (map.entries.map fun (key, value) => (key, encode value))

end ResourceAccessors.Stored
