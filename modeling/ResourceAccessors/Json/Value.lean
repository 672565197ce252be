/-!
# JSON values

Objects keep their fields in the order in which they were written, repeated ones included, and a
number keeps its text: who reads the value decides what repeats and which numbers are in range.
A string that is not the form of any text makes its value garbled, and so does one that names a field:
who reads the value may pass over what is garbled but cannot use it.
-/

namespace ResourceAccessors

/-- A JSON value. -/
inductive Json
  | null
  | bool (value : Bool)
  | number (text : String)
  | string (value : String)
  | array (items : List Json)
  | object (fields : List (String × Json))
  | garbled
  deriving Inhabited

namespace Json

/-- The array of the images of a list. -/
def ofList (encode : α → Json) (items : List α) : Json :=
  .array (items.map encode)

/-- A value that may be absent. -/
def ofOption (encode : α → Json) : Option α → Json
  | none => .null
  | some value => encode value

/-- The string of a text, when there is one. -/
def ofText? : Option String → Json
  | some text => .string text
  | none => .garbled

/-- The object of some fields, when all their names are texts. -/
def ofFields (fields : List (Option String × Json)) : Json :=
  match fields.mapM fun (name, value) => name.map (·, value) with
  | some fields => .object fields
  | none => .garbled

/-- The array of some texts. -/
def ofStrings (texts : List String) : Json :=
  ofList .string texts

/-- The number of a natural number. -/
def ofNat (value : Nat) : Json :=
  .number (toString value)

end Json

end ResourceAccessors
