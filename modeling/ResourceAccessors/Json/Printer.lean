import ResourceAccessors.Json.Value

/-!
# Written JSON

The shortest text of a value: no blanks, fields in their order, and only those characters escaped
that cannot stand in a string. What is garbled is written as null.
-/

namespace ResourceAccessors.Json

/-- The two hexadecimal digits of a number below 256. -/
def twoHexDigits (code : Nat) : List Char :=
  [Nat.digitChar (code / 16), Nat.digitChar (code % 16)]

/-- The form of one character inside a string. -/
def escape : Char → List Char
  | '"' => ['\\', '"']
  | '\\' => ['\\', '\\']
  | '\n' => ['\\', 'n']
  | '\r' => ['\\', 'r']
  | '\t' => ['\\', 't']
  | '\x08' => ['\\', 'b']
  | '\x0c' => ['\\', 'f']
  | c => if c.toNat < 0x20 then ['\\', 'u', '0', '0'] ++ twoHexDigits c.toNat else [c]

/-- A text as a JSON string. -/
def quote (text : String) : String :=
  String.ofList (['"'] ++ text.toList.flatMap escape ++ ['"'])

mutual

/-- The text of a value. -/
def print : Json → String
  | .null => "null"
  | .bool true => "true"
  | .bool false => "false"
  | .number text => text
  | .string value => quote value
  | .array items => "[" ++ ",".intercalate (printItems items) ++ "]"
  | .object fields => "\x7b" ++ ",".intercalate (printFields fields) ++ "\x7d"
  | .garbled => "null"

/-- The texts of the items of an array. -/
def printItems : List Json → List String
  | [] => []
  | item :: rest => print item :: printItems rest

/-- The texts of the fields of an object. -/
def printFields : List (String × Json) → List String
  | [] => []
  | (name, value) :: rest => (quote name ++ ":" ++ print value) :: printFields rest

end

end ResourceAccessors.Json
