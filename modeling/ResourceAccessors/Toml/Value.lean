/-!
# TOML values

What a document of Tom's Obvious Minimal Language holds. Of dates and of numbers with a fraction only
their kind is kept.
-/

namespace ResourceAccessors.Toml

/-- A value. A table holds no key twice. -/
inductive Value
  | text (content : String)
  | integer (number : Int)
  | fraction
  | flag (isSet : Bool)
  | time
  | array (items : List Value)
  | table (entries : List (String × Value))
  deriving Inhabited

namespace Value

/-- The content of a text. -/
def asText? : Value → Option String
  | .text content => some content
  | _ => none

/-- The number that an integer is. -/
def asInteger? : Value → Option Int
  | .integer number => some number
  | _ => none

/-- The truth value. -/
def asFlag? : Value → Option Bool
  | .flag isSet => some isSet
  | _ => none

/-- The contents of an array that holds texts only. -/
def asTexts? : Value → Option (List String)
  | .array items => items.mapM asText?
  | _ => none

end Value

end ResourceAccessors.Toml
