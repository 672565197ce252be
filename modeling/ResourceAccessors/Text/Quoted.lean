import ResourceAccessors.Text.Quoted.Table

/-!
# Quoted texts

The literal form of a text. Quotes and backslashes are escaped by a backslash, the usual controls
by their letters, and every character that does not show on its own by its code point.
-/

namespace ResourceAccessors.Text

namespace Quoted

/-- The hexadecimal digits of a code point, in lower case. -/
def hexDigits (c : Char) : List Char :=
  Nat.toDigits 16 c.toNat

/-- The form of one character inside a literal. -/
def escape : Char → List Char
  | '"' => ['\\', '"']
  | '\\' => ['\\', '\\']
  | '\t' => ['\\', 't']
  | '\r' => ['\\', 'r']
  | '\n' => ['\\', 'n']
  | '\x00' => ['\\', '0']
  | c =>
    if hiddenTable.contains c then ['\\', 'u', '{'] ++ hexDigits c ++ ['}']
    else [c]

end Quoted

/-- The literal of a text. -/
def quote (text : String) : String :=
  String.ofList (['"'] ++ text.toList.flatMap Quoted.escape ++ ['"'])

end ResourceAccessors.Text
