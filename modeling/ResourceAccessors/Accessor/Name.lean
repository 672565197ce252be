import ResourceAccessors.FilePath.FileName
import ResourceAccessors.Text.Casing
import ResourceAccessors.Text.Identifier

/-!
# Accessor names

The name of the accessor for a resource file. A character that cannot stand in an identifier is
spelled out (`(` as `_open_`) or written by its code point (`😀` as `_u1F600_`), with one
underscore between two such characters. An underscore goes before a first character that cannot
start an identifier, and the first character is put in upper case.
-/

namespace ResourceAccessors.Accessor

/-- The words for common characters that cannot stand in an identifier. -/
def wordFor? : Char → Option String
  | '.' => some "dot"
  | '-' => some "minus"
  | '+' => some "plus"
  | '*' => some "times"
  | '/' => some "slash"
  | '%' => some "pct"
  | '<' => some "lt"
  | '>' => some "gt"
  | '=' => some "eq"
  | '&' => some "amp"
  | '|' => some "pipe"
  | '^' => some "hat"
  | '!' => some "excl"
  | '?' => some "quest"
  | ':' => some "colon"
  | ',' => some "comma"
  | ';' => some "semi"
  | '~' => some "tilde"
  | '\x60' => some "grave"
  | '@' => some "at"
  | '#' => some "hash"
  | '$' => some "dollar"
  | '\\' => some "backslash"
  | '\'' => some "apos"
  | '"' => some "quot"
  | '[' => some "start"
  | ']' => some "end"
  | '{' => some "begin"
  | '}' => some "finish"
  | '(' => some "open"
  | ')' => some "close"
  | ' ' => some "space"
  | '\t' => some "tab"
  | '\r' => some "CR"
  | '\n' => some "LF"
  | _ => none

/-- The spelling of a character that cannot stand in an identifier. -/
def spellOut (c : Char) : List Char :=
  match wordFor? c with
  | some word => word.toList
  | none => 'u' :: (Nat.toDigits 16 c.toNat).map Char.toUpper

/-- The characters with those spelled out that cannot stand in an identifier. Behind a character
that was spelled out, the underscore before the next one is left out. -/
def transliterate (afterSpelled : Bool) : List Char → List Char
  | [] => []
  | c :: rest =>
    if Text.continuesIdentifier c then c :: transliterate false rest
    else (if afterSpelled then [] else ['_']) ++ spellOut c ++ '_' :: transliterate true rest

/-- The characters with an underscore in front of a first one that cannot start an identifier. -/
def anchor : List Char → List Char
  | [] => []
  | c :: rest =>
    if c ≠ '_' ∧ ¬ Text.startsIdentifier c then '_' :: c :: rest else c :: rest

/-- A text as an identifier. -/
def identifierFor (text : String) : String :=
  String.ofList (Text.upperFirst (anchor (transliterate false text.toList)))

/-- The identifiers that cannot name a function. -/
def reservedNames : List String :=
  ["", "_", "Self"]

/-- The name of the accessor for the file `fileName` on the type `typeName`. It is made from the
stem, or from the whole file name where the stem gives nothing or the name of the type. -/
def name (fileName typeName : String) : String :=
  let short := identifierFor (FileName.stem fileName)
  let chosen :=
    if short = "" ∨ short = typeName then identifierFor fileName else short
  if chosen ∈ reservedNames then chosen ++ "_" else chosen

end ResourceAccessors.Accessor
