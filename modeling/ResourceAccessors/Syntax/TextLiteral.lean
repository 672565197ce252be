import ResourceAccessors.Syntax.Literal
import ResourceAccessors.Text.Blank

/-!
# The texts of literals

What a text literal stands for. A raw literal stands for its content as it is. In any other, escapes
stand for their characters, a line break is a line feed, and a backslash at the end of a line takes
all blanks behind it away.
-/

namespace ResourceAccessors.Syntax

/-- The character for a letter behind a backslash. -/
def simpleEscape? : Char → Option Char
  | 'n' => some '\n'
  | 'r' => some '\r'
  | 't' => some '\t'
  | '\\' => some '\\'
  | '0' => some '\x00'
  | '\'' => some '\''
  | '"' => some '"'
  | _ => none

/-- The characters that the content of a literal stands for, up to its closing quote, when at most
`fuel` parts are left. -/
def cookedChars : Nat → List Char → Option (List Char)
  | 0, _ => none
  | _ + 1, [] => none
  | _ + 1, '"' :: _ => some []
  | fuel + 1, '\r' :: '\n' :: rest => (cookedChars fuel rest).map ('\n' :: ·)
  | fuel + 1, '\\' :: 'x' :: rest => do
    let (code, rest) ← readByteEscape rest
    (cookedChars fuel rest).map (Char.ofNat code :: ·)
  | fuel + 1, '\\' :: 'u' :: rest => do
    let (c, rest) ← readUnicodeEscape rest
    (cookedChars fuel rest).map (c :: ·)
  | fuel + 1, '\\' :: c :: rest =>
    if c = '\n' ∨ c = '\r' then cookedChars fuel (rest.dropWhile Text.isBlank)
    else do
      let c ← simpleEscape? c
      (cookedChars fuel rest).map (c :: ·)
  | fuel + 1, c :: rest => (cookedChars fuel rest).map (c :: ·)

/-- The content of a raw literal up to its closing, behind its opening quote. -/
def rawChars (hashes : List Char) : List Char → Option (List Char)
  | [] => none
  | '"' :: rest =>
    if hashes.isPrefixOf rest then some [] else (rawChars hashes rest).map ('"' :: ·)
  | c :: rest => (rawChars hashes rest).map (c :: ·)

/-- The text that a text literal stands for. -/
def textOfLiteral? (spelling : String) : Option String :=
  match spelling.toList with
  | '"' :: rest => (cookedChars (rest.length + 1) rest).map String.ofList
  | 'r' :: rest =>
    let hashes := rest.takeWhile (· = '#')
    match rest.dropWhile (· = '#') with
    | '"' :: body => (rawChars hashes body).map String.ofList
    | _ => none
  | _ => none

end ResourceAccessors.Syntax
