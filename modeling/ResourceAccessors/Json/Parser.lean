import ResourceAccessors.Json.Value

/-!
# Read JSON

A text is one value with blanks around it. The marks of JSON are ASCII, so the reader goes over the
bytes of a text, each taken as the character with its code; only the bytes of a string are put
together. In a string, controls are escaped, and a pair of surrogates stands for one character. Bytes
that are not UTF-8 and a surrogate on its own leave the string garbled.
-/

namespace ResourceAccessors.Json

/-- What is left of a text when a reader took something from its front. -/
abbrev Reader (α : Type) := List Char → Option (α × List Char)

/-! ### Bytes -/

/-- The bytes of a character, each as the character with its code. -/
def spread (c : Char) : List Char :=
  (String.utf8EncodeChar c).map Char.ofUInt8

/-- What stands for a surrogate on its own: a byte that is no part of any text. -/
def loneSurrogate : Char :=
  '\xff'

/-- The text with some bytes. -/
def textOf? (content : List Char) : Option String :=
  String.fromUTF8? ⟨(content.map Char.toUInt8).toArray⟩

/-! ### Parts -/

/-- Whether `c` may stand between the parts of a text. -/
def isGap (c : Char) : Bool :=
  c = ' ' ∨ c = '\n' ∨ c = '\r' ∨ c = '\t'

/-- The characters after the blanks at the front. -/
def skipGaps (chars : List Char) : List Char :=
  chars.dropWhile isGap

/-- The value of a hexadecimal digit. -/
def hexDigit? (c : Char) : Option Nat :=
  if '0' ≤ c ∧ c ≤ '9' then some (c.toNat - '0'.toNat)
  else if 'a' ≤ c ∧ c ≤ 'f' then some (c.toNat - 'a'.toNat + 10)
  else if 'A' ≤ c ∧ c ≤ 'F' then some (c.toNat - 'A'.toNat + 10)
  else none

/-- The number of four hexadecimal digits. -/
def readUnit : Reader Nat
  | a :: b :: c :: d :: rest => do
    let a ← hexDigit? a
    let b ← hexDigit? b
    let c ← hexDigit? c
    let d ← hexDigit? d
    return (((a * 16 + b) * 16 + c) * 16 + d, rest)
  | _ => none

/-- The bytes of what is behind `\u`: one code unit, or a high and a low surrogate. -/
def readUnicode (chars : List Char) : Option (List Char × List Char) := do
  let (high, rest) ← readUnit chars
  if 0xD800 ≤ high ∧ high < 0xDC00 then
    match rest with
    | '\\' :: 'u' :: behind =>
      let (low, behind) ← readUnit behind
      if 0xDC00 ≤ low ∧ low < 0xE000 then
        return (spread (Char.ofNat (0x10000 + (high - 0xD800) * 0x400 + (low - 0xDC00))), behind)
      else return ([loneSurrogate], rest)
    | _ => return ([loneSurrogate], rest)
  else if 0xDC00 ≤ high ∧ high < 0xE000 then return ([loneSurrogate], rest)
  else return (spread (Char.ofNat high), rest)

/-- The bytes of what is behind a backslash. -/
def readEscape : Reader (List Char)
  | '"' :: rest => some (['"'], rest)
  | '\\' :: rest => some (['\\'], rest)
  | '/' :: rest => some (['/'], rest)
  | 'b' :: rest => some (['\x08'], rest)
  | 'f' :: rest => some (['\x0c'], rest)
  | 'n' :: rest => some (['\n'], rest)
  | 'r' :: rest => some (['\r'], rest)
  | 't' :: rest => some (['\t'], rest)
  | 'u' :: rest => readUnicode rest
  | _ => none

/-- The bytes of a string behind its opening quote, which stand at most `fuel` times. -/
def readChars : Nat → Reader (List Char)
  | 0, _ => none
  | _ + 1, [] => none
  | _ + 1, '"' :: rest => some ([], rest)
  | fuel + 1, '\\' :: rest => do
    let (front, rest) ← readEscape rest
    let (others, rest) ← readChars fuel rest
    return (front ++ others, rest)
  | fuel + 1, c :: rest =>
    if c.toNat < 0x20 then none
    else do
      let (others, rest) ← readChars fuel rest
      return (c :: others, rest)

/-- A string behind its opening quote, when its bytes are those of a text. -/
def readString (chars : List Char) : Option (Option String × List Char) := do
  let (content, rest) ← readChars (chars.length + 1) chars
  return (textOf? content, rest)

/-- The digits at the front, of which there is at least one. -/
def readDigits (chars : List Char) : Option (List Char × List Char) :=
  match chars.takeWhile Char.isDigit with
  | [] => none
  | digits => some (digits, chars.dropWhile Char.isDigit)

/-- The digits before the point: a zero stands alone. -/
def readInteger : Reader (List Char)
  | '0' :: rest =>
    match rest with
    | c :: _ => if c.isDigit then none else some (['0'], rest)
    | [] => some (['0'], rest)
  | chars => readDigits chars

/-- The point and the digits behind it, if there is a point. -/
def readFraction : Reader (List Char)
  | '.' :: rest => do
    let (digits, rest) ← readDigits rest
    return ('.' :: digits, rest)
  | chars => some ([], chars)

/-- The sign of an exponent, if there is one. -/
def readSign : List Char → List Char × List Char
  | '+' :: rest => (['+'], rest)
  | '-' :: rest => (['-'], rest)
  | chars => ([], chars)

/-- The exponent, if there is one. -/
def readExponent : Reader (List Char)
  | c :: rest =>
    if c = 'e' ∨ c = 'E' then do
      let (sign, rest) := readSign rest
      let (digits, rest) ← readDigits rest
      return (c :: sign ++ digits, rest)
    else some ([], c :: rest)
  | [] => some ([], [])

/-- A number, as its text. -/
def readNumber (chars : List Char) : Option (Json × List Char) := do
  let (sign, rest) :=
    match chars with
    | '-' :: rest => (['-'], rest)
    | other => ([], other)
  let (whole, rest) ← readInteger rest
  let (fraction, rest) ← readFraction rest
  let (exponent, rest) ← readExponent rest
  return (.number (String.ofList (sign ++ whole ++ fraction ++ exponent)), rest)

/-- The items of an array up to its closing bracket, at most `fuel` of them. -/
def readItems (item : Reader Json) : Nat → Reader (List Json)
  | 0, _ => none
  | fuel + 1, chars => do
    let (first, rest) ← item chars
    match skipGaps rest with
    | ',' :: rest =>
      let (others, rest) ← readItems item fuel rest
      return (first :: others, rest)
    | ']' :: rest => return ([first], rest)
    | _ => none

/-- The fields of an object up to its closing brace, at most `fuel` of them. -/
def readFields (item : Reader Json) : Nat → Reader (List (Option String × Json))
  | 0, _ => none
  | fuel + 1, chars => do
    match skipGaps chars with
    | '"' :: rest =>
      let (name, rest) ← readString rest
      match skipGaps rest with
      | ':' :: rest =>
        let (value, rest) ← item rest
        match skipGaps rest with
        | ',' :: rest =>
          let (others, rest) ← readFields item fuel rest
          return ((name, value) :: others, rest)
        | '}' :: rest => return ([(name, value)], rest)
        | _ => none
      | _ => none
    | _ => none

/-- A value that is no container. -/
def readScalar : Reader Json
  | 'n' :: 'u' :: 'l' :: 'l' :: rest => some (.null, rest)
  | 't' :: 'r' :: 'u' :: 'e' :: rest => some (.bool true, rest)
  | 'f' :: 'a' :: 'l' :: 's' :: 'e' :: rest => some (.bool false, rest)
  | '"' :: rest => do
    let (text, rest) ← readString rest
    return (.ofText? text, rest)
  | chars => readNumber chars

/-- A value in which containers nest at most `depth` deep. -/
def readValue : Nat → Reader Json
  | 0, chars => readScalar (skipGaps chars)
  | depth + 1, chars =>
    match skipGaps chars with
    | '[' :: rest =>
      match skipGaps rest with
      | ']' :: rest => some (.array [], rest)
      | _ => do
        let (items, rest) ← readItems (readValue depth) (rest.length + 1) rest
        return (.array items, rest)
    | '{' :: rest =>
      match skipGaps rest with
      | '}' :: rest => some (.object [], rest)
      | _ => do
        let (fields, rest) ← readFields (readValue depth) (rest.length + 1) rest
        return (.ofFields fields, rest)
    | scalar => readScalar scalar

/-- The value that the bytes of a text hold. Containers nest less deep than the text is long. -/
def ofBytes? (bytes : ByteArray) : Option Json := do
  let chars := bytes.data.toList.map Char.ofUInt8
  let (value, rest) ← readValue chars.length chars
  if (skipGaps rest).isEmpty then some value else none

/-- The value that a text holds. -/
def parse? (text : String) : Option Json :=
  ofBytes? text.toUTF8

end ResourceAccessors.Json
