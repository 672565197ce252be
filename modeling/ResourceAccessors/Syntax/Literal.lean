import ResourceAccessors.Syntax.Token
import ResourceAccessors.Text.Identifier

/-!
# Literals

The spelling of literals. Each reader takes a literal from the front of the source and gives the
source behind it; the text of the literal is what it took.
-/

namespace ResourceAccessors.Syntax

/-- What follows a spelling that was taken from the front of the source. -/
abbrev Spelling := List Char → Option (List Char)

/-- Whether `c` starts an identifier of source code. -/
def startsWord (c : Char) : Bool :=
  c = '_' || Text.startsIdentifier c

/-- Whether the source goes on with the start of a word. -/
def wordFollows : List Char → Bool
  | [] => false
  | c :: _ => startsWord c

/-- The source behind a word. -/
def afterWord? : Spelling
  | [] => none
  | c :: rest => if startsWord c then some (rest.dropWhile Text.continuesIdentifier) else none

/-- The source behind the suffix of a literal, if it has one. -/
def afterSuffix (source : List Char) : List Char :=
  (afterWord? source).getD source

/-- The source behind a fixed text. -/
def afterText? : List Char → Spelling
  | [], source => some source
  | _ :: _, [] => none
  | c :: expected, d :: source => if c = d then afterText? expected source else none

/-- The value of a hexadecimal digit. -/
def hexValue? (c : Char) : Option Nat :=
  if '0' ≤ c ∧ c ≤ '9' then some (c.toNat - '0'.toNat)
  else if 'a' ≤ c ∧ c ≤ 'f' then some (c.toNat - 'a'.toNat + 10)
  else if 'A' ≤ c ∧ c ≤ 'F' then some (c.toNat - 'A'.toNat + 10)
  else none

/-- The character behind `\x`: two hexadecimal digits. -/
def readByteEscape : List Char → Option (Nat × List Char)
  | high :: low :: rest => do
    let high ← hexValue? high
    let low ← hexValue? low
    return (high * 16 + low, rest)
  | _ => none

/-- The code point between the braces of `\u`, after `digits` digits with the value `value`. There
are one to six digits, with underscores between and behind them. -/
def readCodePoint (value digits : Nat) : List Char → Option (Nat × List Char)
  | [] => none
  | '_' :: rest => if digits = 0 then none else readCodePoint value digits rest
  | '}' :: rest => if digits = 0 then none else some (value, rest)
  | c :: rest => do
    let digit ← hexValue? c
    if digits = 6 then none else readCodePoint (value * 16 + digit) (digits + 1) rest

/-- Whether a number is the code point of a character. -/
def isCharCode (code : Nat) : Bool :=
  code < 0xD800 || (0xDFFF < code && code < 0x110000)

/-- The character behind `\u`. -/
def readUnicodeEscape : List Char → Option (Char × List Char)
  | '{' :: rest => do
    let (code, rest) ← readCodePoint 0 0 rest
    if isCharCode code then some (Char.ofNat code, rest) else none
  | _ => none

/-- The source behind the blanks of a line that continues after a backslash. A carriage return
stands only before a line feed. -/
def afterContinuation? (afterReturn : Bool) : Spelling
  | [] => none
  | '\n' :: rest => afterContinuation? false rest
  | c :: rest =>
    if afterReturn then none
    else if c = ' ' ∨ c = '\t' then afterContinuation? false rest
    else if c = '\r' then afterContinuation? true rest
    else some (c :: rest)

/-- Which contents a kind of quoted literal admits. -/
structure QuotedForm where
  /-- Whether a character may stand for itself. -/
  admits : Char → Bool
  /-- Whether `\x` may stand for this number. -/
  admitsByte : Nat → Bool
  /-- Whether `\u` may stand for this character. -/
  admitsUnicode : Char → Bool
  /-- Whether `\0` stands for the character zero. -/
  admitsZero : Bool

/-- The form of a text. -/
def QuotedForm.text : QuotedForm :=
  ⟨fun _ => true, (· < 0x80), fun _ => true, true⟩

/-- The form of a sequence of bytes. -/
def QuotedForm.bytes : QuotedForm :=
  ⟨(·.toNat < 0x80), fun _ => true, fun _ => false, true⟩

/-- The form of a sequence of bytes that ends at a zero, which it must not hold. -/
def QuotedForm.zeroEnded : QuotedForm :=
  ⟨(· ≠ '\x00'), (· ≠ 0), (· ≠ '\x00'), false⟩

/-- Whether `c` behind a backslash stands for one character. -/
def QuotedForm.isSimpleEscape (form : QuotedForm) (c : Char) : Bool :=
  c = 'n' || c = 'r' || c = 't' || c = '\\' || c = '\'' || c = '"' || (c = '0' && form.admitsZero)

/-- The source behind one escape, which starts after its backslash. -/
def QuotedForm.afterEscape? (form : QuotedForm) : Spelling
  | [] => none
  | 'x' :: rest => do
    let (code, rest) ← readByteEscape rest
    if form.admitsByte code then some rest else none
  | 'u' :: rest => do
    let (c, rest) ← readUnicodeEscape rest
    if form.admitsUnicode c then some rest else none
  | '\n' :: rest => afterContinuation? false rest
  | '\r' :: rest => afterContinuation? true rest
  | c :: rest => if form.isSimpleEscape c then some rest else none

/-- The source behind the closing quote of a literal, of which at most `fuel` parts are left. -/
def QuotedForm.afterBody? (form : QuotedForm) : Nat → Spelling
  | 0, _ => none
  | _ + 1, [] => none
  | _ + 1, '"' :: rest => some (afterSuffix rest)
  | fuel + 1, '\r' :: '\n' :: rest => form.afterBody? fuel rest
  | _ + 1, '\r' :: _ => none
  | fuel + 1, '\\' :: rest => do
    let rest ← form.afterEscape? rest
    form.afterBody? fuel rest
  | fuel + 1, c :: rest => if form.admits c then form.afterBody? fuel rest else none

/-- The source behind a quoted literal, which starts after its opening quote. -/
def QuotedForm.afterQuoted? (form : QuotedForm) (source : List Char) : Option (List Char) :=
  form.afterBody? (source.length + 1) source

/-- The source behind the closing of a raw literal with the given hashes. -/
def afterRawBody? (admits : Char → Bool) (hashes : List Char) : Spelling
  | [] => none
  | '"' :: rest =>
    match afterText? hashes rest with
    | some after => some (afterSuffix after)
    | none => afterRawBody? admits hashes rest
  | '\r' :: '\n' :: rest => afterRawBody? admits hashes rest
  | '\r' :: _ => none
  | c :: rest => if admits c then afterRawBody? admits hashes rest else none

/-- The most hashes that a raw literal has on each side. -/
def mostHashes : Nat :=
  255

/-- The source behind a raw literal, which starts at its hashes. -/
def afterRaw? (admits : Char → Bool) (source : List Char) : Option (List Char) :=
  let hashes := source.takeWhile (· = '#')
  match source.dropWhile (· = '#') with
  | '"' :: rest => if hashes.length ≤ mostHashes then afterRawBody? admits hashes rest else none
  | _ => none

/-- The source behind a text literal. -/
def afterTextLiteral? : Spelling
  | '"' :: rest => QuotedForm.text.afterQuoted? rest
  | 'r' :: rest => afterRaw? (fun _ => true) rest
  | _ => none

/-- The source behind a literal of several bytes. -/
def afterBytesLiteral? : Spelling
  | 'b' :: '"' :: rest => QuotedForm.bytes.afterQuoted? rest
  | 'b' :: 'r' :: rest => afterRaw? QuotedForm.bytes.admits rest
  | 'c' :: '"' :: rest => QuotedForm.zeroEnded.afterQuoted? rest
  | 'c' :: 'r' :: rest => afterRaw? QuotedForm.zeroEnded.admits rest
  | _ => none

/-- The source behind the closing quote of a single character. -/
def afterClosingQuote? : Spelling
  | '\'' :: rest => some (afterSuffix rest)
  | _ => none

/-- The source behind the one character of a literal. -/
def QuotedForm.afterOne? (form : QuotedForm) : Spelling
  | [] => none
  | '\\' :: 'x' :: rest => form.afterEscape? ('x' :: rest)
  | '\\' :: 'u' :: rest => form.afterEscape? ('u' :: rest)
  | '\\' :: c :: rest => if form.isSimpleEscape c then some rest else none
  | ['\\'] => none
  | c :: rest => if form.admits c then some rest else none

/-- The source behind a literal of one character or one byte. -/
def afterOneLiteral? : Spelling
  | 'b' :: '\'' :: rest => QuotedForm.bytes.afterOne? rest >>= afterClosingQuote?
  | '\'' :: rest => QuotedForm.text.afterOne? rest >>= afterClosingQuote?
  | _ => none

/-- The source behind a number, whose suffix is a word and which ends where no word goes on. -/
def afterNumber? (source : List Char) : Option (List Char) :=
  let rest := afterSuffix source
  match rest with
  | [] => some rest
  | c :: _ => if Text.continuesIdentifier c then none else some rest

/-- The source behind the exponent of a number, which starts after its letter: signs before the
first digit, of which there is at most one, then digits and underscores. -/
def afterExponent? (signed hasDigit : Bool) : Spelling
  | [] => if hasDigit then some [] else none
  | c :: rest =>
    if c = '+' ∨ c = '-' then
      if hasDigit then some (c :: rest)
      else if signed then none
      else afterExponent? true false rest
    else if c.isDigit then afterExponent? signed true rest
    else if c = '_' then afterExponent? signed hasDigit rest
    else if hasDigit then some (c :: rest)
    else none

/-- Whether a character may stand among the digits of a decimal number. -/
def isDecimalPart (c : Char) : Bool :=
  c.isDigit || c = '_'

/-- The source behind the digits of a number from its exponent on. Without digits, the letter of
the exponent is no part of a number that has a point. -/
def afterExponentPart? (pointed : Bool) (letter : Char) (rest : List Char) :
    Option (List Char) :=
  match afterExponent? false false rest with
  | some after => some after
  | none => if pointed then some (letter :: rest) else none

/-- The source behind the digits of a number with a point or an exponent. -/
def afterFloatDigits? (source : List Char) : Option (List Char) :=
  match source with
  | [] => none
  | first :: _ =>
    if first.isDigit then
      match source.dropWhile isDecimalPart with
      | '.' :: rest =>
        if rest.head? = some '.' ∨ wordFollows rest then none
        else
          match rest.dropWhile isDecimalPart with
          | 'e' :: after => afterExponentPart? true 'e' after
          | 'E' :: after => afterExponentPart? true 'E' after
          | after => some after
      | 'e' :: after => afterExponentPart? false 'e' after
      | 'E' :: after => afterExponentPart? false 'E' after
      | _ => none
    else none

/-- The digits of a number in a base, with `empty` while there is none. A digit that is too large
makes the number invalid; a letter that is no digit ends it. -/
def afterDigits? (base : Nat) (empty : Bool) : Spelling
  | [] => if empty then none else some []
  | c :: rest =>
    if c = '_' then
      if empty ∧ base = 10 then none else afterDigits? base empty rest
    else
      match hexValue? c with
      | some digit =>
        if digit < base then afterDigits? base false rest
        else if c.isDigit then none
        else if empty then none
        else some (c :: rest)
      | none => if empty then none else some (c :: rest)

/-- The source behind the digits of an integer. -/
def afterIntegerDigits? : Spelling
  | '0' :: 'x' :: rest => afterDigits? 16 true rest
  | '0' :: 'o' :: rest => afterDigits? 8 true rest
  | '0' :: 'b' :: rest => afterDigits? 2 true rest
  | source => afterDigits? 10 true source

/-- Whether the exponent letter of a decimal number starts an exponent: a sign follows, or digits
do. -/
def isExponent (hasDigit : Bool) : List Char → Bool
  | [] => hasDigit
  | c :: rest =>
    if c = '_' then isExponent hasDigit rest
    else if c = '+' ∨ c = '-' then true
    else if c.isDigit then isExponent true rest
    else hasDigit

/-- What kind of number a spelling is. -/
def numberKind (spelling : List Char) : LiteralKind :=
  match spelling with
  | '0' :: 'x' :: _ => .integer
  | '0' :: 'o' :: _ => .integer
  | '0' :: 'b' :: _ => .integer
  | _ =>
    match spelling.dropWhile isDecimalPart with
    | '.' :: _ => .float
    | 'e' :: rest => if isExponent false rest then .float else .integer
    | 'E' :: rest => if isExponent false rest then .float else .integer
    | _ => .integer

/-- The source behind a literal, and its kind once its spelling is known. -/
def afterLiteral? (source : List Char) : Option ((List Char → LiteralKind) × List Char) :=
  match afterTextLiteral? source with
  | some rest => some (fun _ => .text, rest)
  | none =>
    match (afterBytesLiteral? source).or (afterOneLiteral? source) with
    | some rest => some (fun _ => .other, rest)
    | none =>
      match (afterFloatDigits? source >>= afterNumber?).or
          (afterIntegerDigits? source >>= afterNumber?) with
      | some rest => some (numberKind, rest)
      | none => none

/-- The literal at the front of the source. -/
def readLiteral (source : List Char) : Option (TokenTree × List Char) := do
  let (kindOf, rest) ← afterLiteral? source
  let spelling := source.take (source.length - rest.length)
  return (.literal (kindOf spelling) (String.ofList spelling), rest)

end ResourceAccessors.Syntax
