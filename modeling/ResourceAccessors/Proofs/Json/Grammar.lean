import ResourceAccessors.Json.Parser

/-!
# The grammar of JSON

What the front of a text spells, told without a reader: each relation holds between a text, what its
front stands for, and the rest behind it. The reader accepts nothing that the grammar does not have.
-/

namespace ResourceAccessors.Json

/-! ### Strings -/

/-- The front is four hexadecimal digits, the code of a unit. -/
inductive Unit16 : List Char → Nat → List Char → Prop
  | digits {a b c d : Char} {w x y z : Nat} {rest} (first : hexDigit? a = some w)
      (second : hexDigit? b = some x) (third : hexDigit? c = some y) (fourth : hexDigit? d = some z) :
      Unit16 (a :: b :: c :: d :: rest) (w * 4096 + x * 256 + y * 16 + z) rest

/-- The first unit of a pair of surrogates. -/
def IsHigh (code : Nat) : Prop :=
  0xD800 ≤ code ∧ code < 0xDC00

/-- The second unit of a pair of surrogates. -/
def IsLow (code : Nat) : Prop :=
  0xDC00 ≤ code ∧ code < 0xE000

/-- What may stand behind a backslash, apart from units, and the character that it stands for. -/
def marks : List (Char × Char) :=
  [('"', '"'), ('\\', '\\'), ('/', '/'), ('b', '\x08'), ('f', '\x0c'), ('n', '\n'), ('r', '\r'),
   ('t', '\t')]

/-- The front is one character of a string, which stands for some bytes. -/
inductive Letter : List Char → List Char → List Char → Prop
  | plain {c rest} (notQuote : c ≠ '"') (notBackslash : c ≠ '\\') (visible : 0x20 ≤ c.toNat) :
      Letter (c :: rest) [c] rest
  | mark {c meant rest} (known : (c, meant) ∈ marks) : Letter ('\\' :: c :: rest) [meant] rest
  | unit {chars code rest} (unit : Unit16 chars code rest) (notHigh : ¬ IsHigh code)
      (notLow : ¬ IsLow code) : Letter ('\\' :: 'u' :: chars) (spread (Char.ofNat code)) rest
  | pair {chars high middle low rest} (first : Unit16 chars high ('\\' :: 'u' :: middle))
      (second : Unit16 middle low rest) (isHigh : IsHigh high) (isLow : IsLow low) :
      Letter ('\\' :: 'u' :: chars)
        (spread (Char.ofNat (0x10000 + (high - 0xD800) * 0x400 + (low - 0xDC00)))) rest
  | lone {chars code rest} (unit : Unit16 chars code rest) (surrogate : IsHigh code ∨ IsLow code) :
      Letter ('\\' :: 'u' :: chars) [loneSurrogate] rest

/-- The front is a string behind its opening quote, which stands for some bytes. -/
inductive Letters : List Char → List Char → List Char → Prop
  | closed {rest} : Letters ('"' :: rest) [] rest
  | more {chars bytes middle others rest} (first : Letter chars bytes middle)
      (onward : Letters middle others rest) : Letters chars (bytes ++ others) rest

/-! ### Numbers -/

/-- The front is some digits, at least one. -/
inductive Digits : List Char → List Char → List Char → Prop
  | last {c rest} (digit : c.isDigit = true) : Digits (c :: rest) [c] rest
  | more {c chars others rest} (digit : c.isDigit = true) (onward : Digits chars others rest) :
      Digits (c :: chars) (c :: others) rest

/-- The front is the sign of a number, or nothing. -/
inductive Minus : List Char → List Char → List Char → Prop
  | absent {rest} : Minus rest [] rest
  | present {rest} : Minus ('-' :: rest) ['-'] rest

/-- The front is the digits before the point, with no needless zero. -/
inductive Whole : List Char → List Char → List Char → Prop
  | zero {rest} : Whole ('0' :: rest) ['0'] rest
  | digits {c chars digits rest} (notZero : c ≠ '0') (all : Digits (c :: chars) digits rest) :
      Whole (c :: chars) digits rest

/-- The front is the point and the digits behind it, or nothing. -/
inductive Fraction : List Char → List Char → List Char → Prop
  | absent {rest} : Fraction rest [] rest
  | present {chars digits rest} (all : Digits chars digits rest) :
      Fraction ('.' :: chars) ('.' :: digits) rest

/-- The front is the sign of an exponent, or nothing. -/
inductive Sign : List Char → List Char → List Char → Prop
  | absent {rest} : Sign rest [] rest
  | plus {rest} : Sign ('+' :: rest) ['+'] rest
  | minus {rest} : Sign ('-' :: rest) ['-'] rest

/-- The front is an exponent, or nothing. -/
inductive Exponent : List Char → List Char → List Char → Prop
  | absent {rest} : Exponent rest [] rest
  | present {mark chars sign middle digits rest} (known : mark = 'e' ∨ mark = 'E')
      (signed : Sign chars sign middle) (all : Digits middle digits rest) :
      Exponent (mark :: chars) (mark :: (sign ++ digits)) rest

/-- The front is a number with some text. -/
inductive Number : List Char → List Char → List Char → Prop
  | parts {chars sign first whole second fraction third exponent rest} (minus : Minus chars sign first)
      (integer : Whole first whole second) (decimals : Fraction second fraction third)
      (power : Exponent third exponent rest) :
      Number chars (sign ++ whole ++ fraction ++ exponent) rest

/-! ### Values -/

/-- The front is blanks. -/
inductive Gaps : List Char → List Char → Prop
  | none {rest} : Gaps rest rest
  | more {c chars rest} (gap : isGap c = true) (onward : Gaps chars rest) : Gaps (c :: chars) rest

mutual

/-- The front is a value. -/
inductive Spelled : List Char → Json → List Char → Prop
  | null {rest} : Spelled ('n' :: 'u' :: 'l' :: 'l' :: rest) .null rest
  | yes {rest} : Spelled ('t' :: 'r' :: 'u' :: 'e' :: rest) (.bool true) rest
  | no {rest} : Spelled ('f' :: 'a' :: 'l' :: 's' :: 'e' :: rest) (.bool false) rest
  | number {chars text rest} (parts : Number chars text rest) :
      Spelled chars (.number (String.ofList text)) rest
  | string {chars bytes rest} (letters : Letters chars bytes rest) :
      Spelled ('"' :: chars) (.ofText? (textOf? bytes)) rest
  | emptyArray {chars rest} (closed : Gaps chars (']' :: rest)) :
      Spelled ('[' :: chars) (.array []) rest
  | array {chars items rest} (all : SpelledItems chars items rest) :
      Spelled ('[' :: chars) (.array items) rest
  | emptyObject {chars rest} (closed : Gaps chars ('\x7d' :: rest)) :
      Spelled ('\x7b' :: chars) (.object []) rest
  | object {chars fields rest} (all : SpelledFields chars fields rest) :
      Spelled ('\x7b' :: chars) (.ofFields fields) rest

/-- The front is the items of an array with the bracket behind them. -/
inductive SpelledItems : List Char → List Json → List Char → Prop
  | last {chars start item behind rest} (before : Gaps chars start) (first : Spelled start item behind)
      (closed : Gaps behind (']' :: rest)) : SpelledItems chars [item] rest
  | more {chars start item behind next others rest} (before : Gaps chars start)
      (first : Spelled start item behind) (comma : Gaps behind (',' :: next))
      (onward : SpelledItems next others rest) : SpelledItems chars (item :: others) rest

/-- The front is the fields of an object with the brace behind them. -/
inductive SpelledFields : List Char → List (Option String × Json) → List Char → Prop
  | last {chars key bytes named value start item behind rest} (before : Gaps chars ('"' :: key))
      (name : Letters key bytes named) (colon : Gaps named (':' :: value)) (after : Gaps value start)
      (first : Spelled start item behind) (closed : Gaps behind ('\x7d' :: rest)) :
      SpelledFields chars [(textOf? bytes, item)] rest
  | more {chars key bytes named value start item behind next others rest}
      (before : Gaps chars ('"' :: key)) (name : Letters key bytes named)
      (colon : Gaps named (':' :: value)) (after : Gaps value start)
      (first : Spelled start item behind) (comma : Gaps behind (',' :: next))
      (onward : SpelledFields next others rest) :
      SpelledFields chars ((textOf? bytes, item) :: others) rest

end

section Reader

variable {chars rest : List Char}

variable {item : Reader Json} {fuel : Nat}

end Reader

end ResourceAccessors.Json
