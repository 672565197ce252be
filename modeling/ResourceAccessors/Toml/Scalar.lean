import ResourceAccessors.Toml.Value

/-!
# Values without quotes

Numbers, truth values, dates and times. Numbers may have single underscores between their digits,
whole numbers have no zero in front, and the seconds of a time may be missing.
-/

namespace ResourceAccessors.Toml

/-! ### Digits -/

/-- The value of a digit. -/
def digit? (base : Nat) (c : Char) : Option Nat :=
  let value :=
    if '0' ≤ c ∧ c ≤ '9' then c.toNat - '0'.toNat
    else if 'a' ≤ c ∧ c ≤ 'f' then c.toNat - 'a'.toNat + 10
    else if 'A' ≤ c ∧ c ≤ 'F' then c.toNat - 'A'.toNat + 10
    else base
  if value < base then some value else none

/-- The digits of a number with single underscores between them; nothing when an underscore has no
digit before or behind it. -/
def digits? (base : Nat) : List Char → Option (List Nat)
  | [] => none
  | [c] => do return [← digit? base c]
  | c :: '_' :: rest => do return (← digit? base c) :: (← digits? base rest)
  | c :: rest => do return (← digit? base c) :: (← digits? base rest)

/-- The number with the given digits. -/
def ofDigits (base : Nat) (digits : List Nat) : Nat :=
  digits.foldl (fun value digit => value * base + digit) 0

/-- The digits of a whole number in decimal form, which has no needless zero in front. -/
def wholeDigits? (chars : List Char) : Option (List Nat) := do
  let digits ← digits? 10 chars
  match digits with
  | 0 :: _ :: _ => none
  | _ => some digits

/-- A sign and what follows it; the result says whether the sign is a minus. -/
def splitSign : List Char → Bool × List Char
  | '-' :: rest => (true, rest)
  | '+' :: rest => (false, rest)
  | chars => (false, chars)

/-! ### Numbers -/

/-- A whole number with or without a sign, in decimal form. -/
def decimal? (chars : List Char) : Option Int := do
  let (isNegative, rest) := splitSign chars
  let size := ofDigits 10 (← wholeDigits? rest)
  return if isNegative then -(size : Int) else size

/-- A whole number, possibly in another base than ten. -/
def number? : List Char → Option Int
  | '0' :: 'x' :: rest => (digits? 16 rest).map fun digits => (ofDigits 16 digits : Int)
  | '0' :: 'o' :: rest => (digits? 8 rest).map fun digits => (ofDigits 8 digits : Int)
  | '0' :: 'b' :: rest => (digits? 2 rest).map fun digits => (ofDigits 2 digits : Int)
  | chars => decimal? chars

/-- Whether a whole number has a size that a document may hold: 128 bits, with or without a sign. -/
def isHeld (number : Int) : Bool :=
  if number < 0 then number.natAbs ≤ 1 <<< 127 else number.natAbs < 1 <<< 128

/-- Whether digits times a power of ten are too large for a number of double precision. -/
def isTooLarge (digits : List Nat) (exponent : Int) : Bool :=
  let significant := digits.dropWhile (· = 0)
  let size : Int := significant.length + exponent
  if significant.isEmpty ∨ size < 300 then false
  else if size > 400 then true
  else
    let limit : Nat := (1 <<< 1024) - (1 <<< 970)
    let number := ofDigits 10 significant
    if exponent < 0 then limit * Nat.pow 10 exponent.natAbs ≤ number
    else limit ≤ number * Nat.pow 10 exponent.toNat

/-- The exponent behind its letter, which may have zeros in front. -/
def exponent? (chars : List Char) : Option Int := do
  let (isNegative, rest) := splitSign chars
  let size := ofDigits 10 (← digits? 10 rest)
  return if isNegative then -(size : Int) else size

/-- Whether characters are a number with a fraction or an exponent, or one that is no number. -/
def isFraction (chars : List Char) : Bool :=
  let (_, unsigned) := splitSign chars
  if unsigned = "inf".toList ∨ unsigned = "nan".toList then true
  else
    let isLetter (c : Char) : Bool := c = 'e' || c = 'E'
    let mantissa := unsigned.takeWhile (!isLetter ·)
    let power := unsigned.dropWhile (!isLetter ·)
    let whole := mantissa.takeWhile (· != '.')
    let part := mantissa.dropWhile (· != '.')
    let found : Option (List Nat × Int) := do
      if part.isEmpty && power.isEmpty then failure
      let whole ← wholeDigits? whole
      let part ← if part.isEmpty then some [] else digits? 10 (part.drop 1)
      let exponent ← if power.isEmpty then some 0 else exponent? (power.drop 1)
      return (whole ++ part, exponent - part.length)
    match found with
    | some (digits, exponent) => !isTooLarge digits exponent
    | none => false

/-! ### Dates and times -/

/-- The number of two digits at the front. -/
def twoDigits? : List Char → Option (Nat × List Char)
  | a :: b :: rest => do return (10 * (← digit? 10 a) + (← digit? 10 b), rest)
  | _ => none

/-- How many days a month has. -/
def daysOfMonth (year month : Nat) : Nat :=
  if month = 2 then
    if year % 4 = 0 ∧ (year % 100 ≠ 0 ∨ year % 400 = 0) then 29 else 28
  else if month = 4 ∨ month = 6 ∨ month = 9 ∨ month = 11 then 30
  else 31

/-- What follows a date, when the characters start with one. -/
def afterDate? (chars : List Char) : Option (List Char) := do
  let (century, rest) ← twoDigits? chars
  let (year, rest) ← twoDigits? rest
  match rest with
  | '-' :: rest =>
    let (month, rest) ← twoDigits? rest
    match rest with
    | '-' :: rest =>
      let (day, rest) ← twoDigits? rest
      if 1 ≤ month ∧ month ≤ 12 ∧ 1 ≤ day ∧ day ≤ daysOfMonth (century * 100 + year) month then
        some rest
      else none
    | _ => none
  | _ => none

/-- What follows a colon and two digits that stand for at most `largest`. -/
def afterPart? (largest : Nat) : List Char → Option (List Char)
  | ':' :: rest => do
    let (value, rest) ← twoDigits? rest
    if value ≤ largest then some rest else none
  | _ => none

/-- What follows the digits behind the point of the seconds, if there is one. -/
def afterFraction? : List Char → Option (List Char)
  | '.' :: c :: rest =>
    if c.isDigit then some (rest.dropWhile Char.isDigit) else none
  | '.' :: [] => none
  | chars => some chars

/-- What follows a time of the day, when the characters start with one. -/
def afterTime? (chars : List Char) : Option (List Char) := do
  let (hour, rest) ← twoDigits? chars
  if hour > 23 then failure
  let rest ← afterPart? 59 rest
  match rest with
  | ':' :: _ => afterFraction? (← afterPart? 60 rest)
  | _ => return rest

/-- Whether characters are the distance of a place from the time of Greenwich, or nothing. -/
def isOffset : List Char → Bool
  | [] => true
  | ['Z'] => true
  | ['z'] => true
  | sign :: rest =>
    (sign = '+' || sign = '-') &&
      match twoDigits? rest with
      | some (hours, rest) => hours ≤ 23 && afterPart? 59 rest == some []
      | none => false

/-- Whether characters are a date, a time, or both with a `T` or one space between them. -/
def isMoment (chars : List Char) : Bool :=
  match afterDate? chars with
  | some [] => true
  | some (between :: rest) =>
    (between = 'T' || between = 't' || between = ' ') &&
      match afterTime? rest with
      | some offset => isOffset offset
      | none => false
  | none => afterTime? chars == some []

/-- The value that characters without quotes stand for. -/
def scalar? (chars : List Char) : Option Value :=
  if chars = "true".toList then some (.flag true)
  else if chars = "false".toList then some (.flag false)
  else if isMoment chars then some .time
  else if isFraction chars then some .fraction
  else
    match number? chars with
    | some number => if isHeld number then some (.integer number) else none
    | none => none

end ResourceAccessors.Toml
