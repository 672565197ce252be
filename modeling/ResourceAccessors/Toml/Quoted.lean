import ResourceAccessors.Toml.Reader
import ResourceAccessors.Toml.Scalar

/-!
# Quoted texts

Texts between double quotes, in which a backslash starts an escape, and texts between single quotes,
in which nothing is escaped. Between three quotes a text goes over several lines.
-/

namespace ResourceAccessors.Toml

open Reader

/-- The character with a code, if there is one. -/
def charOfCode? (code : Nat) : Option Char :=
  if h : code.isValidChar then some (Char.ofNatAux code h) else none

/-- The character whose code is written with `count` hexadecimal digits. -/
def codeEscape (count : Nat) : Reader Char := do
  let chars ← get
  let digits := chars.take count
  if digits.length < count then failure
  set (chars.drop count)
  match digits.mapM (digit? 16) with
  | some values =>
    match charOfCode? (ofDigits 16 values) with
    | some c => return c
    | none => failure
  | none => failure

/-- The character that an escape stands for, behind its backslash. -/
def escape : Reader Char := do
  match ← take with
  | 'b' => return '\x08'
  | 't' => return '\t'
  | 'n' => return '\n'
  | 'f' => return '\x0c'
  | 'r' => return '\r'
  | 'e' => return '\x1b'
  | '"' => return '"'
  | '\\' => return '\\'
  | 'x' => codeEscape 2
  | 'u' => codeEscape 4
  | 'U' => codeEscape 8
  | _ => failure

/-- A character that a text holds as it is. -/
def plainChar : Reader Char := do
  let c ← take
  if isControl c then failure else return c

/-- A text in one line, behind its opening quote. -/
def line (quote : Char) (hasEscapes : Bool) : Reader String := do
  let chars ← repeated do
    if ← sees (· == quote) then
      char quote
      return none
    else if hasEscapes && (← sees (· == '\\')) then
      char '\\'
      return some (← escape)
    else return some (← plainChar)
  return String.ofList chars

/-- The quotes that come next, where three of them close a text and up to two more in front of them
belong to it; nothing when they do close it, and then the quotes of the text. -/
def quotes (quote : Char) : Reader (List Char × Bool) := do
  let found := ((← get).takeWhile (· == quote)).take 5
  set ((← get).drop found.length)
  return if found.length < 3 then (found, false) else (found.drop 3, true)

/-- A backslash at the end of a line, with all blanks and line breaks behind it, if it comes next. -/
def foldedBreak? : Reader Bool := do
  let chars ← get
  match (chars.drop 1).dropWhile isGap with
  | '\n' :: rest =>
    set rest
    discard (repeated do
      skipGaps
      return if ← lineBreak? then some () else none)
    return true
  | '\r' :: '\n' :: rest =>
    set rest
    discard (repeated do
      skipGaps
      return if ← lineBreak? then some () else none)
    return true
  | _ => return false

/-- A part of a text over several lines that starts with no quote. -/
def linesPart (hasEscapes : Bool) : Reader (List Char) := do
  if hasEscapes && (← sees (· == '\\')) then
    if ← foldedBreak? then return []
    char '\\'
    return [← escape]
  else if ← start? "\n" then return ['\n']
  else if ← start? "\r\n" then return ['\r', '\n']
  else return [← plainChar]

/-- The parts of a text over several lines up to its closing quotes. -/
def linesParts (quote : Char) (hasEscapes : Bool) : Nat → Reader (List Char)
  | 0 => failure
  | fuel + 1 => do
    if ← sees (· == quote) then
      let (held, isClosed) ← quotes quote
      if isClosed then return held
      return held ++ (← linesParts quote hasEscapes fuel)
    else
      let part ← linesPart hasEscapes
      return part ++ (← linesParts quote hasEscapes fuel)

/-- A text over several lines, behind its opening quotes. A line break right behind them does not
belong to it. -/
def lines (quote : Char) (hasEscapes : Bool) : Reader String := do
  discard lineBreak?
  return String.ofList (← linesParts quote hasEscapes ((← get).length + 1))

/-- A text in one line, if one comes next. -/
def lineText? : Reader (Option String) := do
  if ← start? "\"" then return some (← line '"' true)
  else if ← start? "'" then return some (← line '\'' false)
  else return none

/-- A text of any form, if one comes next. -/
def quotedText? : Reader (Option String) := do
  if ← start? "\"\"\"" then return some (← lines '"' true)
  else if ← start? "'''" then return some (← lines '\'' false)
  else lineText?

end ResourceAccessors.Toml
