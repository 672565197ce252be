/-!
# Reading a document from its front

Readers of characters, and what may stand between the parts of a document.
-/

namespace ResourceAccessors.Toml

/-- A reader of the characters that are left. -/
abbrev Reader (α : Type) := StateT (List Char) Option α

namespace Reader

/-- Whether the next character passes a test. -/
def sees (test : Char → Bool) : Reader Bool := do
  return (← get).head?.any test

/-- Take the next character. -/
def take : Reader Char := do
  match ← get with
  | c :: rest =>
    set rest
    return c
  | [] => failure

/-- Take the character `c`. -/
def char (c : Char) : Reader Unit := do
  if (← take) = c then return else failure

/-- Take the characters of a text if they come next. -/
def start? (text : String) : Reader Bool := do
  let chars ← get
  if text.toList.isPrefixOf chars then
    set (chars.drop text.toList.length)
    return true
  else return false

/-- Take characters for as long as they pass a test. -/
def span (test : Char → Bool) : Reader (List Char) := do
  let chars ← get
  set (chars.dropWhile test)
  return chars.takeWhile test

/-- Repeat a step until it gives nothing, at most `fuel` times. -/
def repeatUpTo (step : Reader (Option α)) : Nat → Reader (List α)
  | 0 => failure
  | fuel + 1 => do
    match ← step with
    | none => return []
    | some first => return first :: (← repeatUpTo step fuel)

/-- Repeat a step until it gives nothing. Every step but the last one takes a character. -/
def repeated (step : Reader (Option α)) : Reader (List α) := do
  repeatUpTo step ((← get).length + 1)

/-! ### Between the parts -/

/-- Whether `c` is a control character that texts and comments cannot hold. -/
def isControl (c : Char) : Bool :=
  (c.toNat < 0x20 && c != '\t') || c.toNat = 0x7f

/-- Whether `c` is a blank inside a line. -/
def isGap (c : Char) : Bool :=
  c = ' ' || c = '\t'

/-- Skip the blanks inside a line. -/
def skipGaps : Reader Unit :=
  discard (span isGap)

/-- Skip a comment if one comes next. -/
def skipComment : Reader Unit := do
  if ← start? "#" then discard (span fun c => !isControl c)

/-- Take a line break if one comes next. -/
def lineBreak? : Reader Bool := do
  if ← start? "\n" then return true
  else start? "\r\n"

/-- Skip blanks, line breaks and comments. -/
def skipLines : Reader Unit :=
  discard (repeated do
    skipGaps
    skipComment
    return if ← lineBreak? then some () else none)

/-- Take the end of a line, or nothing at the end of the document. -/
def endOfLine : Reader Unit := do
  skipGaps
  skipComment
  if !(← lineBreak?) && !(← get).isEmpty then failure

end Reader

end ResourceAccessors.Toml
