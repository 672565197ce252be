import ResourceAccessors.Toml.Quoted
import ResourceAccessors.Toml.Table

/-!
# Documents

The text of a document as the table that it holds. Line breaks, comments and a comma at the end may
stand in arrays and in tables within a line.
-/

namespace ResourceAccessors.Toml

open Reader

/-! ### Keys -/

/-- Whether `c` may stand in a key without quotes. -/
def isBareKeyChar (c : Char) : Bool :=
  c.isAlphanum || c = '-' || c = '_'

/-- A key without dots. -/
def simpleKey : Reader String := do
  match ← lineText? with
  | some key => return key
  | none =>
    let chars ← span isBareKeyChar
    if chars.isEmpty then failure else return String.ofList chars

/-- A key with the path in front of it. Blanks may stand around its dots and behind it. -/
def dottedKey : Reader (List String × String) := do
  let first ← simpleKey
  skipGaps
  let others ← repeated do
    if ← start? "." then
      skipGaps
      let key ← simpleKey
      skipGaps
      return some key
    else return none
  match (first :: others).reverse with
  | key :: path => return (path.reverse, key)
  | [] => failure

/-! ### Values -/

/-- Whether `c` may stand in a value without quotes. -/
def isScalarChar (c : Char) : Bool :=
  !(isGap c || ['=', ',', '[', ']', '\x7b', '\x7d', '#', '\r', '\n', '\'', '"'].contains c)

/-- Whether a date is all that was read and a time follows it behind one space. -/
def isSplitMoment (chars rest : List Char) : Bool :=
  afterDate? chars == some [] &&
    match rest with
    | ' ' :: c :: _ => c.isDigit
    | _ => false

/-- A value without quotes. -/
def scalar : Reader Value := do
  let first ← span isScalarChar
  let isSplit := isSplitMoment first (← get)
  let second ← if isSplit then span fun c => c = ' ' || isScalarChar c else pure []
  match scalar? (first ++ second) with
  | some value => return value
  | none => failure

/-- An assignment, given how values are read. -/
def assignment (value : Reader Value) : Reader Table.Assignment := do
  let (path, key) ← dottedKey
  char '='
  skipGaps
  return ⟨path, key, ← value⟩

/-- Items with commas between them, behind the opening of their list and up to its closing. -/
def items (closing : Char) (item : Reader α) : Reader (List α) :=
  repeated do
    skipLines
    if ← sees (· == closing) then
      char closing
      return none
    let value ← item
    skipLines
    if !(← sees (· == closing)) then char ','
    return some value

/-- A value that holds no other values. -/
def plainValue : Reader Value := do
  match ← quotedText? with
  | some text => return .text text
  | none => scalar

/-- A value in which arrays and tables nest at most `depth` deep. -/
def value : (depth : Nat) → Reader Value
  | 0 => plainValue
  | depth + 1 => do
    if ← start? "[" then return .array (← items ']' (value depth))
    else if ← start? "\x7b" then
      let assignments ← items '\x7d' (assignment (value depth))
      match Table.assignAll [] assignments with
      | some table => return (Node.table .header table).complete
      | none => failure
    else plainValue

/-- How deep arrays and tables may nest. -/
def deepestNesting : Nat :=
  80

/-! ### Lines -/

/-- All assignments up to the next header. -/
def assignments : Reader (List Table.Assignment) :=
  repeated do
    skipLines
    if (← get).isEmpty || (← sees (· == '[')) then return none
    let found ← assignment (value deepestNesting)
    endOfLine
    return some found

/-- A header and the assignments below it. -/
def headedSection : Reader Table.Section := do
  char '['
  let isItem ← start? "["
  skipGaps
  let (path, key) ← dottedKey
  char ']'
  if isItem then char ']'
  endOfLine
  return ⟨path, key, isItem, ← assignments⟩

/-- All sections to the end. -/
def sections : Reader (List Table.Section) :=
  repeated do
    if (← get).isEmpty then return none
    return some (← headedSection)

/-- The document without the mark of its byte order. -/
def unmarked : List Char → List Char
  | '\ufeff' :: rest => rest
  | chars => chars

/-- The entries of the table that a document holds, when it is well formed. -/
def parse? (document : String) : Option (List (String × Value)) := do
  let (first, rest) ← assignments.run (unmarked document.toList)
  let (added, _) ← sections.run rest
  let table ← added.foldlM Table.addSection (← Table.assignAll [] first)
  return completeEntries table

end ResourceAccessors.Toml
