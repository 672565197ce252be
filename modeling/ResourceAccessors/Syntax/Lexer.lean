import ResourceAccessors.Syntax.Blank
import ResourceAccessors.Syntax.Literal
import ResourceAccessors.Text.Quoted

/-!
# From source to token trees

The source is first cut into lexemes, where an opening and a closing bracket are lexemes of their
own, and then nested into groups. A comment that documents something becomes an attribute. A source
with an unknown character, an unfinished literal or brackets that do not match has no tokens.
-/

namespace ResourceAccessors.Syntax

/-- A piece of the source: a bracket, or tokens. -/
inductive Lexeme
  | opening (delimiter : Delimiter)
  | closing (delimiter : Delimiter)
  | tokens (tokens : Tokens)
  deriving Repr, Inhabited

/-- The literal of a text in an attribute that stands for a comment. A zero before an octal digit
is written by two digits, so that the digit is not read as part of it. -/
def quoteComment : List Char → List Char
  | [] => []
  | '\x00' :: rest =>
    let octalFollows :=
      match rest with
      | [] => false
      | c :: _ => decide ('0' ≤ c ∧ c ≤ '7')
    (if octalFollows then ['\\', 'x', '0', '0'] else ['\\', '0']) ++ quoteComment rest
  | c :: rest => Text.Quoted.escape c ++ quoteComment rest

/-- The attribute for a comment, on the item around it when `inner` is set. -/
def commentAttribute (inner : Bool) (comment : List Char) : Tokens :=
  let value := String.ofList (['"'] ++ quoteComment comment ++ ['"'])
  [.mark '#' false] ++ (if inner then [.mark '!' false] else []) ++
    [.group .bracket [.word "doc", .mark '=' false, .literal .text value]]

/-- Whether every carriage return stands before a line feed. -/
def hasNoBareReturn : List Char → Bool
  | [] => true
  | '\r' :: '\n' :: rest => hasNoBareReturn rest
  | '\r' :: _ => false
  | _ :: rest => hasNoBareReturn rest

/-- The content of a comment that documents something, whether it is on the item around it, and
the source behind it. -/
def splitDocComment? : List Char → Option (Bool × List Char × List Char)
  | '/' :: '/' :: '!' :: rest => some (true, splitLine rest)
  | '/' :: '*' :: '!' :: rest => (splitBlock 0 rest).map (true, ·)
  | '/' :: '/' :: '/' :: '/' :: _ => none
  | '/' :: '/' :: '/' :: rest => some (false, splitLine rest)
  | '/' :: '*' :: '*' :: '*' :: _ => none
  | '/' :: '*' :: '*' :: '/' :: _ => none
  | '/' :: '*' :: '*' :: rest => (splitBlock 0 rest).map (false, ·)
  | _ => none

/-- The attribute at the front of the source that a comment stands for. -/
def readDocComment (source : List Char) : Option (Tokens × List Char) := do
  let (inner, comment, rest) ← splitDocComment? source
  if hasNoBareReturn comment then some (commentAttribute inner comment, rest) else none

/-- Whether `c` is a mark. -/
def isMark (c : Char) : Bool :=
  "~!@#$%^&*-=+|;:,<.>/?'".toList.contains c

/-- The mark at the front of the source; the slash of a comment is none. -/
def readMarkChar : List Char → Option (Char × List Char)
  | '/' :: '/' :: _ => none
  | '/' :: '*' :: _ => none
  | [] => none
  | c :: rest => if isMark c then some (c, rest) else none

/-- The words that cannot be raw identifiers. -/
def neverRaw : List String :=
  ["_", "super", "self", "Self", "crate"]

/-- The word at the front of the source, raw or not. -/
def readAnyWord (source : List Char) : Option (String × List Char) :=
  match source with
  | 'r' :: '#' :: name => do
    let rest ← afterWord? name
    let text := String.ofList (name.take (name.length - rest.length))
    if text ∈ neverRaw then none else some ("r#" ++ text, rest)
  | _ => do
    let rest ← afterWord? source
    return (String.ofList (source.take (source.length - rest.length)), rest)

/-- Texts at the front of the source that start a literal, even one that is not well formed. -/
def literalStarts : List (List Char) :=
  [['r', '"'], ['r', '#', '"'], ['r', '#', '#'], ['b', '"'], ['b', '\''], ['b', 'r', '"'],
   ['b', 'r', '#'], ['c', '"'], ['c', 'r', '"'], ['c', 'r', '#']]

/-- The word at the front of the source, where no literal starts. -/
def readWord (source : List Char) : Option (String × List Char) :=
  if literalStarts.any (·.isPrefixOf source) then none else readAnyWord source

/-- The mark at the front of the source. A quote is a mark before the name of a lifetime. -/
def readMark (source : List Char) : Option (TokenTree × List Char) := do
  let (c, rest) ← readMarkChar source
  if c = '\'' then
    let (_, after) ← readAnyWord rest
    let raw := ['r', '#'].isPrefixOf rest
    if after.head? = some '\'' ∨ (after.head? = some '#' ∧ ¬ raw) then none
    else some (.mark c true, rest)
  else some (.mark c (readMarkChar rest).isSome, rest)

/-- The text that stands for a literal which could not be read. -/
def unreadableLiteral : List Char :=
  "(/*ERROR*/)".toList

/-- The bracket at the front of the source. -/
def readBracket : List Char → Option (Lexeme × List Char)
  | '(' :: rest => some (.opening .parenthesis, rest)
  | '[' :: rest => some (.opening .bracket, rest)
  | '{' :: rest => some (.opening .brace, rest)
  | ')' :: rest => some (.closing .parenthesis, rest)
  | ']' :: rest => some (.closing .bracket, rest)
  | '}' :: rest => some (.closing .brace, rest)
  | _ => none

/-- The token at the front of the source. -/
def readLeaf (source : List Char) : Option (TokenTree × List Char) :=
  (readLiteral source).or <| (readMark source).or <|
    (readWord source).map fun (text, rest) => (.word text, rest)

/-- The lexeme at the front of a source that starts with none of the blanks. -/
def readLexeme (source : List Char) : Option (Lexeme × List Char) :=
  match readDocComment source with
  | some (tokens, rest) => some (.tokens tokens, rest)
  | none =>
    match afterText? unreadableLiteral source with
    | some rest => some (.tokens [.literal .other (String.ofList unreadableLiteral)], rest)
    | none =>
      match readBracket source with
      | some found => some found
      | none => (readLeaf source).map fun (leaf, rest) => (.tokens [leaf], rest)

/-- The lexemes of a source. -/
def lexemes (source : List Char) : Option (List Lexeme) :=
  match skipBlanks source with
  | [] => some []
  | found =>
    match readLexeme found with
    | none => none
    | some (lexeme, rest) =>
      if rest.length < source.length then (lexemes rest).map (lexeme :: ·) else none
termination_by source.length

/-- A group that is still open: its brackets, and the trees before it, last one first. -/
structure OpenGroup where
  delimiter : Delimiter
  before : Tokens
  deriving Inhabited

/-- The trees of some lexemes, behind the trees `done` of the innermost open group, which are given
last one first. -/
def nest (done : Tokens) : List OpenGroup → List Lexeme → Option Tokens
  | [], [] => some done.reverse
  | _ :: _, [] => none
  | opened, .opening delimiter :: rest => nest [] (⟨delimiter, done⟩ :: opened) rest
  | [], .closing _ :: _ => none
  | group :: opened, .closing delimiter :: rest =>
    if group.delimiter = delimiter then
      nest (.group delimiter done.reverse :: group.before) opened rest
    else none
  | opened, .tokens found :: rest => nest (found.reverse ++ done) opened rest

/-- The source without a byte-order mark in front. -/
def afterMark : List Char → List Char
  | '\ufeff' :: rest => rest
  | source => source

/-- The tokens of a source, behind one byte-order mark. -/
def tokenize? (source : List Char) : Option Tokens := do
  let found ← lexemes (afterMark source)
  nest [] [] found

end ResourceAccessors.Syntax
