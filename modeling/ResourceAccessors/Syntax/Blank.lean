import ResourceAccessors.Text.Blank

/-!
# Blanks and comments

What stands between the tokens of source code. Comments that document something are tokens and no
blanks. Block comments nest.
-/

namespace ResourceAccessors.Syntax

/-- Whether source code treats `c` as a blank: the blanks of Unicode and the two marks of writing
direction. -/
def isSourceBlank (c : Char) : Bool :=
  Text.isBlank c || c = '\u200e' || c = '\u200f'

/-- A line and what follows it. The line break is not part of the line; the carriage return of a
break is skipped and its line feed is left. -/
def splitLine : List Char → List Char × List Char
  | [] => ([], [])
  | '\n' :: rest => ([], '\n' :: rest)
  | '\r' :: '\n' :: rest => ([], '\n' :: rest)
  | c :: rest =>
    let (line, after) := splitLine rest
    (c :: line, after)

/-- The inside of a block comment and what follows it, behind the opening of the comment, when
`depth` more comments are open around it. -/
def splitBlock (depth : Nat) : List Char → Option (List Char × List Char)
  | [] => none
  | '/' :: '*' :: rest => do
    let (inside, after) ← splitBlock (depth + 1) rest
    return ('/' :: '*' :: inside, after)
  | '*' :: '/' :: rest =>
    match depth with
    | 0 => some ([], rest)
    | outer + 1 => do
      let (inside, after) ← splitBlock outer rest
      return ('*' :: '/' :: inside, after)
  | c :: rest => do
    let (inside, after) ← splitBlock depth rest
    return (c :: inside, after)

/-- What follows a comment that documents nothing, when the source starts with one. -/
def afterPlainComment? : List Char → Option (List Char)
  | '/' :: '/' :: '/' :: '/' :: rest => some (splitLine rest).2
  | '/' :: '/' :: '/' :: _ => none
  | '/' :: '/' :: '!' :: _ => none
  | '/' :: '/' :: rest => some (splitLine rest).2
  | '/' :: '*' :: '*' :: '/' :: rest => some rest
  | '/' :: '*' :: '*' :: '*' :: rest => (splitBlock 0 ('*' :: '*' :: rest)).map Prod.snd
  | '/' :: '*' :: '*' :: _ => none
  | '/' :: '*' :: '!' :: _ => none
  | '/' :: '*' :: rest => (splitBlock 0 rest).map Prod.snd
  | _ => none

/-- One blank or comment less, when the source starts with one. -/
def skipOneBlank? (source : List Char) : Option (List Char) :=
  match afterPlainComment? source, source with
  | some rest, _ => some rest
  | none, c :: rest => if isSourceBlank c then some rest else none
  | none, [] => none

/-- The source from its first token on. -/
def skipBlanks (source : List Char) : List Char :=
  match skipOneBlank? source with
  | none => source
  | some rest => if rest.length < source.length then skipBlanks rest else source
termination_by source.length

end ResourceAccessors.Syntax
