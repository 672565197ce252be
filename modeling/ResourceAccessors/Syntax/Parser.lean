import ResourceAccessors.Syntax.Lexer

/-!
# Parsers over token trees

A parser takes trees from the front of a sequence or fails. While it does, it notes how the parsed
code prints: mostly as it was written, but a mark that the grammar knows prints as one unit whatever
stands behind it. What is noted is only read for the parts of a declaration that are repeated in
generated code. No parser changes the trees that it leaves.
-/

namespace ResourceAccessors.Syntax

/-- The trees that are left, and what the parsed ones print as, last tree first. -/
structure Cursor where
  rest : Tokens
  printed : Tokens
  deriving Inhabited

/-- A parser of token trees. What it leaves is the end of what it was given. -/
structure Parser (α : Type) where
  run : Cursor → Option (α × Cursor)
  shrinks {cursor : Cursor} {value : α} {after : Cursor} :
    run cursor = some (value, after) → after.rest <:+ cursor.rest

/-- A question about the trees that are left. -/
abbrev Lookahead := Tokens → Bool

/-! ### Lookahead -/

/-- Whether the next tree is the word `text`. -/
def isWord (text : String) : Lookahead
  | .word found :: _ => found == text
  | _ => false

/-- Whether the next tree is any word. -/
def isAnyWord : Lookahead
  | .word _ :: _ => true
  | _ => false

/-- The words that cannot be identifiers. -/
def keywords : List String :=
  ["_", "abstract", "as", "async", "await", "become", "box", "break", "const", "continue", "crate",
   "do", "dyn", "else", "enum", "extern", "false", "final", "fn", "for", "if", "impl", "in", "let",
   "loop", "macro", "match", "mod", "move", "mut", "override", "priv", "pub", "ref", "return",
   "Self", "self", "static", "struct", "super", "trait", "true", "try", "type", "typeof", "unsafe",
   "unsized", "use", "virtual", "where", "while", "yield"]

/-- Whether the next tree is an identifier. -/
def isIdentifier : Lookahead
  | .word text :: _ => !keywords.contains text
  | _ => false

/-- Whether the next trees are a lifetime. -/
def isLifetime : Lookahead
  | .mark '\'' true :: .word _ :: _ => true
  | _ => false

/-- The trees behind a sign of several marks, all but the last of which are joined. -/
def afterSign? : List Char → Tokens → Option Tokens
  | [], trees => some trees
  | [c], .mark found _ :: rest => if found = c then some rest else none
  | c :: d :: sign, .mark found true :: rest => if found = c then afterSign? (d :: sign) rest else none
  | _, _ => none

/-- Whether the next trees are the sign `text`, which longer signs may start with. -/
def isSign (text : String) : Lookahead := fun trees =>
  (afterSign? text.toList trees).isSome

/-- Whether the next trees are one of some signs. -/
def isAnySign (texts : List String) : Lookahead := fun trees =>
  texts.any (isSign · trees)

/-- Whether a literal is a number. -/
def LiteralKind.isNumber : LiteralKind → Bool
  | .integer => true
  | .float => true
  | _ => false

/-- Whether the next trees are a literal: a truth value is one, and a number may have a minus. -/
def isLiteral : Lookahead
  | .literal _ _ :: _ => true
  | .word "true" :: _ => true
  | .word "false" :: _ => true
  | .mark '-' _ :: .literal kind _ :: _ => kind.isNumber
  | _ => false

/-- Whether the next tree is a text literal. -/
def isText : Lookahead
  | .literal .text _ :: _ => true
  | _ => false

/-- Whether the next tree is a group in the given brackets. -/
def isGroup (delimiter : Delimiter) : Lookahead
  | .group found _ :: _ => found == delimiter
  | _ => false

/-- Whether the next tree is a group. -/
def isAnyGroup : Lookahead
  | .group _ _ :: _ => true
  | _ => false

/-- The trees behind the next one, where a lifetime counts as one. -/
def afterOne : Tokens → Tokens
  | .mark '\'' true :: .word _ :: rest => rest
  | _ :: rest => rest
  | [] => []

/-- A question about the trees from the second one on. -/
def second (test : Lookahead) : Lookahead := fun trees =>
  test (afterOne trees)

/-- A question about the trees from the third one on. -/
def third (test : Lookahead) : Lookahead := fun trees =>
  test (afterOne (afterOne trees))

/-- Whether the next trees are a colon that is no part of a double colon. -/
def isColon : Lookahead := fun trees =>
  isSign ":" trees && !isSign "::" trees

/-- Whether the next trees are a dot that is no part of a range. -/
def isDot : Lookahead := fun trees =>
  isSign "." trees && !isSign ".." trees

/-- Whether the next trees are an equals sign that is no part of an arrow. -/
def isEquals : Lookahead := fun trees =>
  isSign "=" trees && !isSign "=>" trees

/-- Whether the next trees are an exclamation mark that is no part of a comparison. -/
def isBang : Lookahead := fun trees =>
  isSign "!" trees && !isSign "!=" trees

/-- Whether the next trees separate alternatives: a bar that is no part of another sign. -/
def isAlternative : Lookahead := fun trees =>
  isSign "|" trees && !isSign "||" trees && !isSign "|=" trees

/-- What a sign leaves is the end of the trees. -/
theorem suffix_of_afterSign? {sign : List Char} {trees rest : Tokens}
    (found : afterSign? sign trees = some rest) : rest <:+ trees := by
  fun_induction afterSign? sign trees with
  | case1 =>
    cases found
    exact List.suffix_refl _
  | case2 c behind joint =>
    cases found
    exact List.suffix_cons _ _
  | case3 => cases found
  | case4 c d sign behind ih => exact (ih found).trans (List.suffix_cons _ _)
  | case5 => cases found
  | case6 => cases found

/-! ### Taking trees -/

namespace Parser

@[always_inline]
instance : Monad Parser where
  pure value := {
    run := fun cursor => some (value, cursor)
    shrinks := fun same => by
      cases same
      exact List.suffix_refl _ }
  bind first next := {
    run := fun cursor =>
      match first.run cursor with
      | some (value, after) => (next value).run after
      | none => none
    shrinks := fun succeeds => by
      split at succeeds
      next parsed => exact ((next _).shrinks succeeds).trans (first.shrinks parsed)
      next => cases succeeds }

/-- Parse with the first parser, or with the second one where the first one fails. -/
def orElse (first second : Parser α) : Parser α where
  run cursor :=
    match first.run cursor with
    | some result => some result
    | none => second.run cursor
  shrinks succeeds := by
    split at succeeds
    next parsed =>
      cases succeeds
      exact first.shrinks parsed
    next => exact second.shrinks succeeds

instance : Alternative Parser where
  failure := ⟨fun _ => none, fun absurd => by cases absurd⟩
  orElse first second := orElse first (second ())

/-- The parser that is made when it is run. -/
@[inline]
def later (parser : Unit → Parser α) : Parser α :=
  ⟨fun cursor => (parser ()).run cursor, (parser ()).shrinks⟩

/-- The trees that are left. -/
def ahead : Parser Tokens where
  run cursor := some (cursor.rest, cursor)
  shrinks same := by
    cases same
    exact List.suffix_refl _

/-- What the parsed trees print as, last tree first. -/
def noted : Parser Tokens where
  run cursor := some (cursor.printed, cursor)
  shrinks same := by
    cases same
    exact List.suffix_refl _

/-- Go on behind some of the trees. -/
def goBehind (after? : Tokens → Option Tokens)
    (shrinks : ∀ {trees rest}, after? trees = some rest → rest <:+ trees) : Parser Unit where
  run cursor := (after? cursor.rest).map fun rest => ((), { cursor with rest := rest })
  shrinks succeeds := by
    obtain ⟨rest, found, same⟩ := Option.map_eq_some_iff.1 succeeds
    cases same
    exact shrinks found

/-- Whether the trees that are left pass a test. -/
def sees (test : Lookahead) : Parser Bool := do
  return test (← ahead)

/-- Fail unless the trees that are left pass a test. -/
def require (test : Lookahead) : Parser Unit := do
  if test (← ahead) then pure () else failure

/-- Whether no tree is left. -/
def atEnd : Parser Bool :=
  sees List.isEmpty

/-- Note how something prints. -/
def emit (trees : Tokens) : Parser Unit where
  run cursor := some ((), { cursor with printed := trees.reverse ++ cursor.printed })
  shrinks same := by
    cases same
    exact List.suffix_refl _

/-- Take the next tree without noting how it prints. -/
def takeSilently : Parser TokenTree where
  run cursor :=
    match cursor.rest with
    | tree :: rest => some (tree, { cursor with rest := rest })
    | [] => none
  shrinks succeeds := by
    split at succeeds
    next tree rest given =>
      cases succeeds
      rw [given]
      exact List.suffix_cons _ _
    next => cases succeeds

/-- Take the next tree, which prints as it is written. -/
def takeTree : Parser TokenTree := do
  let tree ← takeSilently
  emit [tree]
  return tree

/-- Take any word. -/
def anyWord : Parser String := do
  match ← takeTree with
  | .word text => return text
  | _ => failure

/-- Take the word `text`. -/
def word (text : String) : Parser Unit := do
  require (isWord text)
  discard takeTree

/-- Take the word `text` if it comes next. -/
def word? (text : String) : Parser Bool := do
  if ← sees (isWord text) then
    word text
    return true
  else return false

/-- Take an identifier. -/
def identifier : Parser String := do
  require isIdentifier
  anyWord

/-- The trees of a sign that the grammar knows: its marks are joined, and the last one is not. -/
def signTrees : List Char → Tokens
  | [] => []
  | [c] => [.mark c false]
  | c :: rest => .mark c true :: signTrees rest

/-- Take the sign `text` and print `shown` in its place. -/
def signAs (shown text : String) : Parser Unit := do
  goBehind (afterSign? text.toList) suffix_of_afterSign?
  emit (signTrees shown.toList)

/-- Take the sign `text`. -/
def sign (text : String) : Parser Unit :=
  signAs text text

/-- Take the sign `text` if it comes next. -/
def sign? (text : String) : Parser Bool := do
  if ← sees (isSign text) then
    sign text
    return true
  else return false

/-- Take a lifetime; its name has the quote in front. -/
def lifetime : Parser String := do
  require isLifetime
  discard takeTree
  return "'" ++ (← anyWord)

/-- Take a lifetime if one comes next. -/
def lifetime? : Parser Bool := do
  if ← sees isLifetime then
    discard lifetime
    return true
  else return false

/-- Take a literal. A number with a minus prints as one tree. -/
def literal : Parser TokenTree := do
  require isLiteral
  match ← takeSilently with
  | .mark _ _ =>
    match ← takeSilently with
    | .literal kind text =>
      let tree := .literal kind ("-" ++ text)
      emit [tree]
      return tree
    | _ => failure
  | tree =>
    emit [tree]
    return tree

/-- Parse all of the inside of a group in the given brackets. -/
def inside (delimiter : Delimiter) (content : Parser α) : Parser α := do
  match ← takeSilently with
  | .group found trees =>
    if found = delimiter then
      match content.run ⟨trees, []⟩ with
      | some (value, cursor) =>
        if cursor.rest.isEmpty then
          emit [.group delimiter cursor.printed.reverse]
          return value
        else failure
      | none => failure
    else failure
  | _ => failure

/-- Take a group in any brackets as it is written. -/
def anyGroup : Parser (Delimiter × Tokens) := do
  match ← takeTree with
  | .group delimiter trees => return (delimiter, trees)
  | _ => failure

/-- Take all trees that are left as they are written. -/
def everything : Parser Unit := do
  let rest ← ahead
  goBehind (fun _ => some []) fun same => by
    cases same
    exact List.nil_suffix
  emit rest

/-! ### Combining parsers -/

/-- What a parser would give here, without taking any tree. -/
def peek? (parser : Parser α) : Parser (Option (α × Cursor)) where
  run cursor := some (parser.run cursor, cursor)
  shrinks same := by
    cases same
    exact List.suffix_refl _

/-- Parse, and give what the parsed code prints as without noting it. -/
def captured (parser : Parser α) : Parser (α × Tokens) where
  run cursor :=
    (parser.run { cursor with printed := [] }).map fun (value, after) =>
      ((value, after.printed.reverse), { after with printed := cursor.printed })
  shrinks succeeds := by
    obtain ⟨⟨value, after⟩, parsed, same⟩ := Option.map_eq_some_iff.1 succeeds
    have shorter := parser.shrinks parsed
    cases same
    exact shorter

/-- Parse code that does not print. -/
def unprinted (parser : Parser α) : Parser α := do
  return (← captured parser).1

/-- Parse code that prints as it is written. -/
def asWritten (parser : Parser α) : Parser α where
  run cursor :=
    (parser.run cursor).map fun (value, after) =>
      let taken := cursor.rest.take (cursor.rest.length - after.rest.length)
      (value, { after with printed := taken.reverse ++ cursor.printed })
  shrinks succeeds := by
    obtain ⟨⟨value, after⟩, parsed, same⟩ := Option.map_eq_some_iff.1 succeeds
    have shorter := parser.shrinks parsed
    cases same
    exact shorter

/-- Repeat a step until it gives nothing, at most `fuel` times. -/
def repeatUpTo (step : Parser (Option α)) : Nat → Parser (List α)
  | 0 => failure
  | fuel + 1 => do
    match ← step with
    | none => return []
    | some first => return first :: (← repeatUpTo step fuel)

/-- Repeat a step until it gives nothing. Every step but the last one takes a tree. -/
def repeated (step : Parser (Option α)) : Parser (List α) := do
  repeatUpTo step ((← ahead).length + 1)

/-- Repeat a step for as long as it says so. Every step that does takes a tree. -/
def repeatWhile (step : Parser Bool) : Parser Unit :=
  discard (repeated do return if ← step then some () else none)

/-- Parse items for as long as the trees that are left pass a test. -/
def whileSees (test : Lookahead) (item : Parser α) : Parser (List α) :=
  repeated do
    if ← sees test then return some (← item) else return none

/-- Parse items to the end. -/
def toEnd (item : Parser α) : Parser (List α) :=
  whileSees (!·.isEmpty) item

/-- Parse items with a separator between them and possibly behind the last one, up to a place that
passes a test. A separator that is missing ends the items. -/
def separated (separator : String) (ends : Lookahead) (item : Parser α) : Parser Unit :=
  repeatWhile do
    if ← sees ends then return false
    discard item
    sign? separator

/-- Parse items with commas between them and possibly behind the last one, up to a place that
passes a test. -/
def commaSeparated (ends : Lookahead) (item : Parser α) : Parser (List α) :=
  repeated do
    if ← sees ends then return none
    let value ← item
    unless ← sees ends do sign ","
    return some value

/-- Parse items with commas between them to the end. -/
def terminated (item : Parser α) : Parser (List α) :=
  commaSeparated List.isEmpty item

/-- An item of a list with commas: its value, how it prints, and whether a comma follows it. -/
structure Listed (α : Type) where
  value : α
  printed : Tokens
  hasComma : Bool

/-- Parse items with commas between them and possibly behind the last one, up to a place that
passes a test, without noting how they print. -/
def listed (ends : Lookahead) (item : Parser α) : Parser (List (Listed α)) :=
  repeated do
    if ← sees ends then return none
    let (value, printed) ← captured item
    let hasComma := !(← sees ends)
    if hasComma then unprinted (sign ",")
    return some ⟨value, printed, hasComma⟩

/-- An item with its comma. -/
def Listed.withComma (item : Listed α) : Tokens :=
  item.printed ++ if item.hasComma then [.mark ',' false] else []

/-- How a list prints in which the items that pass a test come first. A comma goes between the two
parts where the first one does not end in one. -/
def printedFirst (first : α → Bool) (items : List (Listed α)) : Tokens :=
  let (front, back) := items.partition (first ·.value)
  let between :=
    match front.getLast?, back with
    | some last, _ :: _ => if last.hasComma then [] else [.mark ',' false]
    | _, _ => []
  front.flatMap Listed.withComma ++ between ++ back.flatMap Listed.withComma

/-- The result of a parser that takes all of a sequence. -/
def runAll (parser : Parser α) (trees : Tokens) : Option α :=
  match parser.run ⟨trees, []⟩ with
  | some (value, cursor) => if cursor.rest.isEmpty then some value else none
  | none => none

end Parser

end ResourceAccessors.Syntax
