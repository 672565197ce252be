import ResourceAccessors.Syntax.Expression

/-!
# Statements

The statements of a block: bindings, items, macro calls and expressions.
-/

namespace ResourceAccessors.Syntax

open ResourceAccessors.Syntax.Parser

/-- What follows the path of a macro call, when a statement starts with one. -/
def afterMacroPath? (trees : Tokens) : Option Tokens :=
  match plainPath.run ⟨trees, []⟩ with
  | some (_, after) => if isSign "!" after.rest then some after.rest else none
  | none => none

/-- Whether a macro is called that is given a name, which makes the call an item. -/
def isNamedMacro : Lookahead := fun trees =>
  match afterMacroPath? trees with
  | some after => second (fun name => isIdentifier name || isWord "try" name) after
  | none => false

/-- Whether a statement is a macro call with braces and nothing is done with its result. -/
def isBracedMacro : Lookahead := fun trees =>
  match afterMacroPath? trees with
  | some after =>
    second (isGroup .brace) after && !third (fun rest => isDot rest || isSign "?" rest) after
  | none => false

/-- Whether a constant is declared, rather than a closure or a block of constant code. -/
def isConstItem : Lookahead := fun trees =>
  isWord "const" trees && !second (fun after =>
    isGroup .brace after || isWord "static" after || isWord "move" after || isSign "|" after ||
      isWord "async" after &&
        !second (fun name => ["unsafe", "extern", "fn"].any (isWord · name)) after) trees

/-- Whether a statement declares something and binds no local name. -/
def isItemStart : Lookahead := fun trees =>
  ["pub", "extern", "use", "fn", "mod", "type", "struct", "enum", "trait", "impl", "macro"].any
      (isWord · trees) ||
    isWord "crate" trees && !second (isSign "::") trees ||
    isWord "static" trees && second (fun name => isWord "mut" name || isIdentifier name) trees ||
    isConstItem trees ||
    isWord "unsafe" trees && !second (isGroup .brace) trees ||
    isWord "async" trees &&
      second (fun after => ["unsafe", "extern", "fn"].any (isWord · after)) trees ||
    isWord "union" trees && second isIdentifier trees ||
    isWord "auto" trees && second (isWord "trait") trees ||
    isWord "default" trees &&
      second (fun after => isWord "unsafe" after || isWord "impl" after) trees ||
    isNamedMacro trees

/-- Whether the parsed code ends in a group in braces. -/
def endsInBrace : Parser Bool := do
  match ← noted with
  | .group .brace _ :: _ => return true
  | _ => return false

namespace Grammar

/-- A binding of local names. What is bound cannot end in a brace before `else`. -/
def localBinding (g : Grammar) : Parser Unit := do
  word "let"
  discard g.pattern
  if ← sign? ":" then discard (g.type true)
  if ← sign? "=" then
    discard (g.expression true)
    if ← sees (isWord "else") then
      unless ← endsInBrace do
        word "else"
        g.block
  sign ";"

/-- A macro call with braces as a statement. -/
def macroStatement : Parser Unit := do
  discard plainPath
  sign "!"
  discard anyGroup
  discard (sign? ";")

/-- A statement; the result says whether another one may follow without a semicolon. -/
def statement (g : Grammar) : Parser Bool := do
  match ← peek? g.outerAttributes with
  | none => failure
  | some (_, after) =>
    let trees := after.rest
    if isItemStart trees && !isBracedMacro trees then
      discard g.item
      return true
    discard g.outerAttributes
    if isBracedMacro trees then
      macroStatement
      return true
    else if isWord "let" trees then
      g.localBinding
      return true
    else
      let shape ← g.statementExpression
      if ← sign? ";" then return true
      return shape == .block || shape == .bracedMacro

/-- The statements of a block, to its end. -/
def parseStatements (g : Grammar) : Parser Unit :=
  repeatWhile do
    discard (whileSees (isSign ";") (sign ";"))
    if ← atEnd then return false
    let isComplete ← g.statement
    if !isComplete && !(← atEnd) then failure
    return true

end Grammar

end ResourceAccessors.Syntax
