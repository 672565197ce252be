import ResourceAccessors.Syntax.Item
import ResourceAccessors.Syntax.Statement

/-!
# Source files

The grammar as a whole, and what it makes of the text of a source file, of the arguments of an
attribute and of a path.
-/

namespace ResourceAccessors.Syntax

open ResourceAccessors.Syntax.Parser

/-- The grammar whose recursive parts are nested at most `depth` times. -/
def Grammar.atDepth : (depth : Nat) → Grammar
  | 0 => Grammar.nothing
  | depth + 1 => {
      type := fun allowPlus => later fun _ => (atDepth depth).parseType allowPlus
      bound := fun allowCapture allowConst =>
        later fun _ => (atDepth depth).parseBound allowCapture allowConst
      pattern := later fun _ => (atDepth depth).parsePattern
      expression := fun allowStruct => later fun _ => (atDepth depth).parseExpression allowStruct
      operand := fun allowStruct => later fun _ => (atDepth depth).parseOperand allowStruct
      operators := fun left allowStruct base =>
        later fun _ => (atDepth depth).parseOperators left allowStruct base
      statementExpression := later fun _ => (atDepth depth).parseStatementExpression
      statements := later fun _ => (atDepth depth).parseStatements
      useTree := fun allowGlobal => later fun _ => (atDepth depth).parseUseTree allowGlobal
      item := later fun _ => (atDepth depth).parseItem }

/-- The grammar for a sequence of trees. Among any few nested parts one takes a token, so the depth
that the number of tokens gives is never used up. -/
def Grammar.for (tokens : Tokens) : Grammar :=
  Grammar.atDepth (8 * (TokenTree.countAll tokens + 2))

/-- The text of a source file without the mark of its byte order and without a first line that names
its interpreter. Such a line starts with a hash and an exclamation mark and is no attribute. -/
def withoutInterpreter (source : List Char) : List Char :=
  let unmarked := match source with
    | '\ufeff' :: rest => rest
    | _ => source
  match unmarked with
  | '#' :: '!' :: rest =>
    if (skipBlanks rest).head? == some '[' then unmarked else unmarked.dropWhile (· != '\n')
  | _ => unmarked

/-- The items of a source file, when it parses. -/
def itemsOfFile? (source : String) : Option (List Item) := do
  let tokens ← tokenize? (withoutInterpreter source.toList)
  let g := Grammar.for tokens
  runAll (do
    discard g.innerAttributes
    toEnd g.item) tokens

/-- The expressions between the parentheses of an attribute, when they parse. -/
def argumentsOf? (tokens : Tokens) : Option (List ExpressionShape) :=
  runAll (terminated ((Grammar.for tokens).expression true)) tokens

/-- The path that a text is, when it is one. -/
def pathOf? (source : String) : Option CodePath := do
  let tokens ← tokenize? source.toList
  runAll ((Grammar.for tokens).path false) tokens

end ResourceAccessors.Syntax
