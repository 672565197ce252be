import ResourceAccessors.Syntax.Operator
import ResourceAccessors.Syntax.Pattern
import ResourceAccessors.Syntax.TextLiteral

/-!
# Expressions

Operands with what may stand behind them, the operators between them, and the expressions that end
with a block.
-/

namespace ResourceAccessors.Syntax

open ResourceAccessors.Syntax.Parser

namespace Grammar

/-! ### Operators between operands -/

/-- The right side of an operator: an operand and all operators behind it that bind tighter than
`precedence`. An assignment takes further assignments to its right. -/
def rightSideUpTo (g : Grammar) (allowStruct : Bool) (precedence : Precedence) :
    Nat → ExpressionShape → Parser ExpressionShape
  | 0, _ => failure
  | fuel + 1, left => do
    let before ← ahead
    let next := nextPrecedence before
    if precedence.rank < next.rank || next == precedence && precedence == .assign then
      let shape ← g.operators left allowStruct next
      if (← ahead).length = before.length then return shape
      g.rightSideUpTo allowStruct precedence fuel shape
    else return left

/-- The right side of an operator. -/
def rightSide (g : Grammar) (allowStruct : Bool) (precedence : Precedence) :
    Parser ExpressionShape := do
  let left ← g.operand allowStruct
  g.rightSideUpTo allowStruct precedence ((← ahead).length + 1) left

/-- Whether a half open range has no end here. -/
def isNoRangeEnd (allowStruct : Bool) : Lookahead := fun trees =>
  trees.isEmpty || isDot trees || isWord "as" trees || !allowStruct && isGroup .brace trees ||
    isAnySign [",", ";", "?", "=>", "=", "+", "/", "%", "^", ">", "<=", "!=", "-=", "*=", "&=",
      "|=", "<<="] trees

/-- The dots of a range and its end. -/
def range (g : Grammar) (allowStruct : Bool) : Parser Unit := do
  let limits ← rangeLimits
  unless limits == .halfOpen && (← sees (isNoRangeEnd allowStruct)) do
    discard (g.rightSide allowStruct .range)

/-- Whether the next trees would take apart the value of a cast, which needs parentheses. -/
def isTrailer : Lookahead := fun trees =>
  isDot trees || isSign "?" trees || isGroup .bracket trees || isGroup .parenthesis trees

/-- An operator and its right side behind `left`. Comparisons cannot be chained. -/
def operation (g : Grammar) (allowStruct : Bool) (left : ExpressionShape) :
    Operator → Parser ExpressionShape
  | .binary text precedence => do
    if precedence == .compare && left == .comparison then failure
    sign text
    discard (g.rightSide allowStruct precedence)
    return if precedence == .compare then .comparison else .other
  | .assignment => do
    sign "="
    let right ← g.rightSide allowStruct .assign
    return .assignment left.name? right.text?
  | .range => do
    g.range allowStruct
    return .range
  | .cast => do
    word "as"
    discard (g.type false)
    if ← sees isTrailer then failure
    return .other

/-- The operators behind `left` that bind at least as tightly as `base`, at most `fuel` of them. A
range is never the left side of an operator. -/
def operatorsUpTo (g : Grammar) (allowStruct : Bool) (base : Precedence) :
    Nat → ExpressionShape → Parser ExpressionShape
  | 0, _ => failure
  | fuel + 1, left => do
    match nextOperator? (← ahead) with
    | none => return left
    | some operator =>
      if left == .range || operator.precedence.rank < base.rank then return left
      let shape ← g.operation allowStruct left operator
      g.operatorsUpTo allowStruct base fuel shape

/-- The operators behind an expression that bind at least as tightly as `base`. -/
def parseOperators (g : Grammar) (left : ExpressionShape) (allowStruct : Bool)
    (base : Precedence) : Parser ExpressionShape := do
  g.operatorsUpTo allowStruct base ((← ahead).length + 1) left

/-- An expression. -/
def parseExpression (g : Grammar) (allowStruct : Bool) : Parser ExpressionShape := do
  g.operators (← g.operand allowStruct) allowStruct .jump

/-! ### What stands behind an operand -/

/-- Arguments of a call. -/
def callArguments (g : Grammar) : Parser Unit :=
  discard (inside .parenthesis (terminated (g.expression true)))

/-- The numbers of the fields that a number with a point stands for, as in `pair.0.1`. A point at
the end has a further field behind it; the result says whether there is none. -/
def numberedFields : Parser Bool := do
  match ← takeSilently with
  | .literal .float text =>
    let parts := text.splitOn "."
    let isComplete := parts.getLast? != some ""
    let names := if isComplete then parts else parts.dropLast
    unless names.all isFieldNumber do failure
    let point : Tokens := [.mark '.' false]
    emit ((names.map fun name => [TokenTree.literal .integer name]).intersperse point).flatten
    unless isComplete do emit point
    return isComplete
  | _ => failure

/-- Whether the next tree is a number with a point or an exponent. -/
def isFloat : Lookahead
  | .literal .float _ :: _ => true
  | _ => false

/-- What stands behind a dot: `await`, a field, or a call of a method. -/
def member (g : Grammar) : Parser Unit := do
  if ← sees isFloat then
    if ← numberedFields then return
  if ← word? "await" then return
  if ← fieldName then
    if ← sees (isSign "::") then
      g.angledArguments
      g.callArguments
    else if ← sees (isGroup .parenthesis) then g.callArguments

/-- All calls, fields, indices and question marks behind an operand. -/
def trailers (g : Grammar) (first : ExpressionShape) : Parser ExpressionShape := do
  let canTakeApart := first != .range
  let found ← repeated do
    if ← sees (isGroup .parenthesis) then
      g.callArguments
      return some ()
    else if ← sees fun trees => isDot trees && canTakeApart then
      sign "."
      g.member
      return some ()
    else if ← sees (isGroup .bracket) then
      discard (inside .bracket (g.expression true))
      return some ()
    else if ← sees fun trees => isSign "?" trees && canTakeApart then
      sign "?"
      return some ()
    else return none
  return if found.isEmpty then first else .other

/-! ### Expressions with blocks -/

/-- A condition with the block that it guards. -/
def guardedBlock (g : Grammar) (keyword : String) (block : Parser Unit) : Parser Unit := do
  word keyword
  discard (g.expression false)
  block

/-- An `if` with its alternatives. -/
def ifExpression (g : Grammar) : Parser Unit := do
  g.guardedBlock "if" g.block
  discard (whileSees (fun trees => isWord "else" trees && second (isWord "if") trees) do
    word "else"
    g.guardedBlock "if" g.block)
  if ← word? "else" then g.block

/-- A loop over the elements of something. -/
def forExpression (g : Grammar) : Parser Unit := do
  word "for"
  discard g.patterns
  word "in"
  discard (g.expression false)
  g.attributedBlock

/-- An arm of a match. Only a body that ends with its block needs no comma before the next arm. -/
def matchArm (g : Grammar) : Parser Unit := do
  discard g.outerAttributes
  discard g.patterns
  if ← word? "if" then discard (g.expression true)
  sign "=>"
  let body ← g.statementExpression
  if body != .block && !(← atEnd) then sign "," else discard (sign? ",")

/-- A match with its arms. -/
def matchExpression (g : Grammar) : Parser Unit := do
  word "match"
  discard (g.expression false)
  inside .brace do
    discard g.innerAttributes
    discard (toEnd g.matchArm)

/-- A loop or a block behind a label. -/
def labeled (g : Grammar) : Parser Unit := do
  discard lifetime
  sign ":"
  if ← sees (isWord "while") then g.guardedBlock "while" g.attributedBlock
  else if ← sees (isWord "for") then g.forExpression
  else
    discard (word? "loop")
    g.attributedBlock

/-- Whether lifetimes of a closure are introduced next. -/
def isClosureBinder : Lookahead := fun trees =>
  isWord "for" trees && second (isSign "<") trees &&
    third (fun after => isLifetime after || isSign ">" after) trees

/-- An expression that ends with its block, when one comes next. -/
def blockExpression? (g : Grammar) : Parser Bool := do
  let trees ← ahead
  if isWord "if" trees then
    g.ifExpression
    return true
  else if isWord "while" trees then
    g.guardedBlock "while" g.attributedBlock
    return true
  else if isWord "for" trees && !isClosureBinder trees then
    g.forExpression
    return true
  else if isWord "loop" trees || isWord "unsafe" trees ||
      isWord "const" trees && second (isGroup .brace) trees then
    discard anyWord
    g.attributedBlock
    return true
  else if isWord "match" trees then
    g.matchExpression
    return true
  else if isWord "try" trees && second (isGroup .brace) trees then
    word "try"
    g.block
    return true
  else if isGroup .brace trees then
    g.attributedBlock
    return true
  else if isLifetime trees then
    g.labeled
    return true
  else return false

/-! ### Other operands -/

/-- Whether a block of code that runs later comes next. -/
def isAsyncBlock : Lookahead := fun trees =>
  isWord "async" trees && (second (isGroup .brace) trees ||
    second (isWord "move") trees && third (isGroup .brace) trees)

/-- Whether a closure comes next, where no block does. -/
def isClosure : Lookahead := fun trees =>
  isSign "|" trees || isWord "move" trees || isClosureBinder trees ||
    isWord "const" trees && !second (isGroup .brace) trees || isWord "static" trees ||
    isWord "async" trees && second (fun after => isSign "|" after || isWord "move" after) trees

/-- A parameter of a closure. -/
def closureParameter (g : Grammar) : Parser Unit := do
  discard g.outerAttributes
  discard g.pattern
  if ← sees (isSign ":") then
    sign ":"
    discard (g.type true)

/-- A closure. One with a result type has a block as its body. -/
def closure (g : Grammar) (allowStruct : Bool) : Parser Unit := do
  discard g.binder?
  discard (word? "const")
  discard (word? "static")
  discard (word? "async")
  discard (word? "move")
  sign "|"
  discard (commaSeparated (isSign "|") g.closureParameter)
  sign "|"
  if ← sees (isSign "->") then
    g.returnType true
    g.block
  else discard (g.expression allowStruct)

/-- A field of a struct literal. -/
def fieldValue (g : Grammar) : Parser Unit := do
  discard g.outerAttributes
  let isNamed ← fieldName
  if !isNamed || (← sees (isSign ":")) then
    sign ":"
    discard (g.expression true)

/-- The fields of a struct literal, with two dots before the value that gives the others. -/
def fieldValues (g : Grammar) : Nat → Parser Unit
  | 0 => failure
  | fuel + 1 => do
    if ← atEnd then return
    if ← sees (isSign "..") then
      sign ".."
      unless ← atEnd do discard (g.expression true)
    else
      g.fieldValue
      if ← atEnd then return
      sign ","
      g.fieldValues fuel

/-- A path, or a macro call or a struct literal that starts with one. -/
def pathExpression (g : Grammar) (allowStruct : Bool) : Parser ExpressionShape := do
  let path ← g.qualifiedPath true
  if !path.isQualified && path.isPlain && (← sees isBang) then
    sign "!"
    let (delimiter, _) ← anyGroup
    return if delimiter = .brace then .bracedMacro else .other
  else if allowStruct && (← sees (isGroup .brace)) then
    inside .brace do g.fieldValues ((← ahead).length + 1)
    return .other
  else
    match path.identifier? with
    | some name => return .name name
    | none => return .other

/-- The elements of an array behind the first one. -/
def moreElements (g : Grammar) : Parser Unit := do
  if !(← atEnd) then
    sign ","
    discard (terminated (g.expression true))

/-- An array between its brackets: its elements, or one element and their number. -/
def arrayElements (g : Grammar) : Parser Unit := do
  if ← atEnd then return
  discard (g.expression true)
  if ← sees (isSign ";") then
    sign ";"
    discard (g.expression true)
  else g.moreElements

/-- A tuple or an expression between parentheses. -/
def tupleElements (g : Grammar) : Parser Unit := do
  if ← atEnd then return
  discard (g.expression true)
  g.moreElements

/-- Whether an expression may start here. -/
def isExpressionStart : Lookahead := fun trees =>
  isAnyWord trees || isAnyGroup trees || isLiteral trees || isBang trees ||
    isSign "-" trees && !isAnySign ["-=", "->"] trees || isSign "*" trees && !isSign "*=" trees ||
    isSign "|" trees && !isSign "|=" trees || isSign "&" trees && !isSign "&=" trees ||
    isSign ".." trees || isSign "<" trees && !isAnySign ["<=", "<<="] trees ||
    isSign "::" trees || isLifetime trees || isSign "#" trees

/-- A jump with the value it takes along, if there is one. -/
def jump (g : Grammar) (keyword : String) : Parser Unit := do
  word keyword
  if ← sees isExpressionStart then discard (g.expression true)

/-- A jump out of a loop or a block. A labeled loop as its value needs parentheses. -/
def breakJump (g : Grammar) (allowStruct : Bool) : Parser Unit := do
  word "break"
  if ← lifetime? then
    if ← sees (isSign ":") then failure
  if ← sees fun trees => isExpressionStart trees && (allowStruct || !isGroup .brace trees) then
    discard (g.expression true)

/-- A condition that matches a value against patterns. -/
def letCondition (g : Grammar) (allowStruct : Bool) : Parser Unit := do
  word "let"
  discard g.patterns
  sign "="
  let value ← g.operand allowStruct
  discard (g.operators value allowStruct .compare)

/-- The words and signs that start a path in an expression. -/
def isPathExpression : Lookahead := fun trees =>
  isPathStart trees ||
    isWord "try" trees && second (fun after => isSign "!" after || isSign "::" after) trees

/-- An expression that is built into the compiler. -/
def builtin : Parser Unit := do
  word "builtin"
  sign "#"
  discard identifier
  inside .parenthesis everything

/-- An operand without what stands before or behind it. -/
def atom (g : Grammar) (allowStruct : Bool) : Parser ExpressionShape := do
  let trees ← ahead
  if isLiteral trees then
    match ← literal with
    | .literal .text text => return ((textOfLiteral? text).map ExpressionShape.text).getD .other
    | _ => return .other
  else if isAsyncBlock trees then
    word "async"
    discard (word? "move")
    g.block
    return .other
  else if isClosure trees then
    g.closure allowStruct
    return .other
  else if isWord "builtin" trees && second (isSign "#") trees then
    builtin
    return .other
  else if isPathExpression trees then g.pathExpression allowStruct
  else if isGroup .parenthesis trees then
    inside .parenthesis g.tupleElements
    return .other
  else if isWord "break" trees then
    g.breakJump allowStruct
    return .other
  else if isWord "continue" trees then
    word "continue"
    discard lifetime?
    return .other
  else if isWord "return" trees then
    g.jump "return"
    return .other
  else if isWord "become" trees then
    word "become"
    discard (g.expression true)
    return .other
  else if isGroup .bracket trees then
    inside .bracket g.arrayElements
    return .other
  else if isWord "let" trees then
    g.letCondition allowStruct
    return .other
  else if isWord "yield" trees then
    g.jump "yield"
    return .other
  else if isSign ".." trees then
    g.range allowStruct
    return .range
  else if ← word? "_" then return .other
  else if ← g.blockExpression? then return .block
  else failure

/-! ### What stands before an operand -/

/-- A reference sign, with what it makes the reference to. -/
def referenceSign : Parser Unit := do
  sign "&"
  if ← sees fun trees => isWord "raw" trees &&
      second (fun after => isWord "mut" after || isWord "const" after) trees then
    word "raw"
    if !(← word? "mut") then word "const"
  else discard (word? "mut")

/-- The sign of a unary operator, if one comes next. -/
def unarySign? : Parser Bool := do
  if ← sign? "*" then return true
  else if ← sign? "!" then return true
  else sign? "-"

/-- An operand with all that stands before and behind it. A range that starts with its dots has no
attributes. -/
def parseOperand (g : Grammar) (allowStruct : Bool) : Parser ExpressionShape := do
  let attributes ← g.outerAttributes
  let trees ← ahead
  if isSign "&" trees then
    referenceSign
    discard (g.operand allowStruct)
    return .other
  else if ← unarySign? then
    discard (g.operand allowStruct)
    return .other
  else
    let shape ← g.trailers (← g.atom allowStruct)
    if shape == .range && !attributes.isEmpty then failure
    return shape

/-- An expression as a statement or as the body of a match arm: one that ends with its block ends
there, unless a dot or a question mark follows. -/
def parseStatementExpression (g : Grammar) : Parser ExpressionShape := do
  discard g.outerAttributes
  if ← g.blockExpression? then
    if ← sees fun trees => isDot trees || isSign "?" trees then
      g.operators (← g.trailers .block) true .jump
    else return .block
  else g.operators (← g.operand true) true .jump

end Grammar

end ResourceAccessors.Syntax
