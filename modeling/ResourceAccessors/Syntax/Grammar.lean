import ResourceAccessors.Syntax.ItemTree
import ResourceAccessors.Syntax.Parser

/-!
# The recursive parts of the grammar

Types hold expressions, expressions hold blocks, blocks hold items, and items hold types. The parts
that recur are gathered in one record, and each rule of the grammar is stated over a record of
parsers for the parts inside it.
-/

namespace ResourceAccessors.Syntax

/-- What is kept of a parsed type. -/
inductive TypeShape
  /-- A path of one segment, possibly with arguments in angle brackets. -/
  | simple
  /-- Any other path, unless it starts at a type. -/
  | path
  /-- Bounds without `dyn`; `single` when it is one bound and nothing else. -/
  | bareBounds (single : Bool)
  | other
  deriving DecidableEq, Repr, Inhabited

/-- What is kept of a parsed bound. -/
inductive BoundShape
  | lifetime
  | trait
  | capture
  /-- A trait that is asked for in constant code. -/
  | const
  deriving DecidableEq, Repr, Inhabited

/-- What is kept of a parsed pattern. -/
inductive PatternShape
  /-- Two dots. -/
  | rest
  /-- A range without a start or without an end. -/
  | openRange
  | other
  deriving DecidableEq, Repr, Inhabited

/-- What is kept of a parsed expression. -/
inductive ExpressionShape
  | text (value : String)
  /-- A path that is one identifier, as written. -/
  | name (identifier : String)
  /-- An assignment: the identifier on its left and the text on its right, where these are so. -/
  | assignment (key value : Option String)
  | range
  | comparison
  /-- An expression that ends with its block and is a statement without a semicolon. -/
  | block
  /-- A macro call with braces. -/
  | bracedMacro
  | other
  deriving DecidableEq, Repr, Inhabited

/-- The text of an expression that is a text literal. -/
def ExpressionShape.text? : ExpressionShape → Option String
  | .text value => some value
  | _ => none

/-- The identifier of an expression that is one. -/
def ExpressionShape.name? : ExpressionShape → Option String
  | .name identifier => some identifier
  | _ => none

/-- How tightly an operator binds. -/
inductive Precedence
  | jump
  | assign
  | range
  | or
  | and
  | let
  | compare
  | bitOr
  | bitXor
  | bitAnd
  | shift
  | sum
  | product
  | cast
  deriving DecidableEq, Repr, Inhabited

/-- The place of a precedence in their order, loosest first. -/
def Precedence.rank : Precedence → Nat
  | .jump => 0
  | .assign => 1
  | .range => 2
  | .or => 3
  | .and => 4
  | .let => 5
  | .compare => 6
  | .bitOr => 7
  | .bitXor => 8
  | .bitAnd => 9
  | .shift => 10
  | .sum => 11
  | .product => 12
  | .cast => 13

/-- Parsers for the recursive parts. -/
structure Grammar where
  /-- A type, which may be a sum of bounds when `allowPlus` is set. -/
  type : (allowPlus : Bool) → Parser TypeShape
  /-- A bound of a type parameter. -/
  bound : (allowCapture allowConst : Bool) → Parser BoundShape
  /-- A pattern without alternatives. -/
  pattern : Parser PatternShape
  /-- An expression, which may be a struct literal when `allowStruct` is set. -/
  expression : (allowStruct : Bool) → Parser ExpressionShape
  /-- An expression without binary operators. -/
  operand : (allowStruct : Bool) → Parser ExpressionShape
  /-- The operators behind an expression that bind as tightly as `base` or more so. -/
  operators : (left : ExpressionShape) → (allowStruct : Bool) → (base : Precedence) →
    Parser ExpressionShape
  /-- An expression that ends with its block, if it has one, when no method is called on it. -/
  statementExpression : Parser ExpressionShape
  /-- The statements of a block, to its end. -/
  statements : Parser Unit
  /-- The tree of names behind `use`. -/
  useTree : (allowGlobal : Bool) → Parser Unit
  item : Parser Item

/-- The grammar that parses nothing. -/
def Grammar.nothing : Grammar where
  type _ := failure
  bound _ _ := failure
  pattern := failure
  expression _ := failure
  operand _ := failure
  operators _ _ _ := failure
  statementExpression := failure
  statements := failure
  useTree _ := failure
  item := failure

end ResourceAccessors.Syntax
