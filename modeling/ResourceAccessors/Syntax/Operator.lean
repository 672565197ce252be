import ResourceAccessors.Syntax.Grammar

/-!
# Operators

The signs between the operands of an expression and how tightly they bind. A sign that starts a
longer sign comes behind it in the list, so that the longest sign is found.
-/

namespace ResourceAccessors.Syntax

/-- What stands between two operands, or between an operand and a type. -/
inductive Operator
  | binary (sign : String) (precedence : Precedence)
  | assignment
  | range
  | cast
  deriving DecidableEq, Repr

/-- How tightly an operator binds. -/
def Operator.precedence : Operator → Precedence
  | .binary _ precedence => precedence
  | .assignment => .assign
  | .range => .range
  | .cast => .cast

/-- The signs of binary operators. -/
def binarySigns : List (String × Precedence) :=
  [("+=", .assign), ("-=", .assign), ("*=", .assign), ("/=", .assign), ("%=", .assign),
   ("^=", .assign), ("&=", .assign), ("|=", .assign), ("<<=", .assign), (">>=", .assign),
   ("&&", .and), ("||", .or), ("<<", .shift), (">>", .shift), ("==", .compare), ("<=", .compare),
   ("!=", .compare), (">=", .compare), ("+", .sum), ("-", .sum), ("*", .product), ("/", .product),
   ("%", .product), ("^", .bitXor), ("&", .bitAnd), ("|", .bitOr), ("<", .compare),
   (">", .compare)]

/-- The operator that comes next, if one does. -/
def nextOperator? (trees : Tokens) : Option Operator :=
  match binarySigns.find? fun (sign, _) => isSign sign trees with
  | some (sign, precedence) => some (.binary sign precedence)
  | none =>
    if isEquals trees then some .assignment
    else if isSign ".." trees then some .range
    else if isWord "as" trees then some .cast
    else none

/-- How tightly what comes next binds; nothing binds less than what is no operator. -/
def nextPrecedence (trees : Tokens) : Precedence :=
  match nextOperator? trees with
  | some operator => operator.precedence
  | none => .jump

end ResourceAccessors.Syntax
