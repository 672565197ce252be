import ResourceAccessors.Declaration.Site
import ResourceAccessors.Syntax.Token

/-!
# Item trees

What is kept of parsed source code: the types that are declared, with all that the generated code
repeats of them, and the inline modules around them.
-/

namespace ResourceAccessors.Syntax

/-- A path without arguments. -/
structure PlainPath where
  /-- Whether the path starts with a double colon. -/
  isGlobal : Bool
  segments : List String
  deriving DecidableEq, Repr, Inhabited

/-- Whether a path is one identifier and nothing else. -/
def PlainPath.isIdentifier (path : PlainPath) (name : String) : Bool :=
  !path.isGlobal && path.segments == [name]

/-- What stands behind the path of an attribute. -/
inductive AttributeContent
  /-- Nothing. -/
  | none
  /-- A group in any brackets. -/
  | arguments (tokens : Tokens)
  /-- An equals sign and an expression. -/
  | value
  deriving Repr, Inhabited

/-- An attribute. -/
structure Attribute where
  path : PlainPath
  content : AttributeContent
  deriving Repr, Inhabited

/-- What kind of thing a generic parameter stands for. -/
inductive ParameterKind
  | lifetime
  | type
  | const
  deriving DecidableEq, Repr, Inhabited

/-- A generic parameter. -/
structure Parameter where
  kind : ParameterKind
  /-- The name as it is displayed. -/
  name : String
  /-- The name as it is written where the parameter is used. -/
  used : Tokens
  deriving Repr, Inhabited

/-- The generic parameters of a type and its conditions on them, as tokens. -/
structure Generics where
  /-- The names of the parameters, in their written order. -/
  names : List String
  /-- The parameters as they are declared, without brackets and defaults, lifetimes first. -/
  declared : Tokens
  /-- The parameters as they are used, without brackets, lifetimes first. -/
  used : Tokens
  /-- The `where` clause, which prints as nothing when it holds no condition. -/
  conditions : Option Tokens
  deriving Repr, Inhabited

/-- A declared struct, enum or union. -/
structure Container where
  attributes : List Attribute
  visibility : Declaration.Visibility
  kind : Declaration.Kind
  /-- The name as written, with the sign of a raw identifier. -/
  name : String
  generics : Generics
  deriving Repr, Inhabited

/-- An item of source code. The inner attributes of a module follow its outer ones. -/
inductive Item
  | container (declared : Container)
  /-- A module, with its items when it is an inline one. -/
  | module (attributes : List Attribute) (name : String) (items : Option (List Item))
  | other
  deriving Inhabited

/-- Parameters between their brackets; nothing when there is none. -/
def Generics.bracketed (generics : Generics) (parameters : Tokens) : Tokens :=
  if generics.names.isEmpty then []
  else .mark '<' false :: parameters ++ [.mark '>' false]

/-- The parameters as they stand behind `impl`. -/
def Generics.implText (generics : Generics) : String :=
  (generics.bracketed generics.declared).print

/-- The parameters as they stand behind the name of the type. -/
def Generics.typeText (generics : Generics) : String :=
  (generics.bracketed generics.used).print

/-- The `where` clause with a space in front, when there is one. -/
def Generics.whereText (generics : Generics) : String :=
  match generics.conditions with
  | some tokens => " " ++ tokens.print
  | none => ""

end ResourceAccessors.Syntax
