import ResourceAccessors.Syntax.Attribute

/-!
# Paths

Paths whose segments may have arguments. In an expression, arguments in angle brackets need a
double colon in front of them, so that they are not read as a comparison.
-/

namespace ResourceAccessors.Syntax

open ResourceAccessors.Syntax.Parser

/-- The arguments of a path segment. -/
inductive SegmentArguments
  | none
  | angled
  | parenthesized
  deriving DecidableEq, Repr, Inhabited

/-- A segment of a path. -/
structure Segment where
  name : String
  arguments : SegmentArguments
  deriving DecidableEq, Repr, Inhabited

/-- A path with arguments. -/
structure CodePath where
  /-- Whether the path starts at a type. -/
  isQualified : Bool
  /-- Whether the path starts with a double colon. -/
  isGlobal : Bool
  segments : List Segment
  deriving DecidableEq, Repr, Inhabited

namespace CodePath

/-- Whether no segment has arguments. -/
def isPlain (path : CodePath) : Bool :=
  path.segments.all (·.arguments == .none)

/-- Whether the last segment has no arguments. -/
def endsPlain (path : CodePath) : Bool :=
  match path.segments.getLast? with
  | some segment => segment.arguments == .none
  | none => true

/-- The identifier that a path is, when it is one. -/
def identifier? (path : CodePath) : Option String :=
  match path with
  | ⟨false, false, [⟨name, .none⟩]⟩ => some name
  | _ => none

end CodePath

namespace Grammar

/-- The type behind an arrow, if there is one. -/
def returnType (g : Grammar) (allowPlus : Bool) : Parser Unit := do
  if ← sees (isSign "->") then
    sign "->"
    discard (g.type allowPlus)

/-- The attributes and the name of a lifetime behind `for`. -/
def binderLifetime (g : Grammar) : Parser Unit := do
  discard g.outerAttributes
  discard lifetime

/-- The lifetimes that `for` introduces. -/
def binder (g : Grammar) : Parser Unit := do
  word "for"
  sign "<"
  discard (commaSeparated (isSign ">") g.binderLifetime)
  sign ">"

/-- The lifetimes that `for` introduces, if it comes next. -/
def binder? (g : Grammar) : Parser Bool := do
  if ← sees (isWord "for") then
    g.binder
    return true
  else return false

/-- Whether the next trees are a constant that may stand among types. -/
def isConstArgument : Lookahead := fun trees =>
  isLiteral trees || isGroup .brace trees

/-- A constant among types: a literal, an identifier or a block. -/
def constArgument (g : Grammar) : Parser Unit := do
  if ← sees isLiteral then discard literal
  else if ← sees isIdentifier then discard identifier
  else g.attributedBlock

/-- What may stand behind the name of an associated item among the arguments of a path. -/
def associatedArgument (g : Grammar) : Parser Unit := do
  if ← sign? "=" then
    if ← sees isConstArgument then g.constArgument else discard (g.type true)
  else if ← sign? ":" then
    separated "+" (isAnySign [",", ">"]) (g.bound false true)

/-- One argument of a path; the result says whether it is a lifetime. -/
def genericArgument (g : Grammar) : Parser Bool := do
  if ← sees fun trees => isLifetime trees && !second (isSign "+") trees then
    discard lifetime
    return true
  else if ← sees isConstArgument then
    g.constArgument
    return false
  else
    if (← g.type true) = .simple then g.associatedArgument
    return false

/-- Arguments in angle brackets. They print with the lifetimes first. -/
def angledArguments (g : Grammar) : Parser Unit := do
  discard (sign? "::")
  sign "<"
  let arguments ← listed (isSign ">") g.genericArgument
  emit (printedFirst id arguments)
  sign ">"

/-- Whether arguments in parentheses come next. -/
def isParenthesized : Lookahead := fun trees =>
  isGroup .parenthesis trees || isSign "::" trees && third (isGroup .parenthesis) trees

/-- Arguments in parentheses, and the type behind their arrow. A double colon in front of them is
not printed. -/
def parenthesizedArguments (g : Grammar) : Parser Unit := do
  discard (unprinted (sign? "::"))
  discard (inside .parenthesis (terminated (g.type true)))
  g.returnType false

/-- Whether a segment is a word that takes no arguments. -/
def isBareSegment : Lookahead := fun trees =>
  ["super", "self", "crate", "try"].any (isWord · trees)

/-- Whether arguments in angle brackets come next. -/
def isAngled (inExpression : Bool) : Lookahead := fun trees =>
  !inExpression && isSign "<" trees && !isSign "<=" trees ||
    isSign "::" trees && third (isSign "<") trees

/-- A segment of a path. -/
def segment (g : Grammar) (inExpression : Bool) : Parser Segment := do
  if ← sees isBareSegment then return ⟨← anyWord, .none⟩
  else
    let name ← if ← sees (isWord "Self") then anyWord else identifier
    if ← sees (isAngled inExpression) then
      g.angledArguments
      return ⟨name, .angled⟩
    else return ⟨name, .none⟩

/-- A path that does not start at a type. -/
def path (g : Grammar) (inExpression : Bool) : Parser CodePath := do
  let isGlobal ← sign? "::"
  let first ← g.segment inExpression
  let others ← whileSees
    (fun trees => isSign "::" trees && !third (isGroup .parenthesis) trees) do
      sign "::"
      g.segment inExpression
  return ⟨false, isGlobal, first :: others⟩

/-- A path that may start at a type. -/
def qualifiedPath (g : Grammar) (inExpression : Bool) : Parser CodePath := do
  if ← sees (isSign "<") then
    sign "<"
    discard (g.type true)
    if ← word? "as" then discard (g.path false)
    sign ">"
    sign "::"
    let first ← g.segment inExpression
    let others ← whileSees (isSign "::") do
      sign "::"
      g.segment inExpression
    return ⟨true, true, first :: others⟩
  else g.path inExpression

/-- A path as a type, whose last segment may have arguments in parentheses. -/
def typePath (g : Grammar) (path : Parser CodePath) : Parser CodePath := do
  let found ← path
  if found.endsPlain && (← sees isParenthesized) then
    g.parenthesizedArguments
    let last := found.segments.getLast?.map fun segment =>
      { segment with arguments := .parenthesized }
    return { found with segments := found.segments.dropLast ++ last.toList }
  else return found

end Grammar

end ResourceAccessors.Syntax
