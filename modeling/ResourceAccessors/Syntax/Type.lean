import ResourceAccessors.Syntax.Path

/-!
# Types and bounds

Types as they are written in declarations and expressions, and the bounds of type parameters.
-/

namespace ResourceAccessors.Syntax

open ResourceAccessors.Syntax.Parser

namespace Grammar

/-! ### Bounds -/

/-- A name that a bound captures. -/
def capturedName : Parser Unit := do
  if ← sees isLifetime then discard lifetime
  else if ← sees fun trees => isIdentifier trees || isWord "Self" trees then discard anyWord
  else failure

/-- The names that a bound captures. -/
def captureBound : Parser Unit := do
  word "use"
  sign "<"
  discard (commaSeparated (isSign ">") capturedName)
  sign ">"

/-- The sign that a trait is asked for in constant code; the result says whether it is there. -/
def constModifier (allowConst : Bool) : Parser Bool := do
  if ← sees (isGroup .bracket) then
    inside .bracket (word "const")
    if allowConst then return true else failure
  else if ← word? "const" then
    if allowConst then return true else failure
  else return false

/-- A trait as a bound; the result says whether it is asked for in constant code. A bound with a
question mark introduces no lifetimes. -/
def traitBound (g : Grammar) (allowConst : Bool) : Parser Bool := do
  let bound ← g.binder?
  let isConst ← constModifier allowConst
  let isOptional ← sign? "?"
  let rebound ← if isOptional && !bound then g.binder? else pure false
  discard (g.typePath (g.path false))
  if isOptional && (bound || rebound) then failure else return isConst

/-- A trait as a bound, possibly in parentheses. -/
def enclosedTraitBound (g : Grammar) (allowConst : Bool) : Parser Bool := do
  if ← sees (isGroup .parenthesis) then inside .parenthesis (g.traitBound allowConst)
  else g.traitBound allowConst

/-- A bound of a type parameter. -/
def parseBound (g : Grammar) (allowCapture allowConst : Bool) : Parser BoundShape := do
  if ← sees isLifetime then
    discard lifetime
    return .lifetime
  else if ← sees (isWord "use") then
    captureBound
    if allowCapture then return .capture else failure
  else
    match ← peek? (g.enclosedTraitBound allowConst) with
    | some (true, _) =>
      discard (asWritten (g.enclosedTraitBound allowConst))
      return .const
    | _ =>
      discard (g.enclosedTraitBound allowConst)
      return .trait

/-- Whether a bound goes on behind a plus sign. -/
def isBoundStart : Lookahead := fun trees =>
  isAnyWord trees || isSign "::" trees || isSign "?" trees || isLifetime trees ||
    isGroup .parenthesis trees

/-- Whether a bound goes on behind a plus sign, where it may be one in constant code. -/
def isBoundStartOr (allowConst : Bool) : Lookahead := fun trees =>
  isBoundStart trees || allowConst && (isGroup .bracket trees || isWord "const" trees)

/-- What is known of a sum of bounds. -/
structure BoundSum where
  bounds : List BoundShape
  /-- Whether a plus sign stands behind the last bound. -/
  endsInPlus : Bool

/-- Bounds with plus signs between them. -/
def boundSum (g : Grammar) (allowPlus allowCapture allowConst : Bool) : Parser BoundSum := do
  let first ← g.bound allowCapture allowConst
  if !allowPlus then return ⟨[first], false⟩
  let others ← whileSees (isSign "+") do
    sign "+"
    if ← sees (isBoundStartOr allowConst) then return some (← g.bound allowCapture allowConst)
    else if ← sees (isSign "+") then failure
    else return none
  return ⟨first :: others.filterMap id, others.any Option.isNone⟩

/-- Bounds as a type, one of which at least is a trait. -/
def objectBounds (g : Grammar) (allowPlus : Bool) : Parser BoundSum := do
  let sum ← g.boundSum allowPlus false false
  if sum.bounds.contains .trait then return sum else failure

/-- More bounds behind plus signs. -/
def moreBounds (g : Grammar) : Parser Unit :=
  discard (whileSees (isSign "+") do
    sign "+"
    discard (g.bound false false))

/-! ### Function types -/

/-- The interface that `extern` names, if it comes next. -/
def abi? : Parser Bool := do
  if ← word? "extern" then
    if ← sees isText then discard literal
    return true
  else return false

/-- Whether an argument list ends in dots that stand for more arguments. -/
def isVariadic : Lookahead := fun trees =>
  isSign "..." trees ||
    (isIdentifier trees || isWord "_" trees) && second (isSign ":") trees &&
      third (isSign "...") trees

/-- The dots for more arguments, with their name. -/
def variadic : Parser Unit := do
  if ← sees fun trees => isIdentifier trees || isWord "_" trees then
    discard anyWord
    sign ":"
  sign "..."
  discard (sign? ",")

/-- Whether the next trees are a name with a colon behind it. -/
def isNamed (test : Lookahead) : Lookahead := fun trees =>
  test trees && second isColon trees

/-- The type of an argument of a function type, with its name. -/
def functionArgument (g : Grammar) (isFirst : Bool) : Parser Unit := do
  if ← sees fun trees => isFirst && isWord "mut" trees && second (isWord "self") trees then
    asWritten do
      word "mut"
      if ← sees (isNamed isAnyWord) then
        discard anyWord
        sign ":"
        discard (g.type true)
      else word "self"
  else
    if ← sees (isNamed fun trees =>
        isIdentifier trees || isWord "_" trees || isFirst && isWord "self" trees) then
      discard anyWord
      sign ":"
    discard (g.type true)

/-- The arguments of a function type. -/
def functionArguments (g : Grammar) (isFirst : Bool) : Nat → Parser Unit
  | 0 => failure
  | fuel + 1 => do
    if ← atEnd then return
    discard g.outerAttributes
    if ← sees isVariadic then variadic
    else
      g.functionArgument isFirst
      if ← atEnd then return
      sign ","
      g.functionArguments false fuel

/-- A function type behind the lifetimes it introduces. -/
def functionType (g : Grammar) : Parser Unit := do
  discard (g.binder?)
  discard (word? "unsafe")
  discard abi?
  word "fn"
  inside .parenthesis do g.functionArguments true ((← ahead).length + 1)
  g.returnType false

/-! ### Types -/

/-- The rest of a tuple behind its first type. -/
def tupleRest (g : Grammar) : Parser Unit := do
  sign ","
  discard (terminated (g.type true))

/-- What the content of parentheses is. -/
inductive Enclosed
  | tuple
  | bounds
  | optionalBound
  | type (shape : TypeShape)

/-- The content of parentheses that are a type or start one. -/
def enclosedType (g : Grammar) : Parser Enclosed := do
  if ← atEnd then return .tuple
  else if ← sees isLifetime then
    discard (word? "dyn")
    discard (g.objectBounds true)
    return .bounds
  else if ← sees (isSign "?") then
    discard (g.traitBound false)
    return .optionalBound
  else
    let shape ← g.type true
    if ← sees (isSign ",") then
      g.tupleRest
      return .tuple
    else return .type shape

/-- Whether a type in parentheses may be the first of several bounds. -/
def TypeShape.isBound : TypeShape → Bool
  | .simple => true
  | .path => true
  | .bareBounds single => single
  | .other => false

/-- A type in parentheses, or bounds the first of which is in parentheses. -/
def parenthesizedType (g : Grammar) (allowPlus : Bool) : Parser TypeShape := do
  match ← inside .parenthesis g.enclosedType with
  | .tuple => return .other
  | .bounds => return .other
  | .optionalBound =>
    let isAlone := !(← sees (isSign "+"))
    g.moreBounds
    return .bareBounds isAlone
  | .type shape =>
    if allowPlus && (← sees (isSign "+")) && TypeShape.isBound shape then
      g.moreBounds
      return .bareBounds false
    else return .other

/-- The bounds behind a first one that was read as a path; the result says whether it is alone. -/
def boundsAfterPath (g : Grammar) : Parser Bool := do
  let others ← whileSees (isSign "+") do
    sign "+"
    if ← sees isBoundStart then discard (g.bound false false)
    else if ← sees (isSign "+") then failure
  return others.isEmpty

/-- A type that starts with a path. -/
def pathType (g : Grammar) (allowPlus hasBinder : Bool) : Parser TypeShape := do
  let path ← g.typePath (g.qualifiedPath false)
  if path.isQualified then return .other
  else if (← sees isBang) && path.isPlain then
    sign "!"
    discard anyGroup
    return .other
  else if hasBinder || allowPlus && (← sees (isSign "+")) then
    let isAlone ← if allowPlus then g.boundsAfterPath else pure true
    return .bareBounds isAlone
  else
    match path with
    | ⟨false, false, [segment]⟩ =>
      return if segment.arguments = .parenthesized then .path else .simple
    | _ => return .path

/-- The words that start a path which is a type. -/
def isPathType : Lookahead := fun trees =>
  isIdentifier trees || ["super", "self", "Self", "crate"].any (isWord · trees) ||
    isSign "::" trees || isSign "<" trees

/-- Whether a function type comes next. -/
def isFunctionType : Lookahead := fun trees =>
  ["fn", "unsafe", "extern"].any (isWord · trees)

/-- What may stand behind the lifetimes that `for` introduces in a type. -/
def isBindable : Lookahead := fun trees =>
  isIdentifier trees ||
    ["fn", "unsafe", "extern", "super", "self", "Self", "crate"].any (isWord · trees)

/-- An array or a slice, between its brackets. -/
def sequenceType (g : Grammar) : Parser Unit := do
  discard (g.type true)
  if ← sees (isSign ";") then
    sign ";"
    discard (g.expression true)

/-- A type. -/
def parseType (g : Grammar) (allowPlus : Bool) : Parser TypeShape := do
  let hasBinder ← g.binder?
  if hasBinder then require isBindable
  if ← sees (isGroup .parenthesis) then g.parenthesizedType allowPlus
  else if ← sees isFunctionType then
    g.functionType
    return .other
  else if ← sees isPathType then g.pathType allowPlus hasBinder
  else if ← sees (isWord "dyn") then
    if ← sees (second (isSign "*")) then
      asWritten do
        word "dyn"
        sign "*"
        discard (g.objectBounds allowPlus)
    else
      word "dyn"
      discard (g.objectBounds allowPlus)
    return .other
  else if ← sees (isGroup .bracket) then
    inside .bracket g.sequenceType
    return .other
  else if ← sees (isSign "*") then
    sign "*"
    if !(← word? "const") then word "mut"
    discard (g.type false)
    return .other
  else if ← sees (isSign "&") then
    sign "&"
    discard lifetime?
    discard (word? "mut")
    discard (g.type false)
    return .other
  else if ← sees fun trees => isSign "!" trees && !isSign "=" trees then
    sign "!"
    return .other
  else if ← sees (isWord "impl") then
    word "impl"
    let sum ← g.boundSum allowPlus true true
    if sum.bounds.contains .trait || sum.bounds.contains .const then return .other else failure
  else if ← sees (isWord "_") then
    word "_"
    return .other
  else if ← sees isLifetime then
    let sum ← g.objectBounds true
    return .bareBounds (sum.bounds.length = 1 && !sum.endsInPlus)
  else failure

end Grammar

end ResourceAccessors.Syntax
