import ResourceAccessors.Syntax.Type

/-!
# Patterns

What stands on the left of bindings and in the arms of a match.
-/

namespace ResourceAccessors.Syntax

open ResourceAccessors.Syntax.Parser

namespace Grammar

/-- The dots of a range: half open or closed. -/
inductive RangeLimits
  | halfOpen
  | closed
  deriving DecidableEq, Repr

/-- The dots of a range. -/
def rangeLimits : Parser RangeLimits := do
  if ← sees (isSign "..=") then
    sign "..="
    return .closed
  else if ← sees (isSign "...") then failure
  else
    sign ".."
    return .halfOpen

/-- The dots of a range in a pattern, where three dots mean a closed range. -/
def patternLimits : Parser RangeLimits := do
  if ← sees (isSign "...") then
    signAs "..=" "..."
    return .closed
  else rangeLimits

/-- Whether a range in a pattern has no bound here. -/
def isNoRangeBound : Lookahead := fun trees =>
  trees.isEmpty || isAnySign ["|", "=", ",", ";"] trees || isColon trees || isWord "if" trees

/-- The words and signs that start a path in a pattern. -/
def isPathStart : Lookahead := fun trees =>
  isIdentifier trees || isSign "::" trees || isSign "<" trees ||
    ["self", "Self", "super", "crate"].any (isWord · trees)

/-- A bound of a range in a pattern; the result says whether it is there. -/
def rangeBound (g : Grammar) : Parser Bool := do
  if ← sees isNoRangeBound then return false
  else if ← sees isLiteral then
    discard literal
    return true
  else if ← sees isPathStart then
    discard (g.qualifiedPath true)
    return true
  else
    word "const"
    g.attributedBlock
    return true

/-- The end of a range in a pattern behind its start. -/
def rangeEnd (g : Grammar) : Parser PatternShape := do
  let limits ← patternLimits
  if ← g.rangeBound then return .other
  else if limits = .closed then failure
  else return .openRange

/-- A pattern that is a literal or starts a range with one. -/
def literalPattern (g : Grammar) : Parser PatternShape := do
  discard g.rangeBound
  if ← sees (isSign "..") then g.rangeEnd else return .other

/-- A range in a pattern that has no start, or two dots alone. -/
def openPattern (g : Grammar) : Parser PatternShape := do
  let limits ← rangeLimits
  if ← g.rangeBound then return .openRange
  else if limits = .closed then failure
  else return .rest

/-- Patterns with bars between them. -/
def alternatives (g : Grammar) : Parser PatternShape := do
  let first ← g.pattern
  let others ← whileSees isAlternative do
    sign "|"
    g.pattern
  return if others.isEmpty then first else .other

/-- Patterns with bars between them and possibly before them. -/
def patterns (g : Grammar) : Parser PatternShape := do
  if ← sign? "|" then
    discard g.alternatives
    return .other
  else g.alternatives

/-- Whether a text names a field by its place. -/
def isFieldNumber (text : String) : Bool :=
  match (text.toList.filter (· != '_') |> String.ofList).toNat? with
  | some place => place < 1 <<< 32
  | none => false

/-- A name of a field: an identifier or a number; the result says whether it is an identifier. -/
def fieldName : Parser Bool := do
  if ← sees isIdentifier then
    discard identifier
    return true
  else
    match ← literal with
    | .literal .integer text =>
      if isFieldNumber text then return false else failure
    | _ => failure

/-- A field in the pattern of a struct. -/
def fieldPattern (g : Grammar) : Parser Unit := do
  let isBoxed ← word? "box"
  let byReference ← word? "ref"
  let isMutable ← word? "mut"
  let isBinding := isBoxed || byReference || isMutable
  let isNamed ← if isBinding then do
      discard identifier
      pure true
    else fieldName
  if !isNamed || !isBinding && (← sees (isSign ":")) then
    sign ":"
    discard g.patterns

/-- The fields in the pattern of a struct, with two dots for the others. -/
def fieldPatterns (g : Grammar) : Nat → Parser Unit
  | 0 => failure
  | fuel + 1 => do
    if ← atEnd then return
    discard g.outerAttributes
    if ← sees (isSign "..") then sign ".."
    else
      g.fieldPattern
      if ← atEnd then return
      sign ","
      g.fieldPatterns fuel

/-- A pattern that starts with a path. -/
def pathPattern (g : Grammar) : Parser PatternShape := do
  let path ← g.qualifiedPath true
  if !path.isQualified && path.isPlain && (← sees isBang) then
    sign "!"
    discard anyGroup
    return .other
  else if ← sees (isGroup .brace) then
    inside .brace do g.fieldPatterns ((← ahead).length + 1)
    return .other
  else if ← sees (isGroup .parenthesis) then
    discard (inside .parenthesis (terminated g.patterns))
    return .other
  else if ← sees (isSign "..") then g.rangeEnd
  else return .other

/-- A pattern that binds a name. -/
def bindingPattern (g : Grammar) : Parser Unit := do
  discard (word? "ref")
  discard (word? "mut")
  if ← sees (isWord "self") then discard anyWord else discard identifier
  if ← sees (isSign "@") then
    sign "@"
    discard g.pattern

/-- A pattern in a slice, where a range has both bounds or stands in parentheses. -/
def sliceElement (g : Grammar) : Parser Unit := do
  if (← g.patterns) = .openRange then failure

/-- Whether a pattern starts with a path and is more than a name. -/
def isPathPattern : Lookahead := fun trees =>
  isIdentifier trees && second (fun after => isAnySign ["::", "!", ".."] after ||
      isGroup .brace after || isGroup .parenthesis after) trees ||
    isWord "self" trees && second (isSign "::") trees ||
    isSign "::" trees || isSign "<" trees || ["Self", "super", "crate"].any (isWord · trees)

/-- Whether a pattern is a literal or starts with one. -/
def isLiteralPattern : Lookahead := fun trees =>
  isSign "-" trees || isLiteral trees || isWord "const" trees

/-- Whether a pattern binds a name. -/
def isBindingPattern : Lookahead := fun trees =>
  ["ref", "mut", "self"].any (isWord · trees) || isIdentifier trees

/-- A pattern without alternatives. -/
def parsePattern (g : Grammar) : Parser PatternShape := do
  if ← sees isPathPattern then g.pathPattern
  else if ← sees (isWord "_") then
    word "_"
    return .other
  else if ← sees (isWord "box") then
    word "box"
    discard g.pattern
    return .other
  else if ← sees isLiteralPattern then g.literalPattern
  else if ← sees isBindingPattern then
    g.bindingPattern
    return .other
  else if ← sees (isSign "&") then
    sign "&"
    discard (word? "mut")
    discard g.pattern
    return .other
  else if ← sees (isGroup .parenthesis) then
    discard (inside .parenthesis (terminated g.patterns))
    return .other
  else if ← sees (isGroup .bracket) then
    discard (inside .bracket (terminated g.sliceElement))
    return .other
  else if ← sees fun trees => isSign ".." trees && !isSign "..." trees then g.openPattern
  else failure

end Grammar

end ResourceAccessors.Syntax
