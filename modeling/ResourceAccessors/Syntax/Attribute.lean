import ResourceAccessors.Syntax.Grammar

/-!
# Attributes

An attribute is a path between brackets behind a hash, with a group of tokens or an equals sign and
an expression behind the path.
-/

namespace ResourceAccessors.Syntax

open ResourceAccessors.Syntax.Parser

/-- Whether the next tree may be a segment of a path without arguments. -/
def isPlainSegment : Lookahead := fun trees =>
  isIdentifier trees || ["super", "self", "Self", "crate"].any (isWord · trees)

/-- A segment of a path without arguments. -/
def plainSegment : Parser String := do
  require isPlainSegment
  anyWord

/-- A path without arguments. -/
def plainPath : Parser PlainPath := do
  let isGlobal ← sign? "::"
  let first ← plainSegment
  let others ← whileSees (isSign "::") do
    sign "::"
    plainSegment
  return ⟨isGlobal, first :: others⟩

namespace Grammar

/-- The value of an attribute: a lone literal, or an expression without attributes. -/
def attributeValue (g : Grammar) : Parser Unit := do
  let isLone :=
    match ← peek? literal with
    | some (_, after) => after.rest.isEmpty
    | none => false
  if isLone then discard literal
  else if ← sees fun trees => isSign "#" trees && second (isGroup .bracket) trees then failure
  else discard (g.expression true)

/-- The path of an attribute. The word `unsafe` is a path here. -/
def attributePath : Parser PlainPath := do
  if ← word? "unsafe" then return ⟨false, ["unsafe"]⟩ else plainPath

/-- The content of an attribute behind its path. -/
def attributeContent (g : Grammar) : Parser AttributeContent := do
  if ← sees isAnyGroup then
    let (_, tokens) ← anyGroup
    return .arguments tokens
  else if ← sees (isSign "=") then
    sign "="
    g.attributeValue
    return .value
  else return .none

/-- The part of an attribute between its brackets. -/
def attributeBody (g : Grammar) : Parser Attribute := do
  let path ← attributePath
  return ⟨path, ← g.attributeContent⟩

/-- An attribute of what follows it. -/
def outerAttribute (g : Grammar) : Parser Attribute := do
  sign "#"
  inside .bracket g.attributeBody

/-- The attributes of what follows them. -/
def outerAttributes (g : Grammar) : Parser (List Attribute) :=
  whileSees (isSign "#") g.outerAttribute

/-- The attributes of what is around them. -/
def innerAttributes (g : Grammar) : Parser (List Attribute) :=
  whileSees (fun trees => isSign "#" trees && second (isSign "!") trees) do
    sign "#"
    sign "!"
    inside .bracket g.attributeBody

/-- A block with its inner attributes. -/
def attributedBlock (g : Grammar) : Parser Unit :=
  inside .brace do
    discard g.innerAttributes
    g.statements

/-- A block. -/
def block (g : Grammar) : Parser Unit :=
  inside .brace g.statements

end Grammar

end ResourceAccessors.Syntax
