import ResourceAccessors.Syntax.Generics
import ResourceAccessors.Syntax.Pattern

/-!
# Items

Declarations of types, functions, constants, modules and all else that source code is made of. Only
types and modules are kept; of the others it matters where they end.
-/

namespace ResourceAccessors.Syntax

open ResourceAccessors.Syntax.Parser

/-! ### Lookahead -/

/-- The trees without a word in front of them, if it is there. -/
def withoutWord (text : String) (trees : Tokens) : Tokens :=
  if isWord text trees then trees.drop 1 else trees

/-- The trees without an interface in front of them, if one is there. -/
def withoutAbi (trees : Tokens) : Tokens :=
  if isWord "extern" trees then
    if isText (trees.drop 1) then trees.drop 2 else trees.drop 1
  else trees

/-- Whether a function is declared, possibly one that is marked as safe. -/
def isFunction (allowSafe : Bool) : Lookahead := fun trees =>
  let behindAsync := withoutWord "async" (withoutWord "const" trees)
  let behindSafety :=
    if allowSafe && isWord "safe" behindAsync then behindAsync.drop 1
    else withoutWord "unsafe" behindAsync
  isWord "fn" (withoutAbi behindSafety)

/-- Whether a path starts here that calls a macro. -/
def isMacroStart : Lookahead := fun trees =>
  isIdentifier trees || isSign "::" trees || ["self", "super", "crate"].any (isWord · trees)

/-- Whether declarations in a foreign interface come next. -/
def isForeignBlock : Lookahead := fun trees =>
  isWord "extern" trees && isGroup .brace (withoutAbi trees)

namespace Grammar

/-! ### Functions -/

/-- What a method is called on, as its first parameter. -/
def receiver (g : Grammar) : Parser Unit := do
  let isReference ← sign? "&"
  if isReference then discard lifetime?
  discard (word? "mut")
  word "self"
  if !isReference then
    if ← sign? ":" then discard (g.type true)

/-- The dots for more parameters, which come last. -/
def moreParameters : Parser Unit := do
  sign "..."
  unless ← atEnd do sign ","

/-- A parameter of a function; the result says whether it stands for more parameters. -/
def functionParameter (g : Grammar) (isFirst : Bool) : Parser Bool := do
  if (← peek? g.receiver).isSome then
    unless isFirst do failure
    g.receiver
    return false
  else if ← sees fun trees => isIdentifier trees && second (isSign "<") trees then
    discard (g.type true)
    return false
  else
    discard g.pattern
    sign ":"
    if ← sees (isSign "...") then
      moreParameters
      return true
    else
      discard (g.type true)
      return false

/-- The parameters of a function. -/
def functionParameters (g : Grammar) (isFirst : Bool) : Nat → Parser Unit
  | 0 => failure
  | fuel + 1 => do
    if ← atEnd then return
    discard g.outerAttributes
    if ← sees (isSign "...") then moreParameters
    else
      if ← g.functionParameter isFirst then return
      if ← atEnd then return
      sign ","
      g.functionParameters false fuel

/-- All of a function before its body. -/
def signature (g : Grammar) (allowSafe : Bool) : Parser Unit := do
  discard (word? "const")
  discard (word? "async")
  if !(← word? "unsafe") && allowSafe then discard (word? "safe")
  discard abi?
  word "fn"
  discard identifier
  discard g.parameters
  inside .parenthesis do g.functionParameters true ((← ahead).length + 1)
  g.returnType true
  discard g.conditions?

/-- A function, whose body may be missing. -/
def function (g : Grammar) (allowSafe : Bool) : Parser Unit := do
  g.signature allowSafe
  if !(← sign? ";") then g.attributedBlock

/-! ### Types and constants -/

/-- Where the conditions on a type alias may stand. -/
inductive ConditionsPlace
  | beforeDefinition
  | behindDefinition
  | anywhere
  deriving DecidableEq

/-- Bounds with plus signs between them, up to a place that passes a test. -/
def boundsUntil (g : Grammar) (ends : Lookahead) (allowConst : Bool) : Parser Unit :=
  repeatWhile do
    if ← sees ends then return false
    discard (g.bound false allowConst)
    unless ← sees ends do sign "+"
    return true

/-- A type alias, or a type that goes with a trait. -/
def typeAlias (g : Grammar) (place : ConditionsPlace) : Parser Unit := do
  word "type"
  discard identifier
  discard g.parameters
  if ← sign? ":" then
    g.boundsUntil (fun trees => isWord "where" trees || isAnySign ["=", ";"] trees) true
  let early ← if place == .behindDefinition then pure none else g.conditions?
  if ← sign? "=" then discard (g.type true)
  unless place == .beforeDefinition || early.isSome do discard g.conditions?
  sign ";"

/-- A constant, whose value may be missing. -/
def constant (g : Grammar) : Parser Unit := do
  word "const"
  if !(← word? "_") then discard identifier
  discard g.parameters
  sign ":"
  discard (g.type true)
  if ← sign? "=" then discard (g.expression true)
  discard g.conditions?
  sign ";"

/-- A static variable, whose type or value may be missing. -/
def static (g : Grammar) : Parser Unit := do
  word "static"
  discard (word? "mut")
  discard identifier
  if !(← sees (isSign "=")) then
    sign ":"
    discard (g.type true)
  if ← sign? "=" then discard (g.expression true)
  sign ";"

/-! ### Macros and imports -/

/-- A call of a macro as an item. -/
def macroItem : Parser Unit := do
  discard plainPath
  sign "!"
  if ← sees fun trees => isIdentifier trees || isWord "try" trees then discard anyWord
  let (delimiter, _) ← anyGroup
  unless delimiter = .brace do sign ";"

/-- A call of a macro as an item inside another one. -/
def innerMacroItem : Parser Unit := do
  discard plainPath
  sign "!"
  let (delimiter, _) ← anyGroup
  unless delimiter = .brace do sign ";"

/-- The declaration of a macro. -/
def macroDeclaration : Parser Unit := do
  word "macro"
  discard identifier
  if ← sees (isGroup .parenthesis) then inside .parenthesis everything
  inside .brace everything

/-- The name behind `as`: an identifier or nothing. -/
def secondName : Parser Unit := do
  word "as"
  if !(← word? "_") then discard identifier

/-- A name that an import may go through. -/
def isImportName : Lookahead := fun trees =>
  isIdentifier trees || ["self", "super", "crate", "try"].any (isWord · trees)

/-- One of several trees between braces, which may start at the root of names. -/
def importBranch (g : Grammar) (allowGlobal : Bool) : Parser Unit := do
  let isGlobal ← if allowGlobal then sign? "::" else pure false
  g.useTree (allowGlobal && !isGlobal)

/-- The tree of names behind `use`. -/
def parseUseTree (g : Grammar) (allowGlobal : Bool) : Parser Unit := do
  if ← sees isImportName then
    discard anyWord
    if ← sign? "::" then g.useTree false
    else if ← sees (isWord "as") then secondName
  else if ← sees (isGroup .brace) then
    discard (inside .brace (terminated (g.importBranch allowGlobal)))
  else sign "*"

/-- An import. -/
def useItem (g : Grammar) : Parser Unit := do
  word "use"
  let isGlobal ← sign? "::"
  g.useTree !isGlobal
  sign ";"

/-- An import of a whole library. -/
def externCrate : Parser Unit := do
  word "extern"
  word "crate"
  if ← sees (isWord "self") then discard anyWord else discard identifier
  if ← sees (isWord "as") then secondName
  sign ";"

/-! ### Items with other items inside -/

/-- Items between braces, behind their inner attributes. -/
def itemBlock (g : Grammar) (item : Parser Unit) : Parser Unit :=
  inside .brace do
    discard g.innerAttributes
    discard (toEnd item)

/-- An item of a foreign interface. -/
def foreignItem (g : Grammar) : Parser Unit := do
  discard g.outerAttributes
  let visible ← visibility
  let trees ← ahead
  if isFunction true trees then g.function true
  else if isWord "static" trees ||
      (isWord "unsafe" trees || isWord "safe" trees) && second (isWord "static") trees then
    if !(← word? "unsafe") then discard (word? "safe")
    require fun after => !second (isSign "=") (withoutWord "mut" (after.drop 1))
    g.static
  else if isWord "type" trees then g.typeAlias .anywhere
  else if visible == .inherited && isMacroStart trees then innerMacroItem
  else failure

/-- Declarations in a foreign interface. -/
def foreignBlock (g : Grammar) : Parser Unit := do
  discard (word? "unsafe")
  require (isWord "extern")
  discard abi?
  g.itemBlock g.foreignItem

/-- An item of a trait. -/
def traitItem (g : Grammar) : Parser Unit := do
  discard g.outerAttributes
  let visible ← visibility
  let isDefault ← word? "default"
  let trees ← ahead
  if isFunction false trees then g.function false
  else if isWord "const" trees then g.constant
  else if isWord "type" trees then g.typeAlias .behindDefinition
  else if visible == .inherited && !isDefault && isMacroStart trees then innerMacroItem
  else failure

/-- A trait behind its parameters. -/
def traitBody (g : Grammar) : Parser Unit := do
  if ← sign? ":" then
    g.boundsUntil (fun trees => isWord "where" trees || isGroup .brace trees) true
  discard g.conditions?
  g.itemBlock g.traitItem

/-- Bounds that a trait is another name of. -/
def traitAlias (g : Grammar) : Parser Unit := do
  sign "="
  g.boundsUntil (fun trees => isWord "where" trees || isSign ";" trees) false
  discard g.conditions?
  sign ";"

/-- A trait. -/
def trait (g : Grammar) : Parser Unit := do
  let isUnsafe ← word? "unsafe"
  let isAuto ← word? "auto"
  word "trait"
  discard identifier
  discard g.parameters
  if !isUnsafe && !isAuto && (← sees (isSign "=")) then g.traitAlias
  else g.traitBody

/-- An item of an implementation. -/
def implementationItem (g : Grammar) : Parser Unit := do
  discard g.outerAttributes
  let visible ← visibility
  let isDefault := (isWord "default" (← ahead)) && !second (isSign "!") (← ahead)
  if isDefault then word "default"
  let trees ← ahead
  if isFunction false trees then g.function false
  else if isWord "const" trees then g.constant
  else if isWord "type" trees then g.typeAlias .behindDefinition
  else if visible == .inherited && !isDefault && isMacroStart trees then innerMacroItem
  else failure

/-- Whether parameters come behind `impl`, rather than a type that starts with a bracket. -/
def isParameterList : Lookahead := fun trees =>
  isSign "<" trees &&
    (second (fun after => isAnySign [">", "#"] after || isWord "const" after) trees ||
      second (fun after => isLifetime after || isIdentifier after) trees &&
        third (fun after => isAnySign [">", ",", "="] after || isColon after) trees)

/-- An implementation of a trait or of methods. -/
def implementation (g : Grammar) : Parser Unit := do
  discard (word? "default")
  discard (word? "unsafe")
  word "impl"
  if ← sees isParameterList then discard g.parameters
  if ← sees fun trees => isSign "?" trees && second (isWord "const") trees then sign "?"
  discard (word? "const")
  if ← sees fun trees => isSign "!" trees && !second (isGroup .brace) trees then sign "!"
  discard (g.type true)
  if ← word? "for" then discard (g.type true)
  discard g.conditions?
  g.itemBlock g.implementationItem

/-! ### Declared types -/

/-- Whether a field without a name has fields of its own. -/
def isFieldGroup : Lookahead := fun trees =>
  isWord "struct" trees || isWord "union" trees && second (isGroup .brace) trees

/-- Fields with names, between their braces. -/
def namedFields (g : Grammar) : Nat → Parser Unit
  | 0 => failure
  | fuel + 1 =>
    discard (inside .brace (terminated do
      discard g.outerAttributes
      discard visibility
      let isUnnamed ← word? "_"
      unless isUnnamed do discard identifier
      sign ":"
      if ← sees fun trees => isUnnamed && isFieldGroup trees then
        discard anyWord
        g.namedFields fuel
      else discard (g.type true)))

/-- Fields without names, between their parentheses. -/
def placedFields (g : Grammar) : Parser Unit :=
  discard (inside .parenthesis (terminated do
    discard g.outerAttributes
    discard visibility
    discard (g.type true)))

/-- How many groups may stand inside each other at the front of the trees that are left. -/
def nesting : Parser Nat := do
  return TokenTree.countAll (← ahead) + 1

/-- A variant of an enum. -/
def variant (g : Grammar) : Parser Unit := do
  discard g.outerAttributes
  discard visibility
  discard identifier
  if ← sees (isGroup .brace) then g.namedFields (← nesting)
  else if ← sees (isGroup .parenthesis) then g.placedFields
  if ← sign? "=" then discard (g.expression true)

/-- The conditions and the fields of a struct. -/
def structBody (g : Grammar) : Parser (Declaration.Kind × Option Tokens) := do
  let early ← g.conditions?
  if early.isNone && (← sees (isGroup .parenthesis)) then
    g.placedFields
    let late ← g.conditions?
    sign ";"
    return (.tupleStruct, late)
  else if ← sees (isGroup .brace) then
    g.namedFields (← nesting)
    return (.struct, early)
  else
    sign ";"
    return (.unitStruct, early)

/-- The conditions and the variants of an enum. -/
def enumBody (g : Grammar) : Parser (Declaration.Kind × Option Tokens) := do
  let conditions ← g.conditions?
  discard (inside .brace (terminated g.variant))
  return (.enum, conditions)

/-- The conditions and the fields of a union. -/
def unionBody (g : Grammar) : Parser (Declaration.Kind × Option Tokens) := do
  let conditions ← g.conditions?
  g.namedFields (← nesting)
  return (.union, conditions)

/-- A declared type behind its visibility. -/
def containerItem (g : Grammar) (attributes : List Attribute)
    (visible : Declaration.Visibility) (keyword : String)
    (body : Parser (Declaration.Kind × Option Tokens)) : Parser Item := do
  word keyword
  let name ← identifier
  let generics ← g.parameters
  let (kind, conditions) ← body
  return .container ⟨attributes, visible, kind, name, { generics with conditions }⟩

/-! ### Modules and the choice among items -/

/-- A module behind its visibility. Its inner attributes follow its outer ones. -/
def moduleItem (g : Grammar) (attributes : List Attribute) : Parser Item := do
  discard (word? "unsafe")
  word "mod"
  let name ← if ← sees (isWord "try") then anyWord else identifier
  if ← sign? ";" then return .module attributes name none
  inside .brace do
    let inner ← g.innerAttributes
    let items ← toEnd g.item
    return .module (attributes ++ inner) name (some items)

/-- An item that is not kept. -/
def skipped (item : Parser Unit) : Parser Item := do
  item
  return .other

/-- An item behind its attributes. -/
def itemBody (g : Grammar) (attributes : List Attribute) : Parser Item := do
  let visible ← visibility
  let trees ← ahead
  let isInherited := visible == .inherited
  if isFunction false trees then skipped (g.function false)
  else if isWord "extern" trees && second (isWord "crate") trees then skipped externCrate
  else if isForeignBlock (withoutWord "unsafe" trees) && isInherited then skipped g.foreignBlock
  else if isWord "unsafe" trees && second (isWord "extern") trees && isInherited then
    skipped g.foreignBlock
  else if isWord "use" trees then skipped g.useItem
  else if isWord "static" trees then skipped g.static
  else if isWord "const" trees then skipped g.constant
  else if isWord "mod" trees || isWord "unsafe" trees && second (isWord "mod") trees then
    g.moduleItem attributes
  else if isWord "type" trees then skipped (g.typeAlias .beforeDefinition)
  else if isWord "struct" trees then g.containerItem attributes visible "struct" g.structBody
  else if isWord "enum" trees then g.containerItem attributes visible "enum" g.enumBody
  else if isWord "union" trees && second isIdentifier trees then
    g.containerItem attributes visible "union" g.unionBody
  else if isWord "trait" (withoutWord "auto" (withoutWord "unsafe" trees)) then skipped g.trait
  else if isWord "impl" (withoutWord "unsafe" trees) ||
      isWord "default" trees && !second (isSign "!") trees then
    skipped g.implementation
  else if isWord "macro" trees then skipped macroDeclaration
  else if isInherited && isMacroStart trees then skipped macroItem
  else failure

/-- An item. -/
def parseItem (g : Grammar) : Parser Item := do
  g.itemBody (← g.outerAttributes)

end Grammar

end ResourceAccessors.Syntax
