import ResourceAccessors.Syntax.Type

/-!
# Generic parameters

The parameters of a type and the conditions on them. What the generated code repeats leaves out the
defaults, puts lifetimes before the other parameters, and leaves out a colon without bounds.
-/

namespace ResourceAccessors.Syntax

open ResourceAccessors.Syntax.Parser

namespace Grammar

/-- Bounds behind a colon, if there is one. A colon without bounds is not printed. -/
def parameterBounds (ends : Lookahead) (bound : Parser α) : Parser Unit := do
  if ← sees (isSign ":") then
    let (_, colon) ← captured (sign ":")
    let (_, bounds) ← captured (separated "+" ends bound)
    unless bounds.isEmpty do emit (colon ++ bounds)

/-- A lifetime parameter. -/
def lifetimeParameter : Parser Parameter := do
  let (name, used) ← captured lifetime
  emit used
  parameterBounds (fun trees => trees.isEmpty || isAnySign [",", ">"] trees) lifetime
  return ⟨.lifetime, name, used⟩

/-- A type parameter. -/
def typeParameter (g : Grammar) : Parser Parameter := do
  let name ← identifier
  parameterBounds (fun trees => trees.isEmpty || isAnySign [",", ">", "="] trees)
    (g.bound false true)
  if ← sees (isSign "=") then
    discard (unprinted do
      sign "="
      g.type true)
  return ⟨.type, unraw name, [.word name]⟩

/-- A constant parameter. -/
def constParameter (g : Grammar) : Parser Parameter := do
  word "const"
  let name ← identifier
  sign ":"
  discard (g.type true)
  if ← sees (isSign "=") then
    unprinted do
      sign "="
      g.constArgument
  return ⟨.const, unraw name, [.word name]⟩

/-- A generic parameter. -/
def parameter (g : Grammar) : Parser Parameter := do
  discard g.outerAttributes
  if ← sees isLifetime then lifetimeParameter
  else if ← sees isIdentifier then g.typeParameter
  else if ← sees (isWord "const") then g.constParameter
  else
    word "_"
    return ⟨.type, "_", [.word "_"]⟩

/-- Whether a parameter is a lifetime. -/
def Parameter.isLifetime (parameter : Parameter) : Bool :=
  parameter.kind == .lifetime

/-- Generic parameters, without their conditions. -/
def parameters (g : Grammar) : Parser Generics := do
  if ← sees (isSign "<") then
    sign "<"
    let items ← listed (isSign ">") g.parameter
    sign ">"
    let used := items.map fun item => { item with printed := item.value.used }
    return {
      names := items.map (·.value.name)
      declared := printedFirst Parameter.isLifetime items
      used := printedFirst Parameter.isLifetime used
      conditions := none }
  else return ⟨[], [], [], none⟩

/-- Whether the conditions behind `where` end. -/
def isEndOfConditions : Lookahead := fun trees =>
  trees.isEmpty || isGroup .brace trees || isAnySign [",", ";", "="] trees || isColon trees

/-- Whether the bounds of a lifetime end. -/
def isEndOfLifetimeBounds : Lookahead := fun trees =>
  trees.isEmpty || isGroup .brace trees || isAnySign [",", ";", ":", "="] trees

/-- A condition on a lifetime or a type. -/
def condition (g : Grammar) : Parser Unit := do
  if ← sees fun trees => isLifetime trees && second (isSign ":") trees then
    discard lifetime
    sign ":"
    separated "+" isEndOfLifetimeBounds lifetime
  else
    discard g.binder?
    discard (g.type true)
    sign ":"
    separated "+" isEndOfConditions (g.bound false true)

/-- The conditions behind `where`, if it comes next. -/
def conditions? (g : Grammar) : Parser (Option Tokens) := do
  if ← sees (isWord "where") then
    let (_, keyword) ← captured (word "where")
    let (_, conditions) ← captured (separated "," isEndOfConditions g.condition)
    let printed := if conditions.isEmpty then [] else keyword ++ conditions
    emit printed
    return some printed
  else return none

/-! ### Visibility -/

/-- Whether a visibility is restricted to one word in parentheses. -/
def isRestrictedToWord : Lookahead
  | .group .parenthesis [.word text] :: _ => ["crate", "self", "super"].contains text
  | _ => false

/-- Whether a visibility is restricted to a path behind `in`. -/
def isRestrictedToPath : Lookahead
  | .group .parenthesis (.word "in" :: _) :: _ => true
  | _ => false

/-- A visibility, which may be absent. -/
def visibility : Parser Declaration.Visibility := do
  if ← sees (isWord "pub") then
    let (_, keyword) ← captured (word "pub")
    emit keyword
    if ← sees isRestrictedToWord then
      let (name, group) ← captured (inside .parenthesis anyWord)
      emit group
      return if name = "crate" then .crate else .restricted (keyword ++ group : Tokens).print
    else if ← sees isRestrictedToPath then
      let (_, group) ← captured (inside .parenthesis do
        word "in"
        plainPath)
      emit group
      return .restricted (keyword ++ group : Tokens).print
    else return .everywhere
  else return .inherited

end Grammar

end ResourceAccessors.Syntax
