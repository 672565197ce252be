import ResourceAccessors.Declaration.Hook

/-!
# Finding declaration sites

The types in a source file that carry the marker attribute. The attribute may be written with a path
in front of its name. Its first two arguments without a name are the extension and the path, and its
arguments with a name go before them. What is not understood keeps its default.
-/

namespace ResourceAccessors.Declaration

open Syntax

/-- The name of the marker attribute. -/
def markerName : String :=
  "embedded_resource_properties"

/-- Whether an attribute marks a type. -/
def isMarker (candidate : Attribute) : Bool :=
  candidate.path.segments.getLast? == some markerName

/-! ### Arguments -/

/-- The arguments with those set that have no name, from the place `position` on. -/
def Arguments.withUnnamed (arguments : Arguments) (position : Nat) :
    List ExpressionShape → Warned Arguments
  | [] => pure arguments
  | .assignment _ _ :: rest => arguments.withUnnamed position rest
  | shape :: rest => do
    let next ←
      match position, shape.text? with
      | 0, some extension => pure { arguments with extension }
      | 1, some path => pure { arguments with path }
      | position, text => do
        Warned.raise (if position < 2 && text.isNone then .nonStringArgument else .extraArgument)
        pure arguments
    next.withUnnamed (position + 1) rest

/-- The arguments with the one set that `key` names. -/
def Arguments.withValue (modulePath : List String) (arguments : Arguments) (key value : String) :
    Warned Arguments := do
  match key with
  | "extension" => return { arguments with extension := value }
  | "path" => return { arguments with path := value }
  | "before_read" => return { arguments with beforeRead := ← hook? value modulePath }
  | "after_read" => return { arguments with afterRead := ← hook? value modulePath }
  | _ =>
    Warned.raise .unknownArgument
    return arguments

/-- The arguments with the one set that an expression assigns, if it is an assignment. -/
def Arguments.withNamed (modulePath : List String) (arguments : Arguments) :
    ExpressionShape → Warned Arguments
  | .assignment none _ => do
    Warned.raise .unnamedArgument
    return arguments
  | .assignment (some _) none => do
    Warned.raise .nonStringArgument
    return arguments
  | .assignment (some key) (some value) => arguments.withValue modulePath (unraw key) value
  | _ => pure arguments

/-- The arguments of a marker attribute on the type `typeName`. -/
def argumentsOf (modulePath : List String) (typeName : String) (content : AttributeContent) :
    Warned Arguments := do
  let defaults := Arguments.default typeName
  let malformed : Warned Arguments := do
    Warned.raise .malformedArguments
    return defaults
  match content with
  | .none => return defaults
  | .value => malformed
  | .arguments tokens =>
    match argumentsOf? tokens with
    | none => malformed
    | some shapes =>
      shapes.foldlM (Arguments.withNamed modulePath) (← defaults.withUnnamed 0 shapes)

/-! ### Sites -/

/-- The predicates in force behind some attributes, where `outer` are in force before them. -/
def predicatesWith (outer : List String) (attributes : List Attribute) : Warned (List String) :=
  (attributes.filter (·.path.isIdentifier "cfg")).foldlM (fun predicates found => do
    match found.content with
    | .arguments tokens => return predicates ++ [tokens.print]
    | _ =>
      Warned.raise .malformedCfg
      return predicates) outer

/-- Where code stands: its file, its module and the predicates of the modules around it. -/
structure Place where
  file : FilePath
  modulePath : List String
  cfg : List String

/-- The site that a declared type is, when it has the marker attribute. -/
def siteOf? (place : Place) (declared : Container) : Warned (Option Site) := do
  match declared.attributes.find? isMarker with
  | none => return none
  | some marker =>
    let name := unraw declared.name
    let arguments ← argumentsOf place.modulePath name marker.content
    return some {
      name
      modulePath := place.modulePath
      sourceFile := place.file
      visibility := declared.visibility
      kind := declared.kind
      implGenerics := declared.generics.implText
      typeGenerics := declared.generics.typeText
      whereClause := declared.generics.whereText
      genericNames := declared.generics.names
      cfg := ← predicatesWith place.cfg declared.attributes
      arguments }

mutual

/-- The sites that an item holds. -/
def sitesOfItem (place : Place) : Item → Warned (List Site)
  | .container declared => do return (← siteOf? place declared).toList
  | .module _ _ none => pure []
  | .module attributes name (some items) => do
    let cfg ← predicatesWith place.cfg attributes
    sitesOfItems { place with modulePath := place.modulePath ++ [unraw name], cfg } items
  | .other => pure []

/-- The sites that items hold. -/
def sitesOfItems (place : Place) : List Item → Warned (List Site)
  | [] => pure []
  | item :: rest => do return (← sitesOfItem place item) ++ (← sitesOfItems place rest)

end

/-- The sites in a source file that defines the module `modulePath`. A file that does not parse has
none. -/
def sitesOf (file : FilePath) (modulePath : List String) (text : String) : Warned (List Site) := do
  match itemsOfFile? text with
  | some items => sitesOfItems ⟨file, modulePath, []⟩ items
  | none =>
    Warned.raise .unparsableSource
    return []

end ResourceAccessors.Declaration
