import ResourceAccessors.FilePath.Normal

/-!
# Declaration sites

A struct, an enum or a union that carries the marker attribute, with all that the generated code
repeats of it: how the type is named, for whom it is visible and under which conditions it exists.
-/

namespace ResourceAccessors.Declaration

/-- What kind of type is declared. -/
inductive Kind
  | struct
  | tupleStruct
  | unitStruct
  | enum
  | union
  deriving DecidableEq, Repr, Inhabited

/-- For whom a type is visible. -/
inductive Visibility
  /-- Everyone. -/
  | everywhere
  /-- The crate. -/
  | crate
  /-- A named module or one of its parents, as written. -/
  | restricted (tokens : String)
  /-- No visibility is written. -/
  | inherited
  deriving DecidableEq, Repr, Inhabited

/-- The extension of the resources of a type whose attribute names none. -/
def defaultExtension : String :=
  ".txt"

/-- The arguments of the marker attribute. A hook is a path that is valid from the crate root. -/
structure Arguments where
  extension : String
  path : String
  beforeRead : Option String
  afterRead : Option String
  deriving DecidableEq, Repr, Inhabited

/-- The arguments that hold for a type when its attribute gives none. -/
def Arguments.default (typeName : String) : Arguments where
  extension := defaultExtension
  path := typeName
  beforeRead := none
  afterRead := none

/-- A declared type with the marker attribute. -/
structure Site where
  /-- The simple name, without the sign of a raw identifier. -/
  name : String
  /-- The modules from the crate root; empty at the crate root. -/
  modulePath : List String
  sourceFile : FilePath
  visibility : Visibility
  kind : Kind
  /-- The parameters as they stand behind `impl`. -/
  implGenerics : String
  /-- The parameters as they stand behind the name of the type. -/
  typeGenerics : String
  /-- The `where` clause with a space in front, or nothing. -/
  whereClause : String
  /-- The names of the parameters, for display. -/
  genericNames : List String
  /-- The `cfg` predicates of the enclosing modules and of the type, outermost first. -/
  cfg : List String
  arguments : Arguments
  deriving BEq, Inhabited

namespace Site

/-- The name of the type with its modules and parameters, as in `queries::Queries<T>`. -/
def display (site : Site) : String :=
  let path := "::".intercalate (site.modulePath ++ [site.name])
  if site.genericNames.isEmpty then path
  else path ++ "<" ++ ",".intercalate site.genericNames ++ ">"

/-- The type as an `impl` block at the crate root names it. -/
def selfType (site : Site) : String :=
  "::".intercalate ("crate" :: site.modulePath ++ [site.name]) ++ site.typeGenerics

/-- The `cfg` attributes that the generated `impl` block repeats. -/
def cfgAttributes (site : Site) : List String :=
  site.cfg.map fun predicate => "#[cfg(" ++ predicate ++ ")]"

/-- The visibility of the accessors, with a space behind it. -/
def accessorVisibility (site : Site) : String :=
  match site.visibility with
  | .everywhere => "pub "
  | _ => "pub(crate) "

/-- Whether the crate root, where the generated code is included, can name the type. -/
def isReachable (site : Site) : Bool :=
  site.modulePath.isEmpty || site.visibility != .inherited

/-- The folder in which the type looks for its resources. A configured path with a slash in front
starts at the project folder, any other at the folder of the source file. -/
def searchPath (site : Site) (projectDir : FilePath) : FilePath :=
  let start := site.sourceFile.parent?.getD projectDir
  let found :=
    match site.arguments.path.toList with
    | '/' :: rest => projectDir.join ⟨String.ofList rest⟩
    | configured => start.join ⟨String.ofList configured⟩
  found.normal

end Site

end ResourceAccessors.Declaration
