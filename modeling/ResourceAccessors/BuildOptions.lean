import ResourceAccessors.Config

/-!
# Build options

What a generation pass knows of the build it is part of.
-/

namespace ResourceAccessors

/-- The options of one generation pass. -/
structure BuildOptions where
  /-- Set for a build that only feeds an editor; accessors are then documented without a preview. -/
  isDesignTime : Bool
  /-- The folder of the crate. -/
  projectDir : FilePath
  /-- The front part of every resource identity; may be empty. -/
  rootNamespace : String
  deriving BEq, Inhabited

/-- The variables of an environment. -/
abbrev Environment := String → Option String

namespace BuildOptions

/-- The variable that asks for a design-time build. -/
def designTimeVariable : String :=
  "EMBEDRES_DESIGN_TIME_BUILD"

/-- The variable that names the front part of every resource identity. -/
def rootNamespaceVariable : String :=
  "EMBEDRES_ROOT_NAMESPACE"

/-- The variable that names the folder of the crate. -/
def manifestDirVariable : String :=
  "CARGO_MANIFEST_DIR"

/-- The variable that names the crate. -/
def packageNameVariable : String :=
  "CARGO_PKG_NAME"

/-- The variables whose changes call for a new generation. -/
def trackedVariables : List String :=
  [designTimeVariable, rootNamespaceVariable, packageNameVariable]

/-- The name of a crate as an identifier: a hyphen becomes an underscore. -/
def identifierOf (name : String) : String :=
  String.ofList (name.toList.map fun c => if c = '-' then '_' else c)

/-- Whether a text means yes, in any mix of capital and small letters. -/
def isTrue (text : String) : Bool :=
  (Text.trim text).toList.map Char.toLower == "true".toList

/-- The front part of every resource identity that an environment gives: a configured one that is not
blank, or the name of the crate. -/
def namespaceOf (environment : Environment) : String :=
  match (environment rootNamespaceVariable).filter (!Text.isBlankText ·) with
  | some configured => configured
  | none => ((environment packageNameVariable).map identifierOf).getD ""

/-- The options that an environment gives. -/
def ofEnvironment (environment : Environment) : Except Failure BuildOptions :=
  match (environment manifestDirVariable).filter (!·.isEmpty) with
  | some folder => .ok {
      isDesignTime := (environment designTimeVariable).any isTrue
      projectDir := ⟨folder⟩
      rootNamespace := namespaceOf environment }
  | none => .error (.missingEnvironment manifestDirVariable)

/-- The options with what a configuration sets in their place. -/
def withConfig (options : BuildOptions) (config : Config) : BuildOptions :=
  { options with rootNamespace := config.rootNamespace.getD options.rootNamespace }

end BuildOptions

end ResourceAccessors
