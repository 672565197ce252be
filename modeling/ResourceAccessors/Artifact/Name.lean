/-!
# Artifacts

A generated file, and the name of the one generated for a type. The name of the type is shown with
its modules; the separators of modules become dots and the brackets of parameters underscores.
-/

namespace ResourceAccessors

/-- A generated file: its name in the artifact folder and its text. -/
structure Artifact where
  name : String
  text : String
  deriving DecidableEq, Repr, Inhabited

namespace Artifact

/-- What the name of every artifact ends in. -/
def suffix : String :=
  ".g.rs"

/-- The name of the artifact folder below the output folder. -/
def folder : String :=
  "embedres"

/-- The artifact that declares the manifest of the resources. -/
def manifestName : String :=
  "_embedded_resource_reader.g.rs"

/-- The artifact that includes every other one. -/
def indexName : String :=
  "embedded_resources.g.rs"

/-- Every double colon as a dot, from the left. -/
def joinModules : List Char → List Char
  | [] => []
  | ':' :: ':' :: rest => '.' :: joinModules rest
  | c :: rest => c :: joinModules rest

/-- A bracket as an underscore. -/
def flattenBracket (c : Char) : Char :=
  if c = '<' ∨ c = '>' then '_' else c

/-- The name of the artifact for the type shown as `display`, without the suffix. -/
def stemFor (display : String) : String :=
  String.ofList ((joinModules display.toList).map flattenBracket)

/-- The name of the artifact for the type shown as `display`. -/
def nameFor (display : String) : String :=
  stemFor display ++ suffix

/-- The name of the `count`-th artifact for types with one stem. -/
def numberedName (stem : String) (count : Nat) : String :=
  stem ++ "." ++ toString count ++ suffix

end Artifact

end ResourceAccessors
