import ResourceAccessors.Artifact.Name
import ResourceAccessors.Generation.Plan
import ResourceAccessors.Generation.Step
import ResourceAccessors.Render.Manifest

/-!
# The state between passes

What a generation pass reads, and what it leaves behind for the next one: the last inputs and
outputs of each step.
-/

namespace ResourceAccessors.Generation

/-- A source file of the crate. -/
structure SourceFile where
  path : FilePath
  /-- The module that the file defines. -/
  modulePath : List String
  text : String
  deriving BEq, Inhabited

/-- All that a generation pass reads. -/
structure Input where
  options : BuildOptions
  sources : List SourceFile
  files : List Resource.File
  /-- The files to embed; nothing for every file that a declaration selects. -/
  embedded : Option (List FilePath)
  deriving Inhabited

/-- The embedded files, the folder of the crate, and the artifacts that the index includes. -/
structure ManifestInput where
  files : List Render.EmbeddedFile
  projectDir : FilePath
  artifactNames : List String
  deriving BEq, Inhabited

/-- The last inputs and outputs of the four steps. -/
structure State where
  extraction : Keyed (Record SourceFile (List Declaration.Site))
  plans : Keyed (Record PlanInput Plan)
  artifacts : Keyed (Record Plan String)
  manifest : Keyed (Record ManifestInput (List Artifact))
  deriving BEq, Inhabited

/-- The state before the first pass. -/
def State.empty : State :=
  ⟨.empty, .empty, .empty, .empty⟩

end ResourceAccessors.Generation
