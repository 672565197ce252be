import ResourceAccessors.Accessor.Name
import ResourceAccessors.Declaration.Site
import ResourceAccessors.Resource.Selection

/-!
# Generation plans

A declaration joined with its resources: which accessors its artifact defines, and what the
documentation says of the folder they come from.
-/

namespace ResourceAccessors.Generation

/-- An accessor with the resource it reads. -/
structure Property where
  name : String
  candidate : Resource.Candidate
  deriving BEq, Inhabited

/-- What is generated for one declaration. -/
structure Plan where
  site : Declaration.Site
  searchPath : FilePath
  /-- The search path as it is documented. -/
  searchFolder : String
  properties : List Property
  isDesignTime : Bool
  deriving BEq, Inhabited

/-- The declaration, the options, and the files of the declaration's folder. -/
structure PlanInput where
  site : Declaration.Site
  options : BuildOptions
  files : List Resource.File
  deriving BEq, Inhabited

/-- The text that is shown for a path, with slashes for backslashes. -/
def slashed (path : FilePath) : String :=
  String.ofList (path.shown.toList.map fun c => if c = '\\' then '/' else c)

/-- The search path as it is documented: seen from the project folder where it lies there. -/
def searchFolder (searchPath projectDir : FilePath) : String :=
  match searchPath.relativeTo? projectDir with
  | some [] => "."
  | some relative => slashed (FilePath.ofComponents relative)
  | none => slashed searchPath

/-- The accessor for a candidate. -/
def Property.ofCandidate (typeName : String) (candidate : Resource.Candidate) : Property :=
  ⟨Accessor.name candidate.fileName typeName, candidate⟩

/-- The plan for a declaration. -/
def PlanInput.plan (input : PlanInput) : Plan :=
  let searchPath := input.site.searchPath input.options.projectDir
  let candidates :=
    Resource.select searchPath input.site.arguments.extension input.files input.options
  { site := input.site
    searchPath := searchPath
    searchFolder := searchFolder searchPath input.options.projectDir
    properties := candidates.map (Property.ofCandidate input.site.name)
    isDesignTime := input.options.isDesignTime }

end ResourceAccessors.Generation
