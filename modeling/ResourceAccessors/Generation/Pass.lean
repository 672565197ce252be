import ResourceAccessors.Declaration.Extraction
import ResourceAccessors.Generation.Claim
import ResourceAccessors.Generation.Diagnostic
import ResourceAccessors.Generation.Embedding
import ResourceAccessors.Render.Accessors
import ResourceAccessors.Resource.Folders

/-!
# Generation passes

A pass runs four steps one after the other: it finds the declarations of each source file, joins each
declaration with its resources, writes an artifact for each plan, and writes the manifest with the
index. A pass that is cancelled gives no new state.
-/

namespace ResourceAccessors.Generation

/-- The name of the only output of the last step. -/
def manifestKey : String :=
  "Manifest"

/-- The reasons for the outputs of each step. -/
structure Tracked where
  extraction : Keyed Reason
  plans : Keyed Reason
  artifacts : Keyed Reason
  manifest : Keyed Reason
  deriving Inhabited

/-- What a pass gives. -/
structure Outcome where
  /-- The artifacts of the types in the order of their names, then the manifest and the index. -/
  artifacts : List Artifact
  diagnostics : List Diagnostic
  tracked : Tracked
  /-- Every folder in which a declaration looks for resources. -/
  searchPaths : List FilePath
  embedded : List FilePath
  state : State
  deriving Inhabited

/-! ### The inputs of the steps -/

/-- The declarations of a source file. -/
def SourceFile.sites (source : SourceFile) : List Declaration.Site :=
  (Declaration.sitesOf source.path source.modulePath source.text).value

/-- The source files, each under its path. -/
def extractionItems (sources : List SourceFile) : List (String × SourceFile) :=
  sources.map fun source => (slashed source.path, source)

/-- The files that lie directly in a folder. -/
def filesIn (folder : FilePath) (files : List Resource.File) : List Resource.File :=
  Resource.filesAt folder (Resource.byFolder files)

/-- What the plan of a declaration is made from. -/
def planInput (input : Input) (site : Declaration.Site) : PlanInput :=
  ⟨site, input.options, filesIn (site.searchPath input.options.projectDir) input.files⟩

/-- The key of a declaration: its file, its name and its conditions. -/
def siteKey (site : Declaration.Site) : String :=
  slashed site.sourceFile ++ "#" ++ site.display ++ "".intercalate site.cfgAttributes

/-- The keys that a declaration asks for. -/
def siteRequest (site : Declaration.Site) : String × (Nat → String) :=
  let base := siteKey site
  (base, fun count => base ++ "#" ++ toString count)

/-- The declarations, each under a key of its own. -/
def planItems (input : Input) (sites : List Declaration.Site) : List (String × PlanInput) :=
  (claimAll [] (sites.map siteRequest)).zip (sites.map (planInput input))

/-- The names that an artifact may have. -/
def artifactRequest (plan : Plan) : String × (Nat → String) :=
  let display := plan.site.display
  (Artifact.nameFor display, Artifact.numberedName (Artifact.stemFor display))

/-- The plans, each under the name of its artifact. -/
def artifactItems (plans : List Plan) : List (String × Plan) :=
  (claimAll [] (plans.map artifactRequest)).zip plans

/-- The manifest and the index. -/
def ManifestInput.artifacts (input : ManifestInput) : List Artifact :=
  [⟨Artifact.manifestName, Render.manifest input.files input.projectDir⟩,
    ⟨Artifact.indexName, Render.index input.artifactNames⟩]

/-! ### The pass -/

/-- The outputs of a step in the order of their keys. -/
def outputs {α β : Type} (records : Keyed (Record α β)) : List β :=
  records.values.map Record.output

/-- One pass that starts from the state `previous`. -/
def pass (previous : State) (input : Input) (token : Cancellation) :
    Except Failure (Outcome × Cancellation) := do
  let (extraction, token) ←
    Step.run SourceFile.sites previous.extraction (extractionItems input.sources) token
  let sites := (outputs extraction.records).flatten
  let (planned, token) ←
    Step.run PlanInput.plan previous.plans (planItems input sites) token
  let plans := outputs planned.records
  let (written, token) ←
    Step.run Render.accessors previous.artifacts (artifactItems plans) token
  let embedded := embeddedFiles input plans
  let manifestInput : ManifestInput :=
    ⟨embedded, input.options.projectDir, written.records.keys⟩
  let (manifest, token) ←
    Step.run ManifestInput.artifacts previous.manifest [(manifestKey, manifestInput)] token
  let artifacts := written.records.entries.map fun (name, record) => ⟨name, record.output⟩
  let outcome : Outcome := {
    artifacts := artifacts ++ (outputs manifest.records).flatten
    diagnostics := Diagnostic.collect plans embedded
    tracked := ⟨extraction.reasons, planned.reasons, written.reasons, manifest.reasons⟩
    searchPaths := FilePath.ascending (sites.map (·.searchPath input.options.projectDir))
    embedded := embedded.map Render.EmbeddedFile.path
    state := ⟨extraction.records, planned.records, written.records, manifest.records⟩ }
  return (outcome, token)

end ResourceAccessors.Generation
