import ResourceAccessors.Generation.State
import ResourceAccessors.Stored.Site

/-!
# Stored states

The stored form of what a generation pass leaves behind.
-/

namespace ResourceAccessors.Stored

open Generation

/-- The stored form of a candidate. -/
def ofCandidate (candidate : Resource.Candidate) : Json :=
  .object [("path", ofPath candidate.path), ("file_name", .string candidate.fileName),
    ("resource_name", .string candidate.resourceName),
    ("text", .ofOption .string candidate.text)]

/-- A candidate. -/
def candidate : Decoder Resource.Candidate := fun json =>
  match structureFields ["path", "file_name", "resource_name", "text"] json with
  | some [place, fileName, resourceName, content] => do
    return {
      path := ← path place
      fileName := ← text fileName
      resourceName := ← text resourceName
      text := ← optional text content }
  | _ => none

/-- The stored form of an accessor. -/
def ofProperty (property : Property) : Json :=
  .object [("property_name", .string property.name),
    ("candidate", ofCandidate property.candidate)]

/-- An accessor. -/
def property : Decoder Property := fun json =>
  match structureFields ["property_name", "candidate"] json with
  | some [name, chosen] => do return ⟨← text name, ← candidate chosen⟩
  | _ => none

/-- The stored form of a plan. -/
def ofPlan (plan : Plan) : Json :=
  .object [("site", ofSite plan.site), ("search_path", ofPath plan.searchPath),
    ("search_folder", .string plan.searchFolder),
    ("properties", .ofList ofProperty plan.properties),
    ("is_design_time_build", .bool plan.isDesignTime)]

/-- A plan. -/
def plan : Decoder Plan := fun json =>
  match structureFields
      ["site", "search_path", "search_folder", "properties", "is_design_time_build"] json with
  | some [declared, searchPath, searchFolder, properties, isDesignTime] => do
    return {
      site := ← site declared
      searchPath := ← path searchPath
      searchFolder := ← text searchFolder
      properties := ← list property properties
      isDesignTime := ← flag isDesignTime }
  | _ => none

/-- The stored form of build options. -/
def ofOptions (options : BuildOptions) : Json :=
  .object [("is_design_time_build", .bool options.isDesignTime),
    ("project_dir", ofPath options.projectDir),
    ("root_namespace", .string options.rootNamespace)]

/-- Build options. -/
def options : Decoder BuildOptions := fun json =>
  match structureFields ["is_design_time_build", "project_dir", "root_namespace"] json with
  | some [isDesignTime, projectDir, rootNamespace] => do
    return ⟨← flag isDesignTime, ← path projectDir, ← text rootNamespace⟩
  | _ => none

/-- The stored form of a project file. -/
def ofFile (file : Resource.File) : Json :=
  .object [("path", ofPath file.path), ("text", .ofOption .string file.text)]

/-- A project file. -/
def file : Decoder Resource.File := fun json =>
  match structureFields ["path", "text"] json with
  | some [place, content] => do return ⟨← path place, ← optional text content⟩
  | _ => none

/-- The stored form of the input of a plan. -/
def ofPlanInput (input : PlanInput) : Json :=
  .object [("site", ofSite input.site), ("options", ofOptions input.options),
    ("files", .ofList ofFile input.files)]

/-- The input of a plan. -/
def planInput : Decoder PlanInput := fun json =>
  match structureFields ["site", "options", "files"] json with
  | some [declared, given, files] => do
    return ⟨← site declared, ← options given, ← list file files⟩
  | _ => none

/-- The stored form of a source file. -/
def ofSource (source : SourceFile) : Json :=
  .object [("path", ofPath source.path), ("module_path", .ofStrings source.modulePath),
    ("text", .string source.text)]

/-- A source file. -/
def source : Decoder SourceFile := fun json =>
  match structureFields ["path", "module_path", "text"] json with
  | some [place, modulePath, content] => do
    return ⟨← path place, ← list text modulePath, ← text content⟩
  | _ => none

/-- The stored form of an embedded file. -/
def ofEmbedded (file : Render.EmbeddedFile) : Json :=
  .object [("resource_name", .string file.resourceName), ("path", ofPath file.path)]

/-- An embedded file. -/
def embedded : Decoder Render.EmbeddedFile := fun json =>
  match structureFields ["resource_name", "path"] json with
  | some [resourceName, place] => do return ⟨← text resourceName, ← path place⟩
  | _ => none

/-- The stored form of the input of the manifest. -/
def ofManifestInput (input : ManifestInput) : Json :=
  .object [("entries", .ofList ofEmbedded input.files), ("project_dir", ofPath input.projectDir),
    ("hint_names", .ofStrings input.artifactNames)]

/-- The input of the manifest. -/
def manifestInput : Decoder ManifestInput := fun json =>
  match structureFields ["entries", "project_dir", "hint_names"] json with
  | some [files, projectDir, artifactNames] => do
    return ⟨← list embedded files, ← path projectDir, ← list text artifactNames⟩
  | _ => none

/-- The stored form of an artifact. -/
def ofArtifact (artifact : Artifact) : Json :=
  .object [("hint_name", .string artifact.name), ("source", .string artifact.text)]

/-- An artifact. -/
def artifact : Decoder Artifact := fun json =>
  match structureFields ["hint_name", "source"] json with
  | some [name, content] => do return ⟨← text name, ← text content⟩
  | _ => none

/-- The stored form of a record. -/
def ofRecord {α β : Type} (encodeInput : α → Json) (encodeOutput : β → Json)
    (record : Record α β) : Json :=
  .object [("input", encodeInput record.input), ("output", encodeOutput record.output)]

/-- A record. -/
def record {α β : Type} (input : Decoder α) (output : Decoder β) : Decoder (Record α β) :=
  fun json =>
    match structureFields ["input", "output"] json with
    | some [given, computed] => do return ⟨← input given, ← output computed⟩
    | _ => none

/-- The stored form of a state. -/
def ofState (state : State) : Json :=
  .object [
    ("extraction", ofKeyed (ofRecord ofSource (.ofList ofSite)) state.extraction),
    ("combine", ofKeyed (ofRecord ofPlanInput ofPlan) state.plans),
    ("source_output", ofKeyed (ofRecord ofPlan .string) state.artifacts),
    ("manifest", ofKeyed (ofRecord ofManifestInput (.ofList ofArtifact)) state.manifest)]

/-- A state. -/
def state : Decoder State := fun json =>
  match structureFields ["extraction", "combine", "source_output", "manifest"] json with
  | some [extraction, plans, artifacts, manifest] => do
    return {
      extraction := ← keyed (record source (list site)) extraction
      plans := ← keyed (record planInput plan) plans
      artifacts := ← keyed (record plan text) artifacts
      manifest := ← keyed (record manifestInput (list artifact)) manifest }
  | _ => none

/-! ### States that can be stored -/

/-- The paths in a plan. -/
def planPaths (plan : Plan) : List FilePath :=
  plan.site.sourceFile :: plan.searchPath :: plan.properties.map (·.candidate.path)

/-- The paths in the input of a plan. -/
def planInputPaths (input : PlanInput) : List FilePath :=
  input.site.sourceFile :: input.options.projectDir :: input.files.map Resource.File.path

/-- The paths in the input of the manifest. -/
def manifestInputPaths (input : ManifestInput) : List FilePath :=
  input.projectDir :: input.files.map Render.EmbeddedFile.path

/-- The paths in the records of a step. -/
def recordPaths {α β : Type} (ofInput : α → List FilePath) (ofOutput : β → List FilePath)
    (records : Keyed (Record α β)) : List FilePath :=
  records.values.flatMap fun record => ofInput record.input ++ ofOutput record.output

/-- The paths in a state. -/
def statePaths (state : State) : List FilePath :=
  recordPaths (fun source => [source.path]) (List.map Declaration.Site.sourceFile) state.extraction ++
    recordPaths planInputPaths planPaths state.plans ++
    recordPaths planPaths (fun _ => []) state.artifacts ++
    recordPaths manifestInputPaths (fun _ => []) state.manifest

/-- Whether a state can be stored. A path that is not text cannot. -/
def isStorable (state : State) : Bool :=
  (statePaths state).all fun path => FilePath.isTextName path.text

end ResourceAccessors.Stored
