import ResourceAccessors.Proofs.Declaration.SearchPath
import ResourceAccessors.Proofs.Generation.Embedding
import ResourceAccessors.Proofs.Generation.Shown
import ResourceAccessors.Proofs.Resource.Selection

/-!
# Moved projects

What a pass computes from the paths of a project that lies in one folder and is moved as a whole: the
selected files are the moved ones, plans are the moved ones, and what is shown of them stays the same.
-/

namespace ResourceAccessors

open Render (EmbeddedFile)

/-! ### Moved values -/

/-- The site of a moved source file. -/
def Declaration.Site.moved (site : Site) (source target : FilePath) : Site :=
  site.inFile (site.sourceFile.moved source target)

namespace Resource

/-- The file of a moved project. -/
def File.moved (file : File) (source target : FilePath) : File :=
  { file with path := file.path.moved source target }

/-- The candidate of a moved project. -/
def Candidate.moved (candidate : Candidate) (source target : FilePath) : Candidate :=
  { candidate with path := candidate.path.moved source target }

end Resource

/-- The embedded file of a moved project. -/
def Render.EmbeddedFile.moved (file : EmbeddedFile) (source target : FilePath) : EmbeddedFile :=
  { file with path := file.path.moved source target }

namespace Generation

/-- The source file of a moved project. -/
def SourceFile.moved (file : SourceFile) (source target : FilePath) : SourceFile :=
  { file with path := file.path.moved source target }

/-- The accessor of a moved project. -/
def Property.moved (property : Property) (source target : FilePath) : Property :=
  { property with candidate := property.candidate.moved source target }

/-- The plan of a moved project. -/
def Plan.moved (plan : Plan) (source target : FilePath) : Plan :=
  { plan with
    site := plan.site.moved source target
    searchPath := plan.searchPath.moved source target
    properties := plan.properties.map (·.moved source target) }

end Generation

section Moved

variable {source target : FilePath} (sourceAnchored : source.IsAnchored)
  (targetAnchored : target.IsAnchored)

include sourceAnchored targetAnchored

/-! ### What is told of paths -/

/-- Identities stay the same. -/
theorem Resource.identity_moved {path : FilePath} (liesBelow : path.LiesBelow source)
    (rootNamespace : String) : identity (path.moved source target) target rootNamespace =
      identity path source rootNamespace := by
  obtain ⟨steps, seen, movedSeen⟩ := FilePath.exists_relativeTo?_moved sourceAnchored targetAnchored
    (liesBelow.isWithin sourceAnchored)
  have movedNormal := (liesBelow.moved sourceAnchored targetAnchored).normal
  simp only [identity, liesBelow.normal, movedNormal, sourceAnchored.normal, targetAnchored.normal,
    seen, movedSeen, Option.getD_some]

/-- Search paths are documented in the same way. -/
theorem Generation.searchFolder_moved {path : FilePath} (isWithin : path.IsWithin source) :
    searchFolder (path.moved source target) target = searchFolder path source := by
  obtain ⟨steps, seen, movedSeen⟩ := FilePath.exists_relativeTo?_moved sourceAnchored targetAnchored
    isWithin
  cases steps <;> simp only [searchFolder, seen, movedSeen]

/-- Embedded files are included in the same way. -/
theorem Render.includeSource_moved {path : FilePath} (liesBelow : path.LiesBelow source) :
    includeSource (path.moved source target) target = includeSource path source := by
  obtain ⟨steps, seen, movedSeen⟩ := FilePath.exists_relativeTo?_moved sourceAnchored targetAnchored
    (liesBelow.isWithin sourceAnchored)
  simp only [includeSource, seen, movedSeen]

/-! ### Selected files -/

namespace Resource

/-- A file of the moved project gives the moved candidate. -/
theorem ofFile_moved {options : BuildOptions} (folder : options.projectDir = source) {file : File}
    (liesBelow : file.path.LiesBelow source) :
    Candidate.ofFile { options with projectDir := target } (file.moved source target) =
      (Candidate.ofFile options file).moved source target := by
  have name : (file.moved source target).fileName = file.fileName := by
    rw [File.fileName, File.fileName, File.moved,
      FilePath.textName?_moved sourceAnchored targetAnchored liesBelow]
  have identities := identity_moved sourceAnchored targetAnchored liesBelow options.rootNamespace
  rw [Candidate.ofFile, Candidate.ofFile, Candidate.moved, name, folder, ← identities]
  rfl

/-- Moved files match moved search paths. -/
theorem matchesSearch_moved {file : File} (liesBelow : file.path.LiesBelow source)
    {searchPath : FilePath} (isWithin : searchPath.IsWithin source) (extension : String) :
    (file.moved source target).matchesSearch (searchPath.moved source target) extension =
      file.matchesSearch searchPath extension := by
  have name : (file.moved source target).fileName = file.fileName := by
    rw [File.fileName, File.fileName, File.moved,
      FilePath.textName?_moved sourceAnchored targetAnchored liesBelow]
  rw [File.matchesSearch, File.matchesSearch, name, File.moved,
    FilePath.parent?_moved_beq sourceAnchored targetAnchored liesBelow isWithin]

/-- The moved files are selected, in the same order. -/
theorem select_moved {options : BuildOptions} (folder : options.projectDir = source)
    {files : List File} (below : ∀ file ∈ files, file.path.LiesBelow source)
    {searchPath : FilePath} (isWithin : searchPath.IsWithin source) (extension : String) :
    select (searchPath.moved source target) extension (files.map (·.moved source target))
        { options with projectDir := target } =
      (select searchPath extension files options).map (·.moved source target) := by
  have matching : (files.map (·.moved source target)).filter
      (File.matchesSearch (searchPath.moved source target) extension) =
        (files.filter (File.matchesSearch searchPath extension)).map (·.moved source target) := by
    rw [List.filter_map]
    congr 1
    refine List.filter_congr fun file mem => ?_
    exact matchesSearch_moved sourceAnchored targetAnchored (below file mem) isWithin extension
  have candidates : ((files.filter (File.matchesSearch searchPath extension)).map
      (·.moved source target)).map (Candidate.ofFile { options with projectDir := target }) =
        ((files.filter (File.matchesSearch searchPath extension)).map
          (Candidate.ofFile options)).map (·.moved source target) := by
    rw [List.map_map, List.map_map]
    refine List.map_congr_left fun file mem => ?_
    exact ofFile_moved sourceAnchored targetAnchored folder
      (below file (List.mem_filter.1 mem).1)
  have inside : ∀ candidate ∈ (files.filter (File.matchesSearch searchPath extension)).map
      (Candidate.ofFile options), candidate.path.IsWithin source := by
    intro candidate mem
    obtain ⟨file, fileMem, rfl⟩ := List.mem_map.1 mem
    exact (below file (List.mem_filter.1 fileMem).1).isWithin sourceAnchored
  rw [select, select, matching, candidates]
  refine (List.map_mergeSort fun left leftMem right rightMem => ?_).symm
  rw [Candidate.atMost, Candidate.atMost, Candidate.moved, Candidate.moved,
    FilePath.compare_moved sourceAnchored targetAnchored (inside left leftMem)
      (inside right rightMem)]

end Resource

/-! ### Plans -/

namespace Generation

/-- The files in a folder are moved with it. -/
theorem filesIn_moved {files : List Resource.File}
    (below : ∀ file ∈ files, file.path.LiesBelow source) {folder : FilePath}
    (isWithin : folder.IsWithin source) :
    filesIn (folder.moved source target) (files.map (·.moved source target)) =
      (filesIn folder files).map (·.moved source target) := by
  rw [filesIn_eq, filesIn_eq, List.filter_map]
  congr 1
  refine List.filter_congr fun file mem => ?_
  exact FilePath.parent?_moved_beq sourceAnchored targetAnchored (below file mem) isWithin

/-- The plan for a moved declaration is the moved plan. -/
theorem PlanInput.plan_moved (input : PlanInput) (folder : input.options.projectDir = source)
    (liesBelow : input.site.sourceFile.LiesBelow source) (stays : input.site.StaysInside source)
    (below : ∀ file ∈ input.files, file.path.LiesBelow source) :
    PlanInput.plan ⟨input.site.moved source target, { input.options with projectDir := target },
        input.files.map (·.moved source target)⟩ = input.plan.moved source target := by
  obtain ⟨isWithin, searchPath⟩ := stays.searchPath_moved liesBelow sourceAnchored targetAnchored
  have selected := Resource.select_moved sourceAnchored targetAnchored folder below isWithin
    input.site.arguments.extension
  have documented := searchFolder_moved sourceAnchored targetAnchored isWithin
  have properties : ∀ candidates : List Resource.Candidate,
      (candidates.map (·.moved source target)).map (Property.ofCandidate input.site.name) =
        (candidates.map (Property.ofCandidate input.site.name)).map (·.moved source target) := by
    intro candidates
    rw [List.map_map, List.map_map]
    refine List.map_congr_left fun candidate _ => ?_
    simp only [Function.comp_apply, Property.ofCandidate, Property.moved, Resource.Candidate.moved]
  have unmoved : (input.site.moved source target).arguments = input.site.arguments := rfl
  have name : (input.site.moved source target).name = input.site.name := rfl
  rw [← Declaration.Site.moved] at searchPath
  simp only [PlanInput.plan, Plan.moved, searchPath, unmoved, name, selected, documented, properties,
    folder]

/-! ### Embedded files -/

/-- Moving files keeps identities, equality and order. -/
theorem keepsPlaces_moved {files : List EmbeddedFile}
    (below : ∀ file ∈ files, file.path.LiesBelow source) :
    KeepsPlaces (·.moved source target) files where
  names _ := rfl
  equal left leftMem right rightMem := by
    have byFields : ∀ one other : EmbeddedFile, (one == other) =
        (one.resourceName == other.resourceName && one.path == other.path) := fun _ _ => rfl
    have paths := FilePath.moved_beq_moved sourceAnchored targetAnchored
      ((below left leftMem).isWithin sourceAnchored)
      ((below right rightMem).isWithin sourceAnchored)
    rw [byFields, byFields, ← paths]
    rfl
  order left leftMem right rightMem := by
    rw [embeddedAtMost, embeddedAtMost, EmbeddedFile.moved, EmbeddedFile.moved,
      FilePath.compare_moved sourceAnchored targetAnchored
        ((below left leftMem).isWithin sourceAnchored)
        ((below right rightMem).isWithin sourceAnchored)]

/-- A configured file is embedded under the same identity. -/
theorem embeddedAt_moved {options : BuildOptions} (folder : options.projectDir = source)
    {path : FilePath} (liesBelow : path.LiesBelow source) :
    embeddedAt { options with projectDir := target } (path.moved source target) =
      (embeddedAt options path).moved source target := by
  have identities := Resource.identity_moved sourceAnchored targetAnchored liesBelow
    options.rootNamespace
  rw [embeddedAt, embeddedAt, EmbeddedFile.moved, folder, ← identities]

/-- The manifest of moved files has the same text. -/
theorem manifest_moved {files : List EmbeddedFile}
    (below : ∀ file ∈ files, file.path.LiesBelow source) :
    Render.manifest (files.map (·.moved source target)) target = Render.manifest files source := by
  have lines : (files.map (·.moved source target)).flatMap (Render.embeddedLines target) =
      files.flatMap (Render.embeddedLines source) := by
    rw [List.flatMap_map, List.flatMap_def, List.flatMap_def]
    refine congrArg _ (List.map_congr_left fun file mem => ?_)
    have included := Render.includeSource_moved sourceAnchored targetAnchored (below file mem)
    simp only [Render.embeddedLines, EmbeddedFile.moved, included]
  rw [Render.manifest, Render.manifest, Render.manifestLines, Render.manifestLines, lines,
    List.length_map]

end Generation

end Moved

namespace Generation

/-! ### What is shown of moved plans -/

/-- A moved plan shows the same. -/
theorem changes_moved (plan : Plan) (source target : FilePath) :
    Plan.Changes (·.moved source target) plan (plan.moved source target) where
  site := rfl
  folder := rfl
  properties := rfl
  name _ := rfl
  fileName _ := rfl
  resourceName _ := rfl

/-- Moved plans are given the same artifacts. -/
theorem map_accessors_moved (plans : List Plan) (source target : FilePath) :
    (plans.map (·.moved source target)).map Render.accessors = plans.map Render.accessors := by
  rw [List.map_map]
  apply List.map_congr_left
  intro plan _
  rw [Function.comp_apply]
  exact (changes_moved plan source target).accessors_eq fun _ _ => rfl

/-- Moved plans ask for the same names. -/
theorem map_artifactRequest_moved (plans : List Plan) (source target : FilePath) :
    (plans.map (·.moved source target)).map artifactRequest = plans.map artifactRequest := by
  rw [List.map_map]
  rfl

/-- Moved plans have the same problems. -/
theorem collect_moved (plans : List Plan) (files : List EmbeddedFile) (source target : FilePath) :
    Diagnostic.collect (plans.map (·.moved source target)) (files.map (·.moved source target)) =
      Diagnostic.collect plans files := by
  have names : (files.map (·.moved source target)).map EmbeddedFile.resourceName =
      files.map EmbeddedFile.resourceName := by
    rw [List.map_map]
    rfl
  have each : ∀ embedded plan, Diagnostic.ofPlan embedded (Plan.moved plan source target) =
      Diagnostic.ofPlan embedded plan :=
    fun embedded plan => (changes_moved plan source target).ofPlan_eq embedded fun _ _ _ => rfl
  simp only [Diagnostic.collect, names, List.flatMap_map, each]

end Generation

end ResourceAccessors
