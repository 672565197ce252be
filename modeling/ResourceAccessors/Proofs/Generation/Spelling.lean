import ResourceAccessors.Proofs.Declaration.SearchPath
import ResourceAccessors.Proofs.Generation.Embedding
import ResourceAccessors.Proofs.Generation.Shown
import ResourceAccessors.Proofs.Generation.Step
import ResourceAccessors.Proofs.Resource.Selection

/-!
# A pass does not see spellings

What the steps of a pass compute from paths is the same for every spelling of them, except where a
path is handed on as it is written.
-/

namespace ResourceAccessors

open Spelled

/-! ### Declarations -/

/-- The search path of a site does not depend on how paths are written. -/
theorem Declaration.Site.searchPath_plain (site : Site) (projectDir : FilePath) :
    (plain site).searchPath projectDir.plain = site.searchPath projectDir := by
  simp only [searchPath, plain_site, FilePath.parent?_plain]
  split
  · exact FilePath.normal_join_plain projectDir _
  · cases site.sourceFile.parent? with
    | none => exact FilePath.normal_join_plain projectDir _
    | some folder => rfl

/-- The search path of a site is the same from the normal form of the project folder. -/
theorem Declaration.Site.searchPath_normal (site : Site) (projectDir : FilePath) :
    site.searchPath projectDir.normal = site.searchPath projectDir := by
  simp only [searchPath]
  split
  · exact FilePath.normal_join_normal projectDir _
  · cases site.sourceFile.parent? with
    | none => exact FilePath.normal_join_normal projectDir _
    | some folder => rfl

namespace Resource

/-- The name of a file depends on the components of its path only. -/
theorem fileName_plain (file : File) : (plain file).fileName = file.fileName := by
  simp [File.fileName]

/-- An identity depends on the components of the two paths only. -/
@[simp]
theorem identity_plain (path projectDir : FilePath) (rootNamespace : String) :
    identity path.plain projectDir.plain rootNamespace =
      identity path projectDir rootNamespace := by
  simp [identity]

/-- The candidate of a file that is spelled plainly is spelled plainly. -/
theorem ofFile_plain (options : BuildOptions) (file : File) :
    Candidate.ofFile (plain options) (plain file) = plain (Candidate.ofFile options file) := by
  have sameName := fileName_plain file
  simp only [plain_file] at sameName
  simp [Candidate.ofFile, sameName]

/-- Candidates compare by the components of their paths only. -/
theorem atMost_plain (left right : Candidate) :
    Candidate.atMost (plain left) (plain right) = Candidate.atMost left right := by
  simp [Candidate.atMost]

/-- Selecting from files in another spelling gives the same candidates in that spelling. -/
theorem select_plain (searchPath : FilePath) (extension : String) (files : List File)
    (options : BuildOptions) :
    select searchPath extension (files.map plain) (plain options) =
      (select searchPath extension files options).map plain := by
  have matching : File.matchesSearch searchPath extension ∘ plain =
      File.matchesSearch searchPath extension := by
    funext file
    have sameName := fileName_plain file
    simp only [plain_file] at sameName
    simp [File.matchesSearch, sameName]
  have candidates : Candidate.ofFile (plain options) ∘ plain =
      plain ∘ Candidate.ofFile options := by
    funext file
    exact ofFile_plain options file
  rw [select, select, List.filter_map, matching, List.map_map, candidates, ← List.map_map]
  exact (List.map_mergeSort fun left _ right _ => (atMost_plain left right).symm).symm

end Resource

/-! ### Plans -/

namespace Generation

/-- Every site of a source file records this file. -/
theorem sourceFile_of_mem_sites {source : SourceFile} {site : Declaration.Site}
    (mem : site ∈ source.sites) : site.sourceFile = source.path := by
  rw [SourceFile.sites] at mem
  exact Declaration.sourceFile_of_mem_sitesOf mem

/-- Source files that agree hold sites that agree. -/
theorem respects_sites : Step.Respects SourceFile.sites := by
  rintro ⟨leftPath, leftModule, leftText⟩ ⟨rightPath, rightModule, rightText⟩ same
  obtain ⟨samePath, rfl, rfl⟩ := SourceFile.mk.inj same
  simp only [SourceFile.sites, plain_list]
  rw [Declaration.value_sitesOf rightPath leftPath, List.map_map]
  refine List.map_congr_left fun site mem => ?_
  have recorded : site.sourceFile = rightPath := Declaration.sourceFile_of_mem_sitesOf mem
  simp only [Function.comp_apply, Declaration.Site.inFile, plain_site, recorded]
  rw [samePath]

/-- The documented search path depends on no spelling of the project folder. -/
theorem searchFolder_plain (searchPath projectDir : FilePath) :
    searchFolder searchPath projectDir.plain = searchFolder searchPath projectDir := by
  simp [searchFolder]

/-- Inputs that agree are given plans that agree. -/
theorem respects_plan : Step.Respects PlanInput.plan := by
  rintro ⟨leftSite, leftOptions, leftFiles⟩ ⟨rightSite, rightOptions, rightFiles⟩ same
  obtain ⟨sameSite, sameOptions, sameFiles⟩ := PlanInput.mk.inj same
  have searchPath : leftSite.searchPath leftOptions.projectDir =
      rightSite.searchPath rightOptions.projectDir := by
    have sameDir : leftOptions.projectDir.plain = rightOptions.projectDir.plain :=
      congrArg BuildOptions.projectDir sameOptions
    rw [← leftSite.searchPath_plain, ← rightSite.searchPath_plain, sameSite, sameDir]
  have arguments : leftSite.arguments = rightSite.arguments :=
    eq_of_plain (fun _ => rfl) sameSite
  have name : leftSite.name = rightSite.name := eq_of_plain (fun _ => rfl) sameSite
  have isDesignTime : leftOptions.isDesignTime = rightOptions.isDesignTime :=
    eq_of_plain (fun _ => rfl) sameOptions
  have candidates : ∀ searchPath extension,
      (Resource.select searchPath extension leftFiles leftOptions).map plain =
        (Resource.select searchPath extension rightFiles rightOptions).map plain := by
    intro searchPath extension
    rw [← Resource.select_plain, ← Resource.select_plain, sameFiles, sameOptions]
  have properties : ∀ typeName (candidates : List Resource.Candidate),
      (candidates.map (Property.ofCandidate typeName)).map plain =
        (candidates.map plain).map (Property.ofCandidate typeName) := by
    intro typeName candidates
    simp [Property.ofCandidate]
  have folder := searchFolder_plain (rightSite.searchPath rightOptions.projectDir)
  rw [plain_plan, plain_plan]
  simp only [PlanInput.plan, Plan.mk.injEq]
  refine ⟨sameSite, by rw [searchPath], ?_, ?_, isDesignTime⟩
  · rw [searchPath, ← folder leftOptions.projectDir, ← folder rightOptions.projectDir]
    exact congrArg _ (congrArg BuildOptions.projectDir sameOptions)
  · rw [properties, properties, name, arguments, searchPath, candidates]

/-! ### Artifacts and diagnostics -/

/-- Another spelling of the paths changes nothing that is shown of a plan. -/
theorem changes_plain (plan : Plan) : Plan.Changes plain plan (plain plan) where
  site := rfl
  folder := rfl
  properties := rfl
  name _ := rfl
  fileName _ := rfl
  resourceName _ := rfl

/-- The artifact of a plan does not depend on how its paths are written. -/
theorem accessors_plain (plan : Plan) : Render.accessors (plain plan) = Render.accessors plan :=
  (changes_plain plan).accessors_eq fun _ _ => rfl

/-- Plans that agree are given the same artifact. -/
theorem accessors_of_plain {left right : Plan} (same : plain left = plain right) :
    Render.accessors left = Render.accessors right := by
  rw [← accessors_plain left, same, accessors_plain]

/-- The accessors depend on the components of paths only. -/
theorem respects_accessors : Step.Respects Render.accessors :=
  fun _ _ same => congrArg plain (accessors_of_plain same)

/-- The problems of a plan do not depend on how its paths are written. -/
theorem ofPlan_plain (embedded : List String) (plan : Plan) :
    Diagnostic.ofPlan embedded (plain plan) = Diagnostic.ofPlan embedded plan :=
  (changes_plain plan).ofPlan_eq embedded fun _ _ _ => rfl

/-- Plans that agree have the same problems. -/
theorem collect_of_plain {left right : List Plan} (same : left.map plain = right.map plain)
    (embedded : List Render.EmbeddedFile) :
    Diagnostic.collect left embedded = Diagnostic.collect right embedded := by
  have problems := map_eq_of_plain (fun one other agree =>
    eq_of_plain (ofPlan_plain (embedded.map Render.EmbeddedFile.resourceName)) agree) same
  rw [Diagnostic.collect, Diagnostic.collect, List.flatMap_def, List.flatMap_def, problems]

/-! ### Embedded files -/

/-- Another spelling of the paths keeps identities, equality and order. -/
theorem keepsPlaces_plain (files : List Render.EmbeddedFile) : KeepsPlaces plain files where
  names _ := rfl
  equal left _ right _ := by
    rw [Bool.eq_iff_iff, beq_iff, beq_iff]
    simp
  order left _ right _ := by simp [embeddedAtMost]

/-- Plans that agree lead to embedded files that agree. -/
theorem embeddedFiles_of_plain (input : Input) {left right : List Plan}
    (same : left.map plain = right.map plain) :
    (embeddedFiles input left).map plain = (embeddedFiles input right).map plain := by
  have ofPlan : ∀ plan : Plan, (plain plan).properties.map (plain ∘ embeddedOf) =
      plan.properties.map (plain ∘ embeddedOf) := by
    intro plan
    simp [embeddedOf]
  have wanted : ((left.flatMap Plan.properties).map embeddedOf).map plain =
      ((right.flatMap Plan.properties).map embeddedOf).map plain := by
    have blind : ∀ one other : Plan, plain one = plain other →
        one.properties.map (plain ∘ embeddedOf) = other.properties.map (plain ∘ embeddedOf) := by
      intro one other agree
      rw [← ofPlan one, agree, ofPlan]
    have each := map_eq_of_plain blind same
    rw [List.map_map, List.map_map, List.map_flatMap, List.map_flatMap, List.flatMap_def,
      List.flatMap_def, each]
  have same : (wantedFiles input left).map plain = (wantedFiles input right).map plain := by
    rw [wantedFiles, wantedFiles]
    cases input.embedded with
    | some paths => rfl
    | none => exact wanted
  rw [embeddedFiles_eq, embeddedFiles_eq, ← (keepsPlaces_plain _).firstOfEachIdentity_mergeSort,
    ← (keepsPlaces_plain _).firstOfEachIdentity_mergeSort, same]

/-! ### The manifest -/

/-- The manifest does not depend on how the project folder is written. -/
theorem manifest_plain (files : List Render.EmbeddedFile) (projectDir : FilePath) :
    Render.manifest files projectDir.plain = Render.manifest files projectDir := by
  have each : Render.embeddedLines projectDir.plain = Render.embeddedLines projectDir := by
    funext file
    simp only [Render.embeddedLines, Render.includeSource, FilePath.relativeTo?_base_plain]
  rw [Render.manifest, Render.manifest, Render.manifestLines, Render.manifestLines, each]

/-- Inputs that agree and name each file in one spelling give the same manifest and index. -/
theorem artifacts_of_plain {left right : ManifestInput} (same : plain left = plain right)
    (leftPlain : ∀ file ∈ left.files, plain file = file)
    (rightPlain : ∀ file ∈ right.files, plain file = file) : left.artifacts = right.artifacts := by
  obtain ⟨leftFiles, leftDir, leftNames⟩ := left
  obtain ⟨rightFiles, rightDir, rightNames⟩ := right
  obtain ⟨sameFiles, sameDir, rfl⟩ := ManifestInput.mk.inj same
  have files : leftFiles = rightFiles := by
    rw [List.map_congr_left leftPlain, List.map_congr_left rightPlain] at sameFiles
    simpa using sameFiles
  have manifest : Render.manifest leftFiles leftDir = Render.manifest rightFiles rightDir := by
    rw [files, ← manifest_plain, sameDir, manifest_plain]
  rw [ManifestInput.artifacts, ManifestInput.artifacts, manifest]

end Generation

end ResourceAccessors
