import ResourceAccessors.Proofs.FilePath.Bytes
import ResourceAccessors.Proofs.Generation.FirstPass
import ResourceAccessors.Proofs.Generation.Moved

/-!
# Generated code can be relocated

A project that lies in one folder and is moved as a whole is given the same artifacts and
diagnostics. The keys of sources and declarations get another beginning, which keeps their order and
their numbers; the plans are the moved ones, and they show the same.
-/

namespace ResourceAccessors.Generation

/-- The same project in another folder. -/
def Input.relocated (input : Input) (target : FilePath) : Input :=
  let source := input.options.projectDir
  { options := { input.options with projectDir := target }
    sources := input.sources.map (·.moved source target)
    files := input.files.map (·.moved source target)
    embedded := input.embedded.map fun paths => paths.map (·.moved source target) }

/-- A project lies in its folder as a whole, and no declaration leaves it. -/
structure Input.Contained (input : Input) : Prop where
  projectDir : input.options.projectDir.IsAnchored
  sources : ∀ source ∈ input.sources, source.path.LiesBelow input.options.projectDir
  files : ∀ file ∈ input.files, file.path.LiesBelow input.options.projectDir
  embedded : ∀ paths ∈ input.embedded, ∀ path ∈ paths, path.LiesBelow input.options.projectDir
  sites : ∀ source ∈ input.sources, ∀ site ∈ source.sites,
    site.StaysInside input.options.projectDir

/-- What a pass gives to be compiled, and what it reports. -/
def Outcome.generated (outcome : Outcome) : List Artifact × List Diagnostic :=
  (outcome.artifacts, outcome.diagnostics)

/-! ### Keys without their beginning -/

/-- The key of a path below a folder, without the beginning that is the folder. -/
def keyBelow (folder path : FilePath) : String :=
  slashed ⟨path.textBelow folder⟩

/-- The keys of the paths below a folder have one beginning. -/
theorem exists_slashed_eq {folder : FilePath} (anchored : folder.IsAnchored) :
    ∃ stem, ∀ path : FilePath, path.LiesBelow folder →
      slashed path = stem ++ keyBelow folder path := by
  obtain ⟨stem, texts⟩ := anchored.exists_text_eq
  have slash : "/" = String.singleton '/' := rfl
  refine ⟨slashed ⟨stem⟩ ++ "/", fun path liesBelow => ?_⟩
  have shown : path.shown =
      FilePath.shownText stem ++ "/" ++ FilePath.shownText (path.textBelow folder) := by
    rw [FilePath.shown, texts path liesBelow, slash, FilePath.shownText_append (by decide)]
  rw [keyBelow, slashed, shown, slashed, slashed, FilePath.shown, FilePath.shown]
  simp only [String.toList_append, List.map_append, String.ofList_append]
  rfl

/-- The keys that a declaration asks for, without their beginning. -/
def requestBelow (folder : FilePath) (site : Declaration.Site) : String × (Nat → String) :=
  let base := keyBelow folder site.sourceFile ++ "#" ++ site.display ++
    "".intercalate site.cfgAttributes
  (base, fun count => base ++ "#" ++ toString count)

/-- The sources stand in the order of their keys without the beginning. -/
theorem values_extractionItems {folder : FilePath} (anchored : folder.IsAnchored)
    {sources : List SourceFile} (below : ∀ source ∈ sources, source.path.LiesBelow folder) :
    (Keyed.ofList (extractionItems sources)).values =
      (Keyed.ofList (sources.map fun source => (keyBelow folder source.path, source))).values := by
  obtain ⟨stem, keys⟩ := exists_slashed_eq anchored
  have items : extractionItems sources =
      (sources.map fun source => (keyBelow folder source.path, source)).map
        fun item => (stem ++ item.1, item.2) := by
    rw [extractionItems, List.map_map]
    refine List.map_congr_left fun source mem => ?_
    rw [Function.comp_apply, keys _ (below source mem)]
  rw [items, Keyed.values_ofList_stem]

/-- The declarations stand in the order of the keys without the beginning. -/
theorem values_siteKeys {folder : FilePath} (anchored : folder.IsAnchored)
    {sites : List Declaration.Site} (below : ∀ site ∈ sites, site.sourceFile.LiesBelow folder) :
    (Keyed.ofList ((claimAll [] (sites.map siteRequest)).zip sites)).values =
      (Keyed.ofList ((claimAll [] (sites.map (requestBelow folder))).zip sites)).values := by
  obtain ⟨stem, keys⟩ := exists_slashed_eq anchored
  have injective : Function.Injective (stem ++ ·) :=
    fun _ _ same => (String.append_right_inj stem).1 same
  have requests : sites.map siteRequest = (sites.map (requestBelow folder)).map
      fun request => (stem ++ request.1, (stem ++ ·) ∘ request.2) := by
    rw [List.map_map]
    refine List.map_congr_left fun site mem => ?_
    simp only [Function.comp_def, siteRequest, siteKey, requestBelow,
      keys _ (below site mem), String.append_assoc]
  have claimed := claimAll_rename injective [] (sites.map (requestBelow folder))
  rw [List.map_nil] at claimed
  rw [requests, claimed, List.zip_map_left]
  exact Keyed.values_ofList_stem stem _

/-! ### The pass -/

/-- What is planned is declared. -/
theorem Input.mem_declared_of_mem_planned {input : Input} {site : Declaration.Site}
    (mem : site ∈ input.planned.values) : site ∈ input.declared := by
  obtain ⟨entry, entryMem, rfl⟩ := List.mem_map.1 mem
  exact (List.of_mem_zip (Keyed.mem_of_mem_ofList entryMem)).2

section Pass

variable {input : Input} (contained : input.Contained) {target : FilePath}
  (targetAnchored : target.IsAnchored)

include contained

/-- The declarations of a contained project stand below its folder and stay there. -/
theorem Input.Contained.of_mem_declared {site : Declaration.Site} (mem : site ∈ input.declared) :
    site.sourceFile.LiesBelow input.options.projectDir ∧
      site.StaysInside input.options.projectDir := by
  obtain ⟨source, filed, siteMem⟩ := List.mem_flatMap.1 mem
  obtain ⟨entry, entryMem, rfl⟩ := List.mem_map.1 filed
  obtain ⟨source, sourceMem, rfl⟩ := List.mem_map.1 (Keyed.mem_of_mem_ofList entryMem)
  rw [sourceFile_of_mem_sites siteMem]
  exact ⟨contained.sources source sourceMem, contained.sites source sourceMem site siteMem⟩

include targetAnchored

/-- The moved sources are filed in the same order. -/
theorem Input.Contained.values_filed :
    (input.relocated target).filed.values =
      input.filed.values.map (·.moved input.options.projectDir target) := by
  have moved : ∀ source ∈ (input.relocated target).sources, source.path.LiesBelow target := by
    intro source mem
    obtain ⟨original, originalMem, rfl⟩ := List.mem_map.1 mem
    exact (contained.sources original originalMem).moved contained.projectDir targetAnchored
  have items : (input.relocated target).sources.map
      (fun source => (keyBelow target source.path, source)) =
        (input.sources.map fun source =>
          (keyBelow input.options.projectDir source.path, source)).map
            fun item => (item.1, item.2.moved input.options.projectDir target) := by
    rw [Input.relocated, List.map_map, List.map_map]
    refine List.map_congr_left fun source mem => ?_
    have isWithin := (contained.sources source mem).isWithin contained.projectDir
    have key := FilePath.textBelow_moved contained.projectDir targetAnchored isWithin
    simp only [Function.comp_apply, SourceFile.moved, keyBelow, key]
  rw [Input.filed, values_extractionItems targetAnchored moved, items,
    Keyed.ofList_map (fun source => SourceFile.moved source input.options.projectDir target),
    Keyed.values_mapValues, Input.filed,
    values_extractionItems contained.projectDir contained.sources]

/-- The moved declarations are found in the same order. -/
theorem Input.Contained.declared_relocated : (input.relocated target).declared =
    input.declared.map (·.moved input.options.projectDir target) := by
  have filed := contained.values_filed targetAnchored
  have sites : ∀ source : SourceFile,
      (source.moved input.options.projectDir target).sites =
        source.sites.map (·.moved input.options.projectDir target) := by
    intro source
    rw [SourceFile.sites, SourceFile.sites, SourceFile.moved, Declaration.value_sitesOf source.path]
    refine List.map_congr_left fun site mem => ?_
    rw [Declaration.Site.moved, Declaration.sourceFile_of_mem_sitesOf mem]
  rw [Input.declared_eq, Input.declared_eq, filed, List.flatMap_map, List.map_flatMap]
  simp only [sites]

/-- The moved declarations are planned in the same order. -/
theorem Input.Contained.values_planned : (input.relocated target).planned.values =
    input.planned.values.map (·.moved input.options.projectDir target) := by
  have below : ∀ site ∈ input.declared, site.sourceFile.LiesBelow input.options.projectDir :=
    fun site mem => (contained.of_mem_declared mem).1
  have moved : ∀ site ∈ input.declared.map (·.moved input.options.projectDir target),
      site.sourceFile.LiesBelow target := by
    intro site mem
    obtain ⟨original, originalMem, rfl⟩ := List.mem_map.1 mem
    exact (below original originalMem).moved contained.projectDir targetAnchored
  have requests : (input.declared.map (·.moved input.options.projectDir target)).map
      (requestBelow target) = input.declared.map (requestBelow input.options.projectDir) := by
    rw [List.map_map]
    refine List.map_congr_left fun site mem => ?_
    have key := FilePath.textBelow_moved contained.projectDir targetAnchored
      ((below site mem).isWithin contained.projectDir)
    have file : (site.moved input.options.projectDir target).sourceFile =
        site.sourceFile.moved input.options.projectDir target := rfl
    have display : (site.moved input.options.projectDir target).display = site.display := rfl
    have cfg : (site.moved input.options.projectDir target).cfgAttributes = site.cfgAttributes :=
      rfl
    simp only [Function.comp_apply, requestBelow, keyBelow, file, display, cfg, key]
  rw [Input.planned, Input.planKeys, contained.declared_relocated targetAnchored,
    values_siteKeys targetAnchored moved, requests,
    Keyed.ofList_zip_map (fun site => Declaration.Site.moved site input.options.projectDir target),
    Keyed.values_mapValues, Input.planned, Input.planKeys,
    values_siteKeys contained.projectDir below]

/-- The plan for a moved declaration is the moved plan. -/
theorem Input.Contained.plan_relocated {site : Declaration.Site} (mem : site ∈ input.declared) :
    (planInput (input.relocated target) (site.moved input.options.projectDir target)).plan =
      (planInput input site).plan.moved input.options.projectDir target := by
  obtain ⟨liesBelow, stays⟩ := contained.of_mem_declared mem
  obtain ⟨isWithin, searchPath⟩ :=
    stays.searchPath_moved liesBelow contained.projectDir targetAnchored
  have files := filesIn_moved contained.projectDir targetAnchored contained.files isWithin
  have plan := PlanInput.plan_moved contained.projectDir targetAnchored (planInput input site) rfl
    liesBelow stays fun file fileMem => contained.files file (mem_filesIn.1 fileMem).1
  rw [← plan, planInput, planInput]
  rw [← Declaration.Site.moved] at searchPath
  simp only [Input.relocated, searchPath, files]

/-- The same files are wanted, at their new places. -/
theorem Input.Contained.wantedFiles_relocated {plans : List Plan}
    (below : ∀ plan ∈ plans, ∀ property ∈ plan.properties,
      property.candidate.path.LiesBelow input.options.projectDir) :
    wantedFiles (input.relocated target) (plans.map (·.moved input.options.projectDir target)) =
        (wantedFiles input plans).map (·.moved input.options.projectDir target) ∧
      ∀ file ∈ wantedFiles input plans, file.path.LiesBelow input.options.projectDir := by
  rw [wantedFiles, wantedFiles, Input.relocated]
  cases configured : input.embedded with
  | some paths =>
    have inside := contained.embedded paths configured
    refine ⟨?_, ?_⟩
    · rw [Option.map_some]
      dsimp only
      rw [List.map_map, List.map_map]
      refine List.map_congr_left fun path mem => ?_
      exact embeddedAt_moved contained.projectDir targetAnchored rfl (inside path mem)
    · intro file mem
      obtain ⟨path, pathMem, rfl⟩ := List.mem_map.1 mem
      exact inside path pathMem
  | none =>
    refine ⟨?_, ?_⟩
    · rw [Option.map_none]
      dsimp only
      rw [List.flatMap_map, List.map_flatMap, List.map_flatMap, List.map_flatMap]
      congr 1
      funext plan
      rw [Plan.moved, List.map_map, List.map_map]
      rfl
    · intro file mem
      obtain ⟨property, among, rfl⟩ := List.mem_map.1 mem
      obtain ⟨plan, planMem, propertyMem⟩ := List.mem_flatMap.1 among
      exact below plan planMem property propertyMem

/-- The plans of a moved project are the moved plans. -/
theorem Outcome.IsFirst.plans_relocated {first second : Outcome} (firstOf : first.IsFirst input)
    (secondOf : second.IsFirst (input.relocated target)) :
    second.plans = first.plans.map (·.moved input.options.projectDir target) := by
  rw [secondOf.plans, firstOf.plans, contained.values_planned targetAnchored, List.map_map,
    List.map_map]
  refine List.map_congr_left fun site mem => ?_
  exact contained.plan_relocated targetAnchored (Input.mem_declared_of_mem_planned mem)

/-- A first pass over a moved project gives the same artifacts and diagnostics. -/
theorem Outcome.IsFirst.generated_relocated {first second : Outcome}
    (firstOf : first.IsFirst input) (secondOf : second.IsFirst (input.relocated target)) :
    second.generated = first.generated := by
  have plans := firstOf.plans_relocated contained targetAnchored secondOf
  have below : ∀ plan ∈ first.plans, ∀ property ∈ plan.properties,
      property.candidate.path.LiesBelow input.options.projectDir := by
    intro plan planMem property propertyMem
    rw [firstOf.plans] at planMem
    obtain ⟨site, -, rfl⟩ := List.mem_map.1 planMem
    obtain ⟨file, fileMem, same⟩ := exists_file_of_mem_plan propertyMem
    rw [same]
    exact contained.files file (mem_filesIn.1 fileMem).1
  obtain ⟨wanted, inside⟩ := contained.wantedFiles_relocated targetAnchored below
  have embedded : embeddedFiles (input.relocated target) second.plans =
      (embeddedFiles input first.plans).map (·.moved input.options.projectDir target) := by
    rw [plans, embeddedFiles_eq, embeddedFiles_eq, wanted]
    exact (keepsPlaces_moved contained.projectDir targetAnchored
      inside).firstOfEachIdentity_mergeSort
  have written : writtenFor second.plans = writtenFor first.plans := by
    rw [plans]
    exact writtenFor_eq (map_artifactRequest_moved _ _ _) (map_accessors_moved _ _ _)
  have manifest : ((input.relocated target).manifestFor second.plans).artifacts =
      (input.manifestFor first.plans).artifacts := by
    have text := manifest_moved contained.projectDir targetAnchored fun file mem =>
      inside file (mem_wantedFiles_of_mem mem)
    rw [Input.manifestFor, Input.manifestFor, ManifestInput.artifacts, ManifestInput.artifacts,
      embedded, written, ← text]
    rfl
  have artifacts : second.artifacts = first.artifacts := by
    rw [secondOf.artifacts, firstOf.artifacts, Input.artifactsFor, Input.artifactsFor, written,
      manifest]
  have diagnostics : second.diagnostics = first.diagnostics := by
    rw [secondOf.diagnostics, firstOf.diagnostics, embedded, plans, collect_moved]
  rw [Outcome.generated, Outcome.generated, artifacts, diagnostics]

end Pass

namespace Generator

/-- A new generator gives the same artifacts and diagnostics for a project in every folder, where the
project lies in its folder as a whole and no declaration leaves it. -/
theorem new_run_relocated {input : Input} (contained : input.Contained) {target : FilePath}
    (targetAnchored : target.IsAnchored) :
    (∀ token, (new.run (input.relocated target) token).1.map Outcome.generated =
      (new.run input token).1.map Outcome.generated) ∧
    (∃ outcome, new.run input .never = (.ok outcome, ⟨outcome.state⟩)) ∧
    ∃ outcome, new.run (input.relocated target) .never = (.ok outcome, ⟨outcome.state⟩) := by
  refine ⟨new_run_map_eq Outcome.generated ?_ ?_, run_never new input, run_never new _⟩
  · intro first second firstOf secondOf
    rw [Outcome.questions, Outcome.questions, secondOf.sites, firstOf.sites,
      contained.declared_relocated targetAnchored, List.length_map,
      firstOf.plans_relocated contained targetAnchored secondOf, List.length_map, Input.relocated,
      List.length_map]
  · intro first second firstOf secondOf
    exact firstOf.generated_relocated contained targetAnchored secondOf

/-- A project with one type that looks beside its folder and one that looks in a folder of the
project. -/
def besideAndShared : Input where
  options := ⟨false, ⟨"/home/user/project"⟩, "Demo"⟩
  sources := [
    ⟨⟨"/home/user/project/src/deep/lib.rs"⟩, [],
      "#[embedded_resource_properties(path = \"../beside\")]\npub struct Beside;\n" ++
      "#[embedded_resource_properties(path = \"/shared/./texts\")]\npub struct Shared;\n"⟩]
  files := [
    ⟨⟨"/home/user/project/src/beside/a.txt"⟩, some "a"⟩,
    ⟨⟨"/home/user/project/shared/texts/b.txt"⟩, none⟩]
  embedded := none

/-- The project may be moved to the root. -/
theorem new_run_relocated_root :
    besideAndShared.Contained ∧ FilePath.IsAnchored ⟨"/"⟩ ∧
      besideAndShared.declared.length = 2 ∧
      (new.run (besideAndShared.relocated ⟨"/"⟩) .never).1.map Outcome.generated =
        (new.run besideAndShared .never).1.map Outcome.generated := by
  have contained : besideAndShared.Contained := by
    constructor
    case projectDir => decide +kernel
    case sources => decide +kernel
    case files => decide +kernel
    case embedded => exact fun paths configured => by cases configured
    case sites => decide +kernel
  have anchored : FilePath.IsAnchored ⟨"/"⟩ := by decide +kernel
  exact ⟨contained, anchored, by decide +kernel, (new_run_relocated contained anchored).1 .never⟩

end Generator

end ResourceAccessors.Generation
