import ResourceAccessors.Proofs.Generation.Soundness

/-!
# Passes from different states agree

Two passes over one input leave the same records, whatever sound states they start from: the keys of
each step and its inputs are the same again, because they are made from outputs that are the same. In
particular a pass gives what a pass from the first state gives.
-/

namespace ResourceAccessors.Generation

open Spelled

/-! ### Keys and inputs of the steps -/

/-- The key of a site that is found in the file with the key `file`. -/
def keyIn (file : String) (site : Declaration.Site) : String :=
  file ++ "#" ++ site.display ++ "".intercalate site.cfgAttributes

/-- Entries of the first step that agree list sites that agree. -/
theorem plain_sites {one other : Outcome}
    (same : plain one.state.extraction = plain other.state.extraction) :
    one.sites.map plain = other.sites.map plain := by
  have listed : ∀ outcome : Outcome, outcome.sites.map plain =
      outcome.state.extraction.entries.flatMap fun entry => entry.2.output.map plain := by
    intro outcome
    rw [Outcome.sites, outputs, Keyed.values, List.map_flatten, List.flatMap_def]
    simp only [List.map_map]
    rfl
  have blind : ∀ entry : String × Record SourceFile (List Declaration.Site),
      (plain entry).2.output.map plain = entry.2.output.map plain := by
    intro entry
    simp
  rw [listed, listed]
  exact flatMap_of_plain blind (congrArg Keyed.entries same)

/-- Entries of the first step that agree list sites with the same keys. -/
theorem map_siteKey {one other : Outcome} (oneSound : one.state.Sound)
    (otherSound : other.state.Sound)
    (same : plain one.state.extraction = plain other.state.extraction) :
    one.sites.map siteKey = other.sites.map siteKey := by
  have listed : ∀ {outcome : Outcome}, outcome.state.Sound → outcome.sites.map siteKey =
      outcome.state.extraction.entries.flatMap fun entry =>
        entry.2.output.map (keyIn entry.1) := by
    intro outcome sound
    rw [Outcome.sites, outputs, Keyed.values, List.map_flatten, List.flatMap_def]
    simp only [List.map_map]
    refine congrArg List.flatten (List.map_congr_left fun entry mem => ?_)
    refine List.map_congr_left fun site siteMem => ?_
    rw [siteKey, sound.filed entry mem site siteMem, keyIn]
  have blind : ∀ entry : String × Record SourceFile (List Declaration.Site),
      (plain entry).2.output.map (keyIn (plain entry).1) = entry.2.output.map (keyIn entry.1) := by
    intro entry
    simp only [plain_pair, plain_record, plain_list, plain_string, List.map_map]
    rfl
  rw [listed oneSound, listed otherSound]
  exact flatMap_of_plain blind (congrArg Keyed.entries same)

/-- Sites with the same keys ask for the same keys of plans. -/
theorem map_siteRequest {one other : List Declaration.Site}
    (keys : one.map siteKey = other.map siteKey) :
    one.map siteRequest = other.map siteRequest := by
  have byKey : ∀ sites : List Declaration.Site, sites.map siteRequest =
      (sites.map siteKey).map fun base => (base, fun count => base ++ "#" ++ toString count) := by
    intro sites
    rw [List.map_map]
    rfl
  rw [byKey, byKey, keys]

/-- Sites that agree and have the same keys lead to plan inputs that agree. -/
theorem plain_planItems (input : Input) {one other : List Declaration.Site}
    (keys : one.map siteKey = other.map siteKey) (same : one.map plain = other.map plain) :
    (planItems input one).map plain = (planItems input other).map plain := by
  have requests := map_siteRequest keys
  have inputs : one.map (plain ∘ planInput input) = other.map (plain ∘ planInput input) := by
    refine map_eq_of_plain (fun left right agree => ?_) same
    have searchPath : left.searchPath input.options.projectDir =
        right.searchPath input.options.projectDir := by
      rw [← left.searchPath_plain, agree, right.searchPath_plain]
    have site : plain (planInput input left).site = plain (planInput input right).site := agree
    have files : (planInput input left).files = (planInput input right).files := by
      rw [planInput, planInput, searchPath]
    show PlanInput.mk _ _ _ = PlanInput.mk _ _ _
    rw [site, files]
    rfl
  rw [planItems, planItems, map_plain_zip, map_plain_zip, requests, List.map_map, List.map_map,
    inputs]

/-- Plans that agree are written under the same names. -/
theorem plain_artifactItems {one other : List Plan} (same : one.map plain = other.map plain) :
    (artifactItems one).map plain = (artifactItems other).map plain := by
  have requests : one.map artifactRequest = other.map artifactRequest :=
    map_eq_of_plain (fun left right agree => eq_of_plain (fun _ => rfl) agree) same
  rw [artifactItems, artifactItems, map_plain_zip, map_plain_zip, requests, same]

/-! ### Two passes over one input -/

section TwoPasses

variable {left right : State} {input : Input} {one other : Outcome}

/-- The first steps of two passes over one input agree. -/
theorem plain_extraction (oneSteps : Steps left input one) (otherSteps : Steps right input other)
    (leftSound : left.Sound) (rightSound : right.Sound) :
    plain one.state.extraction = plain other.state.extraction := by
  rw [oneSteps.extraction, otherSteps.extraction]
  exact Step.plain_recordsOf respects_sites leftSound.extraction rightSound.extraction rfl

/-- The plans of two passes over one input agree. -/
theorem plain_plans (oneSteps : Steps left input one) (otherSteps : Steps right input other)
    (leftSound : left.Sound) (rightSound : right.Sound) :
    plain one.state.plans = plain other.state.plans := by
  have same := plain_extraction oneSteps otherSteps leftSound rightSound
  have keys := map_siteKey (oneSteps.sound leftSound) (otherSteps.sound rightSound) same
  rw [oneSteps.plans, otherSteps.plans]
  exact Step.plain_recordsOf respects_plan leftSound.plans rightSound.plans
    (plain_planItems input keys (plain_sites same))

/-- Plan records that agree list plans that agree. -/
theorem map_plain_plans (same : plain one.state.plans = plain other.state.plans) :
    one.plans.map plain = other.plans.map plain := by
  have listed : ∀ outcome : Outcome, outcome.plans.map plain =
      outcome.state.plans.entries.map fun entry => plain entry.2.output := by
    intro outcome
    rw [Outcome.plans, outputs, Keyed.values, List.map_map, List.map_map]
    rfl
  rw [listed, listed]
  refine map_eq_of_plain (fun one other agree => ?_) (congrArg Keyed.entries same)
  exact congrArg Record.output (congrArg Prod.snd agree)

/-- The artifacts of two passes over one input agree. -/
theorem plain_written (oneSteps : Steps left input one) (otherSteps : Steps right input other)
    (leftSound : left.Sound) (rightSound : right.Sound) :
    plain one.state.artifacts = plain other.state.artifacts := by
  have plans := map_plain_plans (plain_plans oneSteps otherSteps leftSound rightSound)
  rw [oneSteps.written, otherSteps.written]
  exact Step.plain_recordsOf respects_accessors leftSound.artifacts rightSound.artifacts
    (plain_artifactItems plans)

/-- Artifact records that agree hold the same artifacts. -/
theorem siteArtifacts_eq (same : plain one.state.artifacts = plain other.state.artifacts) :
    one.siteArtifacts = other.siteArtifacts := by
  rw [Outcome.siteArtifacts, Outcome.siteArtifacts]
  refine map_eq_of_plain ?_ (congrArg Keyed.entries same)
  rintro ⟨oneName, oneInput, oneText⟩ ⟨otherName, otherInput, otherText⟩ agree
  simp only [plain_pair, plain_record, plain_string, Prod.mk.injEq, Record.mk.injEq] at agree
  obtain ⟨rfl, -, rfl⟩ := agree
  rfl

/-- Artifact records that agree have the same names. -/
theorem artifactNames_eq (same : plain one.state.artifacts = plain other.state.artifacts) :
    one.state.artifacts.keys = other.state.artifacts.keys := by
  rw [Keyed.keys, Keyed.keys]
  exact map_eq_of_plain (fun _ _ agree => congrArg Prod.fst agree) (congrArg Keyed.entries same)

/-- The manifests of two passes over one input are made from inputs that agree. -/
theorem plain_manifestInput (oneSteps : Steps left input one) (otherSteps : Steps right input other)
    (leftSound : left.Sound) (rightSound : right.Sound) :
    plain (one.manifestInput input) = plain (other.manifestInput input) := by
  have plans := map_plain_plans (plain_plans oneSteps otherSteps leftSound rightSound)
  have names := artifactNames_eq (plain_written oneSteps otherSteps leftSound rightSound)
  show ManifestInput.mk _ _ _ = ManifestInput.mk _ _ _
  rw [ManifestInput.mk.injEq]
  exact ⟨embeddedFiles_of_plain input plans, rfl, names⟩

/-- The manifests of two passes over one collected input are made from the same. -/
theorem manifestInput_eq (oneSteps : Steps left input one) (otherSteps : Steps right input other)
    (leftSound : left.Sound) (rightSound : right.Sound) (collected : input.Collected)
    (leftSettled : left.Settled) (rightSettled : right.Settled) :
    one.manifestInput input = other.manifestInput input := by
  have same := plain_manifestInput oneSteps otherSteps leftSound rightSound
  have names : one.state.artifacts.keys = other.state.artifacts.keys :=
    congrArg ManifestInput.artifactNames same
  have embedded : embeddedFiles input one.plans = embeddedFiles input other.plans := by
    have agree : (embeddedFiles input one.plans).map plain =
        (embeddedFiles input other.plans).map plain := congrArg ManifestInput.files same
    rw [List.map_congr_left fun file => oneSteps.plain_embedded collected leftSettled,
      List.map_congr_left fun file => otherSteps.plain_embedded collected rightSettled] at agree
    simpa using agree
  rw [Outcome.manifestInput, Outcome.manifestInput, embedded, names]

end TwoPasses

/-- Two passes give the same up to the spelling of paths, which the text of the manifest shows. -/
structure Outcome.Resembles (one other : Outcome) : Prop where
  artifacts : ∃ others given otherGiven, (given == otherGiven) = true ∧
    one.artifacts = others ++ ManifestInput.artifacts given ∧
    other.artifacts = others ++ ManifestInput.artifacts otherGiven
  diagnostics : one.diagnostics = other.diagnostics
  searchPaths : one.searchPaths = other.searchPaths
  embedded : (one.embedded == other.embedded) = true
  extraction : (one.state.extraction == other.state.extraction) = true
  plans : (one.state.plans == other.state.plans) = true
  written : (one.state.artifacts == other.state.artifacts) = true
  manifest : (one.state.manifest.values.map Record.input ==
    other.state.manifest.values.map Record.input) = true

/-- Two passes give the same, and leave states that are equal up to the spelling of paths. -/
structure Outcome.Agrees (one other : Outcome) : Prop where
  artifacts : one.artifacts = other.artifacts
  diagnostics : one.diagnostics = other.diagnostics
  searchPaths : one.searchPaths = other.searchPaths
  embedded : one.embedded = other.embedded
  state : (one.state == other.state) = true

section Agreement

variable {left right : State} {input : Input} {one other : Outcome}

/-- Passes over one input look for resources in the same folders. -/
theorem searchPaths_eq (oneSteps : Steps left input one) (otherSteps : Steps right input other)
    (leftSound : left.Sound) (rightSound : right.Sound) : one.searchPaths = other.searchPaths := by
  have extraction := plain_extraction oneSteps otherSteps leftSound rightSound
  have searched : one.sites.map (·.searchPath input.options.projectDir) =
      other.sites.map (·.searchPath input.options.projectDir) := by
    refine map_eq_of_plain (fun left right agree => ?_) (plain_sites extraction)
    rw [← left.searchPath_plain, agree, right.searchPath_plain]
  rw [oneSteps.searchPaths, otherSteps.searchPaths, searched]

/-- Passes over one input report the same problems. -/
theorem diagnostics_eq (oneSteps : Steps left input one) (otherSteps : Steps right input other)
    (leftSound : left.Sound) (rightSound : right.Sound) : one.diagnostics = other.diagnostics := by
  have plans := map_plain_plans (plain_plans oneSteps otherSteps leftSound rightSound)
  have names : (embeddedFiles input one.plans).map Render.EmbeddedFile.resourceName =
      (embeddedFiles input other.plans).map Render.EmbeddedFile.resourceName :=
    map_eq_of_plain (fun _ _ agree => eq_of_plain (fun _ => rfl) agree)
      (embeddedFiles_of_plain input plans)
  rw [oneSteps.diagnostics, otherSteps.diagnostics, collect_of_plain plans, Diagnostic.collect,
    Diagnostic.collect, names]

/-- Passes over one input resemble each other, whatever sound states they start from. -/
theorem Steps.resembles (oneSteps : Steps left input one) (otherSteps : Steps right input other)
    (leftSound : left.Sound) (rightSound : right.Sound) : one.Resembles other := by
  have planned := plain_plans oneSteps otherSteps leftSound rightSound
  have written := plain_written oneSteps otherSteps leftSound rightSound
  have same := plain_manifestInput oneSteps otherSteps leftSound rightSound
  constructor
  case artifacts =>
    obtain ⟨given, agrees, oneArtifacts⟩ := oneSteps.exists_manifest leftSound
    obtain ⟨otherGiven, otherAgrees, otherArtifacts⟩ := otherSteps.exists_manifest rightSound
    rw [siteArtifacts_eq written] at oneArtifacts
    refine ⟨_, given, otherGiven, ?_, oneArtifacts, otherArtifacts⟩
    rw [beq_iff]
    exact agrees.trans (same.trans otherAgrees.symm)
  case diagnostics => exact diagnostics_eq oneSteps otherSteps leftSound rightSound
  case searchPaths => exact searchPaths_eq oneSteps otherSteps leftSound rightSound
  case embedded =>
    have files := embeddedFiles_of_plain input (map_plain_plans planned)
    rw [beq_iff, oneSteps.embedded, otherSteps.embedded, plain_list, plain_list, List.map_map,
      List.map_map]
    exact map_eq_of_plain (fun _ _ agree => congrArg Render.EmbeddedFile.path agree) files
  case extraction =>
    exact (beq_iff _ _).2 (plain_extraction oneSteps otherSteps leftSound rightSound)
  case plans => exact (beq_iff _ _).2 planned
  case written => exact (beq_iff _ _).2 written
  case manifest =>
    obtain ⟨oneOutput, oneEntries⟩ := oneSteps.manifest_entries
    obtain ⟨otherOutput, otherEntries⟩ := otherSteps.manifest_entries
    rw [Keyed.values, Keyed.values, oneEntries, otherEntries, beq_iff]
    exact congrArg (fun given => [given]) same

/-- A pass over a collected input gives the same from every sound and settled state. -/
theorem Steps.agrees (oneSteps : Steps left input one) (otherSteps : Steps right input other)
    (leftSound : left.Sound) (rightSound : right.Sound) (collected : input.Collected)
    (leftSettled : left.Settled) (rightSettled : right.Settled) : one.Agrees other := by
  have extraction := plain_extraction oneSteps otherSteps leftSound rightSound
  have planned := plain_plans oneSteps otherSteps leftSound rightSound
  have written := plain_written oneSteps otherSteps leftSound rightSound
  have given := manifestInput_eq oneSteps otherSteps leftSound rightSound collected leftSettled
    rightSettled
  have embedded : embeddedFiles input one.plans = embeddedFiles input other.plans :=
    congrArg ManifestInput.files given
  have manifest : one.state.manifest = other.state.manifest := by
    apply Keyed.ext
    rw [oneSteps.settled_manifest collected leftSettled,
      otherSteps.settled_manifest collected rightSettled, given]
  constructor
  case artifacts =>
    rw [oneSteps.artifacts, otherSteps.artifacts, siteArtifacts_eq written, manifest]
  case diagnostics => exact diagnostics_eq oneSteps otherSteps leftSound rightSound
  case searchPaths => exact searchPaths_eq oneSteps otherSteps leftSound rightSound
  case embedded => rw [oneSteps.embedded, otherSteps.embedded, embedded]
  case state =>
    rw [beq_iff]
    show State.mk _ _ _ _ = State.mk _ _ _ _
    rw [extraction, planned, written, manifest]

end Agreement

end ResourceAccessors.Generation
