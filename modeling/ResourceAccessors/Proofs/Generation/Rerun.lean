import ResourceAccessors.Proofs.Generation.Pass
import ResourceAccessors.Proofs.Generation.Placement
import ResourceAccessors.Proofs.Generation.Selection
import ResourceAccessors.Proofs.Generation.Texts

/-!
# A pass right after a pass

A pass over the input of the pass before it computes nothing: all its outputs are reused, and it gives
and leaves behind what the first one did. It asks as often whether to go on.

The second of two passes that differ in their files only finds every source as it was. It plans the
declarations under the same keys and writes the artifacts under the same names, so that each of its
reasons compares what the two passes made for one declaration.
-/

namespace ResourceAccessors.Generation

/-- The reasons of a pass that reuses every output of a state. -/
def State.allCached (state : State) : Tracked where
  extraction := state.extraction.mapValues fun _ => .cached
  plans := state.plans.mapValues fun _ => .cached
  artifacts := state.artifacts.mapValues fun _ => .cached
  manifest := state.manifest.mapValues fun _ => .cached

/-- A pass gives what the one before it gave, and reuses it all. -/
structure Outcome.Reuses (second first : Outcome) : Prop where
  state : second.state = first.state
  artifacts : second.artifacts = first.artifacts
  diagnostics : second.diagnostics = first.diagnostics
  searchPaths : second.searchPaths = first.searchPaths
  embedded : second.embedded = first.embedded
  cached : second.tracked = first.state.allCached

section Repetition

variable {previous : State} {input : Input} {first second : Outcome}

/-- What a pass finds and plans is read off the state that it leaves. -/
theorem Outcome.eq_of_state_eq (input : Input) (same : second.state = first.state) :
    second.sites = first.sites ∧ second.plans = first.plans ∧
      second.manifestInput input = first.manifestInput input ∧
        second.siteArtifacts = first.siteArtifacts := by
  simp only [sites, plans, manifestInput, siteArtifacts, same, and_self]

/-- Running the steps again over the same input leaves the same state. -/
theorem Steps.state_again (steps : Steps previous input first)
    (again : Steps first.state input second) : second.state = first.state := by
  have extraction : second.state.extraction = first.state.extraction := by
    rw [again.extraction, steps.extraction, Step.recordsOf_again]
  have sites : second.sites = first.sites := by
    rw [Outcome.sites, Outcome.sites, extraction]
  have plans : second.state.plans = first.state.plans := by
    rw [again.plans, sites, steps.plans, Step.recordsOf_again]
  have planned : second.plans = first.plans := by
    rw [Outcome.plans, Outcome.plans, plans]
  have artifacts : second.state.artifacts = first.state.artifacts := by
    rw [again.written, planned, steps.written, Step.recordsOf_again]
  have asked : second.manifestInput input = first.manifestInput input := by
    rw [Outcome.manifestInput, Outcome.manifestInput, planned, artifacts]
  have manifest : second.state.manifest = first.state.manifest := by
    rw [again.manifest, asked, steps.manifest, Step.recordsOf_again]
  calc second.state
    _ = ⟨second.state.extraction, second.state.plans, second.state.artifacts,
          second.state.manifest⟩ := rfl
    _ = first.state := by rw [extraction, plans, artifacts, manifest]

/-- A pass over the same input gives the same and reuses all of it. -/
theorem Steps.reuses (steps : Steps previous input first)
    (again : Steps first.state input second) : second.Reuses first := by
  have state := steps.state_again again
  obtain ⟨sites, plans, asked, siteArtifacts⟩ := Outcome.eq_of_state_eq input state
  constructor
  case state => exact state
  case artifacts => rw [again.artifacts, steps.artifacts, siteArtifacts, state]
  case diagnostics => rw [again.diagnostics, steps.diagnostics, plans]
  case searchPaths => rw [again.searchPaths, steps.searchPaths, sites]
  case embedded => rw [again.embedded, steps.embedded, plans]
  case cached =>
    rw [again.tracked, sites, plans, asked, State.allCached, steps.extraction, steps.plans,
      steps.written, steps.manifest, Step.reasonsOf_again, Step.reasonsOf_again,
      Step.reasonsOf_again, Step.reasonsOf_again]

/-- The second pass over an input asks as often as the first one. -/
theorem Steps.exists_pass_again (steps : Steps previous input first) :
    ∃ second, second.Reuses first ∧ ∀ token, pass first.state input token =
      (token.spend (first.questions input)).map fun rest => (second, rest) := by
  obtain ⟨second, again, passed⟩ := exists_pass_eq first.state input
  have reuses := steps.reuses again
  obtain ⟨sites, plans, -⟩ := Outcome.eq_of_state_eq input reuses.state
  have asks : second.questions input = first.questions input := by
    rw [Outcome.questions, Outcome.questions, sites, plans]
  exact ⟨second, reuses, by simpa only [asks] using passed⟩

end Repetition

open Spelled

/-! ### Passes that differ in their files -/

/-- Two passes over the same sources, the second of which starts where the first one ended. -/
structure Rerun (previous : State) (one other : Input) (first second : Outcome) : Prop where
  sound : previous.Sound
  same : one.SameButFiles other
  steps : Steps previous one first
  again : Steps first.state other second

/-- The declarations that a pass found, each under the key of its plan. -/
def Outcome.keyedSites (outcome : Outcome) : List (String × Declaration.Site) :=
  (claimAll [] (outcome.sites.map siteRequest)).zip outcome.sites

/-- The declarations are planned under their keys. -/
theorem Outcome.planItems_sites (outcome : Outcome) (input : Input) :
    planItems input outcome.sites =
      outcome.keyedSites.map fun keyed => (keyed.1, planInput input keyed.2) := by
  rw [planItems, keyedSites, List.zip_map_right]
  rfl

/-- A declaration with a key is planned under it. -/
theorem Outcome.mem_planItems {outcome : Outcome} (input : Input) {key : String}
    {site : Declaration.Site} (mem : (key, site) ∈ outcome.keyedSites) :
    (key, planInput input site) ∈ planItems input outcome.sites := by
  rw [outcome.planItems_sites]
  exact List.mem_map_of_mem mem

section Pass

variable {previous : State} {input : Input} {outcome : Outcome}

/-- A declaration in the sources is found, up to the spelling of its file, under its key. -/
theorem Steps.exists_keyedSite (steps : Steps previous input outcome) (sound : previous.Sound)
    {key : String} {site : Declaration.Site}
    (mem : (key, site) ∈ input.planKeys.zip input.declared) :
    ∃ found, (key, found) ∈ outcome.keyedSites ∧ plain found = plain site := by
  obtain ⟨keys, sites⟩ := steps.sites_declared sound
  have all : outcome.keyedSites.map plain = (input.planKeys.zip input.declared).map plain := by
    rw [Outcome.keyedSites, Input.planKeys, map_plain_zip, map_plain_zip, map_siteRequest keys,
      sites]
  have among : plain (key, site) ∈ outcome.keyedSites.map plain := by
    rw [all]
    exact List.mem_map_of_mem mem
  obtain ⟨⟨foundKey, found⟩, foundMem, agrees⟩ := List.mem_map.1 among
  obtain ⟨rfl, samePlain⟩ := Prod.mk.inj agrees
  exact ⟨found, foundMem, samePlain⟩

/-- A plan records whether the build is one for an editor. -/
theorem Steps.isDesignTime_of_mem (steps : Steps previous input outcome) (sound : previous.Sound)
    {plan : Plan} (mem : plan ∈ outcome.plans) :
    plan.isDesignTime = input.options.isDesignTime := by
  obtain ⟨entry, entryMem, rfl⟩ := Outcome.mem_plans_iff.1 mem
  rw [steps.plans] at entryMem
  obtain ⟨item, itemMem, rfl⟩ := Step.exists_of_mem_recordsOf entryMem
  obtain ⟨site, -, given⟩ := exists_site_of_mem_planItems itemMem
  have made := Step.plain_outputFor respects_plan sound.plans item.1 item.2
  have kind : (Step.recordOf PlanInput.plan previous.plans item).2.output.isDesignTime =
      item.2.plan.isDesignTime := eq_of_plain (fun _ => rfl) made
  rw [kind, given]
  rfl

end Pass

namespace Rerun

variable {previous : State} {one other : Input} {first second : Outcome}

/-! ### Sources -/

/-- The sources leave the same records. -/
theorem extraction_eq (rerun : Rerun previous one other first second) :
    second.state.extraction = first.state.extraction := by
  rw [rerun.again.extraction, rerun.steps.extraction, ← rerun.same.sources,
    Step.recordsOf_again]

/-- Every source is reused. -/
theorem tracked_extraction (rerun : Rerun previous one other first second) :
    second.tracked.extraction = first.state.extraction.mapValues fun _ => .cached := by
  rw [rerun.again.tracked, rerun.steps.extraction, ← rerun.same.sources]
  exact Step.reasonsOf_again _

/-- The same declarations are found. -/
theorem sites_eq (rerun : Rerun previous one other first second) : second.sites = first.sites := by
  rw [Outcome.sites, Outcome.sites, rerun.extraction_eq]

/-- The declarations have the same keys. -/
theorem keyedSites_eq (rerun : Rerun previous one other first second) :
    second.keyedSites = first.keyedSites := by
  rw [Outcome.keyedSites, Outcome.keyedSites, rerun.sites_eq]

/-- The same declarations stand in the sources. -/
theorem declared_eq (rerun : Rerun previous one other first second) :
    other.declared = one.declared := by
  rw [Input.declared, Input.declared, rerun.same.sources]

/-- The plans are given the same keys. -/
theorem planKeys_eq (rerun : Rerun previous one other first second) :
    other.planKeys = one.planKeys := by
  rw [Input.planKeys, Input.planKeys, rerun.declared_eq]

/-! ### Plans -/

/-- What is seen of the plans for the declarations, and does not depend on how paths are written, is
seen of all plans. -/
theorem mapValues_plans (rerun : Rerun previous one other first second) {γ : Type}
    (view : Plan → γ)
    (blind : ∀ left right, plain left = plain right → view left = view right)
    (same : ∀ site, view (planInput other site).plan = view (planInput one site).plan) :
    (second.state.plans.mapValues fun record => view record.output) =
      first.state.plans.mapValues fun record => view record.output := by
  have seen : ∀ {start : State} {input : Input} {outcome : Outcome},
      Steps start input outcome → start.Sound →
      (outcome.state.plans.mapValues fun record => view record.output) =
        (Keyed.ofList outcome.keyedSites).mapValues fun site =>
          view (planInput input site).plan := by
    intro start input outcome steps sound
    have kept : ∀ item ∈ planItems input outcome.sites,
        view (Step.recordOf PlanInput.plan start.plans item).2.output = view item.2.plan :=
      fun item _ => blind _ _ (Step.plain_outputFor respects_plan sound.plans item.1 item.2)
    rw [steps.plans]
    refine (Step.mapValues_recordsOf (fun record => view record.output)
      (fun given => view given.plan) kept).trans ?_
    rw [outcome.planItems_sites, Keyed.ofList_map, Keyed.mapValues_mapValues]
    rfl
  rw [seen rerun.steps rerun.sound, seen rerun.again (rerun.steps.sound rerun.sound),
    rerun.keyedSites_eq]
  exact congrArg (Keyed.mapValues · _) (funext same)

/-- The plans stand under the same keys. -/
theorem keys_plans (rerun : Rerun previous one other first second) :
    second.state.plans.keys = first.state.plans.keys := by
  have keys := congrArg Keyed.keys
    (rerun.mapValues_plans (fun _ => ()) (fun _ _ _ => rfl) fun _ => rfl)
  rwa [Keyed.keys_mapValues, Keyed.keys_mapValues] at keys

/-- What is seen of the plans for the declarations is seen of the plans, in their order. -/
theorem map_plans (rerun : Rerun previous one other first second) {γ : Type} (view : Plan → γ)
    (blind : ∀ left right, plain left = plain right → view left = view right)
    (same : ∀ site, view (planInput other site).plan = view (planInput one site).plan) :
    second.plans.map view = first.plans.map view := by
  have values := congrArg Keyed.values (rerun.mapValues_plans view blind same)
  rw [Keyed.values_mapValues, Keyed.values_mapValues] at values
  rw [Outcome.plans, Outcome.plans, outputs, outputs, List.map_map, List.map_map]
  exact values

/-! ### Artifacts -/

/-- The plans ask for the same names. -/
theorem requests_eq (rerun : Rerun previous one other first second) :
    second.plans.map artifactRequest = first.plans.map artifactRequest :=
  rerun.map_plans artifactRequest
    (fun _ _ agree => eq_of_plain (fun _ => rfl) agree) fun _ => rfl

/-- The artifacts have the same names. -/
theorem artifactNames_eq (rerun : Rerun previous one other first second) :
    second.artifactNames = first.artifactNames := by
  rw [Outcome.artifactNames, Outcome.artifactNames, rerun.requests_eq]

/-- The artifacts are named after the same plans. -/
theorem nameOf_eq (rerun : Rerun previous one other first second) :
    second.nameOf = first.nameOf := by
  funext key
  rw [Outcome.nameOf, Outcome.nameOf, rerun.keys_plans, rerun.artifactNames_eq]

/-- The artifacts stand under the same names. -/
theorem keys_artifacts (rerun : Rerun previous one other first second) :
    second.state.artifacts.keys = first.state.artifacts.keys := by
  apply Keyed.keys_eq_of_mem_iff
  intro name
  rw [rerun.again.artifactNames_perm.mem_iff, rerun.artifactNames_eq,
    rerun.steps.artifactNames_perm.mem_iff]

/-! ### Reasons -/

/-- The reasons for plans are those for the plans that there were. -/
theorem keys_tracked_plans (rerun : Rerun previous one other first second) :
    second.tracked.plans.keys = first.state.plans.keys := by
  apply Keyed.keys_eq_of_mem_iff
  intro key
  have planned : key ∈ (planItems other second.sites).map Prod.fst ↔
      key ∈ first.state.plans.keys := by
    rw [← rerun.keys_plans, rerun.again.plans]
    exact Step.mem_keys_recordsOf.symm
  rw [rerun.again.tracked]
  show key ∈ (Step.reasonsOf _ first.state.plans _).keys ↔ _
  rw [Step.mem_keys_reasonsOf, planned, or_self]

/-- The reasons for artifacts are those for the artifacts that there were. -/
theorem keys_tracked_artifacts (rerun : Rerun previous one other first second) :
    second.tracked.artifacts.keys = first.state.artifacts.keys := by
  apply Keyed.keys_eq_of_mem_iff
  intro name
  rw [rerun.again.tracked]
  show name ∈ (Step.reasonsOf _ first.state.artifacts _).keys ↔ _
  rw [Step.mem_keys_reasonsOf, second.names_artifactItems, rerun.artifactNames_eq,
    rerun.steps.artifactNames_perm.mem_iff, or_self]

/-- The reason for a plan compares the files of the folder of its declaration. -/
theorem find?_tracked_plans (rerun : Rerun previous one other first second) {key : String}
    {site : Declaration.Site} (mem : (key, site) ∈ first.keyedSites) :
    second.tracked.plans.find? key = some .cached ↔
      (planInput one site == planInput other site) = true := by
  obtain ⟨output, found, -⟩ := rerun.steps.find?_plans rerun.sound (Outcome.mem_planItems one mem)
  have laterMem : (key, site) ∈ second.keyedSites := by
    rw [rerun.keyedSites_eq]
    exact mem
  have itemMem := Outcome.mem_planItems other laterMem
  have distinct := rerun.again.nodup_planItems (rerun.steps.sound rerun.sound)
  rw [rerun.again.tracked]
  show (Step.reasonsOf _ first.state.plans _).find? key = _ ↔ _
  rw [Step.find?_reasonsOf_of_mem distinct itemMem, found, Option.some.injEq,
    Step.outputFor_cached_iff]
  simp

/-- The reason for an artifact compares the plans. -/
theorem find?_tracked_artifacts (rerun : Rerun previous one other first second) {name : String}
    {plan later : Plan} (mem : (name, plan) ∈ artifactItems first.plans)
    (laterMem : (name, later) ∈ artifactItems second.plans) :
    second.tracked.artifacts.find? name =
      some (Step.outputFor Render.accessors (some ⟨plan, Render.accessors plan⟩) later).2 := by
  rw [rerun.again.tracked]
  show (Step.reasonsOf _ first.state.artifacts _).find? name = _
  rw [Step.find?_reasonsOf_of_mem second.nodup_artifactItems laterMem,
    rerun.steps.find?_artifacts rerun.sound mem]

/-- The manifests are made from equal inputs when the embedded files are the same. -/
theorem manifestInput_beq_iff (rerun : Rerun previous one other first second) :
    (first.manifestInput one == second.manifestInput other) = true ↔
      (embeddedFiles one first.plans == embeddedFiles other second.plans) = true := by
  rw [beq_iff, beq_iff]
  show ManifestInput.mk _ _ _ = ManifestInput.mk _ _ _ ↔ _
  rw [ManifestInput.mk.injEq]
  simp only [Outcome.manifestInput, rerun.same.options, rerun.keys_artifacts, and_true]
  rfl

/-- The only reason of the last step is that for the manifest, and it compares the embedded files. -/
theorem tracked_manifest (rerun : Rerun previous one other first second) :
    ∃ reason, second.tracked.manifest.entries = [(manifestKey, reason)] ∧
      (reason = .cached ↔
        (embeddedFiles one first.plans == embeddedFiles other second.plans) = true) := by
  obtain ⟨output, entries, found⟩ := rerun.steps.find?_manifest
  have only : first.state.manifest.keys = [manifestKey] := by
    rw [Keyed.keys, entries]
    rfl
  refine ⟨(Step.outputFor ManifestInput.artifacts (first.state.manifest.find? manifestKey)
    (second.manifestInput other)).2, ?_, ?_⟩
  · rw [rerun.again.tracked]
    exact Step.reasonsOf_singleton _ only
  · rw [found, Step.outputFor_cached_iff]
    simp [rerun.manifestInput_beq_iff]

/-- The manifest and the index are kept when the embedded files are the same. -/
theorem outputs_manifest (rerun : Rerun previous one other first second)
    (same : (embeddedFiles one first.plans == embeddedFiles other second.plans) = true) :
    outputs second.state.manifest = outputs first.state.manifest := by
  obtain ⟨output, entries, found⟩ := rerun.steps.find?_manifest
  have kept : Step.outputFor ManifestInput.artifacts (first.state.manifest.find? manifestKey)
      (second.manifestInput other) = (output, .cached) := by
    rw [found, Step.outputFor, if_pos (rerun.manifestInput_beq_iff.2 same)]
  rw [rerun.again.manifest, outputs, outputs, Keyed.values, Keyed.values, entries]
  show [(Step.outputFor _ (first.state.manifest.find? manifestKey) _).1] = _
  rw [kept]
  rfl

/-! ### Files with the same paths -/

section Paths

/- The files have equal paths in both inputs. -/
variable (rerun : Rerun previous one other first second)
  (paths : (one.files.map Resource.File.path == other.files.map Resource.File.path) = true)

include rerun paths

/-- The plans of both passes agree without the texts. -/
theorem map_plans_withoutTexts :
    (second.plans.map Plan.withoutTexts).map plain =
      (first.plans.map Plan.withoutTexts).map plain := by
  rw [List.map_map, List.map_map]
  exact rerun.map_plans (fun plan => plain plan.withoutTexts)
    (fun _ _ agree => plain_withoutTexts agree)
    fun site => (plain_plan_withoutTexts_eq rerun.same paths site).symm

/-- Both passes embed the same files. -/
theorem embeddedFiles_of_paths :
    (embeddedFiles one first.plans == embeddedFiles other second.plans) = true := by
  rw [list_beq_iff, ← embeddedFiles_withoutTexts one, ← embeddedFiles_withoutTexts other,
    ← rerun.same.embeddedFiles_eq]
  exact embeddedFiles_of_plain one (rerun.map_plans_withoutTexts paths).symm

/-- The manifest is reused. -/
theorem tracked_manifest_of_paths :
    second.tracked.manifest.entries = [(manifestKey, .cached)] := by
  obtain ⟨reason, entries, cached⟩ := rerun.tracked_manifest
  rw [entries, cached.2 (rerun.embeddedFiles_of_paths paths)]

end Paths

end Rerun

end ResourceAccessors.Generation
