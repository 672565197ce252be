import ResourceAccessors.Proofs.Generation.Rerun

/-!
# Recomputation is local

When only the files change between two runs, each output is computed again exactly when what it is made
from has changed: a plan when the files of its folder have, an artifact when its plan has, and the
manifest when the embedded files have. Sources are never read again.
-/

namespace ResourceAccessors.Generation

open Spelled

/-- A pass over other files computes again, of what the first pass over the input computed, only what
depends on changed files. -/
structure Outcome.RecomputesLocally (first second : Outcome) (input : Input)
    (files : List Resource.File) (placements : List Placement) : Prop where
  firstPlaces : first.Places input placements
  places : second.Places { input with files } placements
  /-- Every source is reused. -/
  extraction : second.tracked.extraction = first.state.extraction.mapValues fun _ => .cached
  planKeys : second.tracked.plans.keys = first.state.plans.keys
  /-- A plan is reused when the files in its folder are the same. -/
  plans : ∀ placement ∈ placements,
    second.tracked.plans.find? placement.key = some .cached ↔
      (filesIn (placement.site.searchPath input.options.projectDir) input.files ==
        filesIn (placement.site.searchPath input.options.projectDir) files) = true
  names : second.tracked.artifacts.keys = first.state.artifacts.keys
  /-- An artifact is reused when its plan is the same. -/
  artifacts : ∀ placement ∈ placements,
    second.tracked.artifacts.find? placement.name = some .cached ↔
      ((planInput input placement.site).plan ==
        (planInput { input with files } placement.site).plan) = true
  /-- A reused artifact has the same text. -/
  texts : ∀ placement ∈ placements,
    second.tracked.artifacts.find? placement.name = some .cached →
      ∃ text, ⟨placement.name, text⟩ ∈ first.siteArtifacts ∧
        ⟨placement.name, text⟩ ∈ second.siteArtifacts
  /-- The manifest is reused when the embedded files are the same. -/
  manifest : ∃ reason, second.tracked.manifest.entries = [(manifestKey, reason)] ∧
    (reason = .cached ↔ (embeddedFiles input first.plans ==
      embeddedFiles { input with files } second.plans) = true)
  /-- The manifest is reused when only contents of files have changed. -/
  contents : (input.files.map Resource.File.path == files.map Resource.File.path) = true →
    second.tracked.manifest.entries = [(manifestKey, .cached)]

namespace Rerun

variable {previous : State} {input other : Input} {first second : Outcome}

/-- Plans are made from equal inputs exactly when the files in the folder are equal. -/
theorem planInput_beq_iff (same : input.SameButFiles other) (site : Declaration.Site) :
    (planInput input site == planInput other site) = true ↔
      (filesIn (site.searchPath input.options.projectDir) input.files ==
        filesIn (site.searchPath input.options.projectDir) other.files) = true := by
  rw [beq_iff, beq_iff]
  show PlanInput.mk _ _ _ = PlanInput.mk _ _ _ ↔ _
  rw [PlanInput.mk.injEq]
  simp only [planInput, same.options, true_and]
  rfl

/-- The places of the declarations are the same in both passes. -/
theorem placements_eq (rerun : Rerun previous input other first second) :
    second.placements other = first.placements input := by
  rw [Outcome.placements, Outcome.placements, rerun.planKeys_eq, rerun.declared_eq,
    rerun.nameOf_eq]

/-- At every place the second pass compares the two plans for the declaration. -/
theorem exists_plans_at (rerun : Rerun previous input other first second)
    {placement : Placement} (mem : placement ∈ first.placements input) :
    ∃ plan later, plain plan = plain (planInput input placement.site).plan ∧
      plain later = plain (planInput other placement.site).plan ∧
      (placement.name, plan) ∈ artifactItems first.plans ∧
      (placement.name, later) ∈ artifactItems second.plans := by
  have laterMem : placement ∈ second.placements other := by
    rw [rerun.placements_eq]
    exact mem
  obtain ⟨record, name, found, -, output⟩ := rerun.steps.planned_at rerun.sound mem
  obtain ⟨later, laterName, laterFound, -, laterOutput⟩ :=
    rerun.again.planned_at (rerun.steps.sound rerun.sound) laterMem
  refine ⟨record.output, later.output, output, laterOutput, ?_, ?_⟩
  · rw [name]
    exact Outcome.mem_artifactItems found
  · rw [laterName]
    exact Outcome.mem_artifactItems laterFound

/-- The reason for the plan at a place compares the files in the folder of its declaration. -/
theorem plans_at (rerun : Rerun previous input other first second)
    {placement : Placement} (mem : placement ∈ first.placements input) :
    second.tracked.plans.find? placement.key = some .cached ↔
      (filesIn (placement.site.searchPath input.options.projectDir) input.files ==
        filesIn (placement.site.searchPath input.options.projectDir) other.files) = true := by
  obtain ⟨⟨key, site⟩, keyed, rfl⟩ := List.mem_map.1 mem
  obtain ⟨found, foundMem, agrees⟩ := rerun.steps.exists_keyedSite rerun.sound keyed
  have folder : found.searchPath input.options.projectDir =
      site.searchPath input.options.projectDir := by
    rw [← found.searchPath_plain, agrees, site.searchPath_plain]
  rw [rerun.find?_tracked_plans foundMem, planInput_beq_iff rerun.same, folder]

/-- The reason for the artifact at a place compares the plans for its declaration. -/
theorem artifacts_at (rerun : Rerun previous input other first second)
    {placement : Placement} (mem : placement ∈ first.placements input) :
    second.tracked.artifacts.find? placement.name = some .cached ↔
      ((planInput input placement.site).plan == (planInput other placement.site).plan) = true := by
  obtain ⟨plan, later, agrees, laterAgrees, planMem, laterMem⟩ := rerun.exists_plans_at mem
  rw [rerun.find?_tracked_artifacts planMem laterMem, Option.some.injEq,
    Step.outputFor_cached_iff, beq_iff, ← agrees, ← laterAgrees]
  simp [beq_iff]

/-- An artifact whose plan is reused has the same text. -/
theorem texts_at (rerun : Rerun previous input other first second)
    {placement : Placement} (mem : placement ∈ first.placements input)
    (cached : second.tracked.artifacts.find? placement.name = some .cached) :
    ∃ text, ⟨placement.name, text⟩ ∈ first.siteArtifacts ∧
      ⟨placement.name, text⟩ ∈ second.siteArtifacts := by
  have sound := rerun.steps.sound rerun.sound
  obtain ⟨plan, later, agrees, laterAgrees, planMem, laterMem⟩ := rerun.exists_plans_at mem
  have plans := (beq_iff _ _).1 ((rerun.artifacts_at mem).1 cached)
  have texts : Render.accessors later = Render.accessors plan :=
    accessors_of_plain ((laterAgrees.trans plans.symm).trans agrees.symm)
  have laterArtifact := second.mem_siteArtifacts (rerun.again.find?_artifacts sound laterMem)
  rw [texts] at laterArtifact
  exact ⟨Render.accessors plan,
    first.mem_siteArtifacts (rerun.steps.find?_artifacts rerun.sound planMem), laterArtifact⟩

end Rerun

namespace Generator

/-- A run that differs from the last successful one in its files only computes again what depends on
changed files, whatever happened before these two runs. -/
theorem run_recomputesLocally (events between : List Event) {input : Input}
    {files : List Resource.File} {token laterToken : Cancellation} {first second : Outcome}
    {next last : Generator}
    (ran : (new.afterAll events).run input token = (.ok first, next))
    (quiet : next.succeeded between = [])
    (again : (next.afterAll between).run { input with files } laterToken = (.ok second, last)) :
    ∃ placements, first.RecomputesLocally second input files placements := by
  obtain ⟨steps, state⟩ := steps_of_run ran
  rw [afterAll_of_succeeded quiet] at again
  have laterSteps := (steps_of_run again).1
  rw [state] at laterSteps
  have sound := sound_afterAll events
  have rerun : Rerun (new.afterAll events).state input { input with files } first second :=
    ⟨sound, ⟨rfl, rfl, rfl⟩, steps, laterSteps⟩
  have laterPlaces := laterSteps.places (steps.sound sound)
  rw [rerun.placements_eq] at laterPlaces
  exact ⟨first.placements input, {
    firstPlaces := steps.places sound
    places := laterPlaces
    extraction := rerun.tracked_extraction
    planKeys := rerun.keys_tracked_plans
    plans := fun _ mem => rerun.plans_at mem
    names := rerun.keys_tracked_artifacts
    artifacts := fun _ mem => rerun.artifacts_at mem
    texts := fun _ mem cached => rerun.texts_at mem cached
    manifest := rerun.tracked_manifest
    contents := rerun.tracked_manifest_of_paths }⟩

/-- A project with two types that have one resource each, of which the first has the content
`text`. -/
def twoFolders (text : String) : Input where
  options := ⟨false, ⟨"/project"⟩, "Demo"⟩
  sources := [⟨⟨"/project/src/lib.rs"⟩, [],
    "#[embedded_resource_properties] pub struct One;\n" ++
    "#[embedded_resource_properties] pub struct Two;\n"⟩]
  files := [⟨⟨"/project/src/One/a.txt"⟩, some text⟩, ⟨⟨"/project/src/Two/b.txt"⟩, some "b"⟩]
  embedded := none

/-- When one file is edited, only the plan of its folder is computed again, although a run was
cancelled in between and the state was read back. -/
theorem run_recomputesLocally_twoFolders :
    ∃ first second next last placements,
      (new.afterAll [.run (twoFolders "old") .never]).run (twoFolders "a") .never =
        (.ok first, next) ∧
      (next.afterAll [.run (twoFolders "b") .immediate, .reload]).run (twoFolders "c") .never =
        (.ok second, last) ∧
      first.RecomputesLocally second (twoFolders "a") (twoFolders "c").files placements ∧
      (∃ placement ∈ placements,
        second.tracked.plans.find? placement.key = some .cached) ∧
      (∃ placement ∈ placements,
        second.tracked.plans.find? placement.key ≠ some .cached) ∧
      second.tracked.manifest.entries = [(manifestKey, .cached)] := by
  obtain ⟨first, ran⟩ := run_never (new.afterAll [.run (twoFolders "old") .never]) (twoFolders "a")
  have quiet : succeeded ⟨first.state⟩ [.run (twoFolders "b") .immediate, .reload] = [] := rfl
  obtain ⟨second, again⟩ := run_never
    (afterAll ⟨first.state⟩ [.run (twoFolders "b") .immediate, .reload])
    { twoFolders "a" with files := (twoFolders "c").files }
  obtain ⟨placements, recomputes⟩ := run_recomputesLocally [.run (twoFolders "old") .never]
    [.run (twoFolders "b") .immediate, .reload] ran quiet again
  have atSite : ∀ site ∈ (twoFolders "a").declared,
      ∃ placement ∈ placements, placement.site = site := by
    intro site mem
    rw [← recomputes.firstPlaces.sites] at mem
    exact List.mem_map.1 mem
  have folders : ∃ site ∈ (twoFolders "a").declared, ∃ other ∈ (twoFolders "a").declared,
      (filesIn (site.searchPath (twoFolders "a").options.projectDir) (twoFolders "a").files ==
        filesIn (site.searchPath (twoFolders "a").options.projectDir)
          (twoFolders "c").files) = true ∧
      (filesIn (other.searchPath (twoFolders "a").options.projectDir) (twoFolders "a").files ==
        filesIn (other.searchPath (twoFolders "a").options.projectDir)
          (twoFolders "c").files) = false := by
    decide +kernel
  obtain ⟨site, siteMem, other, otherMem, same, differs⟩ := folders
  obtain ⟨placement, mem, rfl⟩ := atSite site siteMem
  obtain ⟨edited, editedMem, rfl⟩ := atSite other otherMem
  refine ⟨first, second, _, _, placements, ran, again, recomputes, ?_, ?_, ?_⟩
  · exact ⟨placement, mem, (recomputes.plans placement mem).2 same⟩
  · refine ⟨edited, editedMem, fun cached => ?_⟩
    have unchanged := (recomputes.plans edited editedMem).1 cached
    rw [differs] at unchanged
    cases unchanged
  · exact recomputes.contents (by decide +kernel)

end Generator

end ResourceAccessors.Generation
