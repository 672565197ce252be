import ResourceAccessors.Proofs.Generation.FirstPass
import ResourceAccessors.Proofs.Generation.Rerun

/-!
# Builds for an editor

A build for an editor does not depend on what the files contain. It gives what an ordinary build gives
when no file has a text, and it is not carried out anew when only texts have changed: nothing that it
writes changes.
-/

namespace ResourceAccessors.Generation

open Spelled

/-- The same input for an ordinary build, with the texts of the files left out. -/
def Input.ordinary (input : Input) : Input :=
  { input.withoutTexts with options := { input.options with isDesignTime := false } }

/-- The same plan for an ordinary build, with the texts of its resources left out. -/
def Plan.ordinary (plan : Plan) : Plan :=
  { plan.withoutTexts with isDesignTime := false }

/-- What a pass gives, without the diagnostics of resources that are no texts and without the state
that it leaves behind. -/
def Outcome.apartFromTexts (outcome : Outcome) : Outcome :=
  { outcome with
    diagnostics := Diagnostic.apartFromTexts outcome.diagnostics
    state := .empty }

/-- A pass gives the same as the pass before it, but for the diagnostics of resources that are no
texts. It reads no source again, changes no artifact and does not write the manifest again. -/
structure Outcome.Repeats (second first : Outcome) : Prop where
  artifacts : second.artifacts = first.artifacts
  searchPaths : second.searchPaths = first.searchPaths
  embedded : (second.embedded == first.embedded) = true
  diagnostics : Diagnostic.apartFromTexts second.diagnostics =
    Diagnostic.apartFromTexts first.diagnostics
  extraction : second.tracked.extraction = first.state.extraction.mapValues fun _ => .cached
  names : second.tracked.artifacts.keys = first.state.artifacts.keys
  written : ∀ entry ∈ second.tracked.artifacts.entries, entry.2 = .cached ∨ entry.2 = .unchanged
  manifest : second.tracked.manifest.entries = [(manifestKey, .cached)]

/-! ### First passes -/

/-- An ordinary build without texts makes the plans of a build for an editor without texts. -/
theorem plan_ordinary (input : Input) (site : Declaration.Site) :
    (planInput input.ordinary site).plan = (planInput input site).plan.ordinary := by
  have plan : (planInput input.ordinary site).plan =
      { (planInput input.withoutTexts site).plan with isDesignTime := false } := rfl
  rw [plan, planInput_withoutTexts, PlanInput.plan_withoutTexts, Plan.ordinary]

/-- Plans for an editor are given the artifacts that an ordinary build gives them without texts. -/
theorem map_accessors_ordinary {plans : List Plan}
    (designTime : ∀ plan ∈ plans, plan.isDesignTime = true) :
    (plans.map Plan.ordinary).map Render.accessors = plans.map Render.accessors := by
  rw [List.map_map]
  apply List.map_congr_left
  intro plan mem
  rw [Function.comp_apply, Plan.ordinary]
  exact accessors_withoutTexts (designTime plan mem) false

/-- The same problems apart from resources that are no texts are collected for ordinary plans without
texts. -/
theorem collect_ordinary (plans : List Plan) (embedded : List Render.EmbeddedFile) :
    Diagnostic.apartFromTexts (Diagnostic.collect (plans.map Plan.ordinary) embedded) =
      Diagnostic.apartFromTexts (Diagnostic.collect plans embedded) := by
  have kind : ∀ plan : Plan, Diagnostic.ofPlan (embedded.map Render.EmbeddedFile.resourceName)
      plan.ordinary = Diagnostic.ofPlan (embedded.map Render.EmbeddedFile.resourceName)
        plan.withoutTexts := fun _ => rfl
  have collected : Diagnostic.collect (plans.map Plan.ordinary) embedded =
      Diagnostic.collect (plans.map Plan.withoutTexts) embedded := by
    simp only [Diagnostic.collect, List.flatMap_map, kind]
  rw [collected, collect_withoutTexts]

/-- The same files are embedded for ordinary plans without texts. -/
theorem embeddedFiles_ordinary (input : Input) (plans : List Plan) :
    embeddedFiles input.ordinary (plans.map Plan.ordinary) = embeddedFiles input plans := by
  rw [← embeddedFiles_withoutTexts input]
  simp only [embeddedFiles, Input.ordinary, Input.withoutTexts, List.flatMap_map, Plan.ordinary]
  rfl

/-- A first pass for an editor gives what an ordinary one gives without texts. -/
theorem Outcome.IsFirst.ordinary_eq {input : Input} {first second : Outcome}
    (firstOf : first.IsFirst input) (designTime : input.options.isDesignTime = true)
    (secondOf : second.IsFirst input.ordinary) :
    second.apartFromTexts = first.apartFromTexts := by
  have plans : second.plans = first.plans.map Plan.ordinary := by
    rw [secondOf.plans, firstOf.plans, List.map_map]
    exact List.map_congr_left fun site _ => plan_ordinary input site
  have kind : ∀ plan ∈ first.plans, plan.isDesignTime = true := by
    intro plan mem
    rw [firstOf.plans] at mem
    obtain ⟨site, -, rfl⟩ := List.mem_map.1 mem
    exact designTime
  have requests : second.plans.map artifactRequest = first.plans.map artifactRequest := by
    rw [plans, List.map_map]
    rfl
  have texts : second.plans.map Render.accessors = first.plans.map Render.accessors := by
    rw [plans, map_accessors_ordinary kind]
  have written := writtenFor_eq requests texts
  have embedded : embeddedFiles input.ordinary second.plans = embeddedFiles input first.plans := by
    rw [plans, embeddedFiles_ordinary]
  have artifacts : second.artifacts = first.artifacts := by
    rw [secondOf.artifacts, firstOf.artifacts, Input.artifactsFor, Input.artifactsFor,
      Input.manifestFor, Input.manifestFor, written, embedded]
    rfl
  have diagnostics : Diagnostic.apartFromTexts second.diagnostics =
      Diagnostic.apartFromTexts first.diagnostics := by
    rw [secondOf.diagnostics, firstOf.diagnostics, embedded, plans, collect_ordinary]
  have tracked : second.tracked = first.tracked := by
    rw [secondOf.tracked, firstOf.tracked, written]
    rfl
  have searchPaths : second.searchPaths = first.searchPaths := by
    rw [secondOf.searchPaths, firstOf.searchPaths]
    rfl
  have listed : second.embedded = first.embedded := by
    rw [secondOf.embedded, firstOf.embedded, embedded]
  rw [Outcome.apartFromTexts, artifacts, diagnostics, tracked, searchPaths, listed]
  rfl

/-! ### A pass right after a pass -/

namespace Rerun

variable {previous : State} {one other : Input} {first second : Outcome}

section Paths

/- The files have equal paths in both inputs. -/
variable (rerun : Rerun previous one other first second)
  (paths : (one.files.map Resource.File.path == other.files.map Resource.File.path) = true)

include rerun paths

/-- Both passes report the same problems apart from resources that are no texts. -/
theorem diagnostics_of_paths : Diagnostic.apartFromTexts second.diagnostics =
    Diagnostic.apartFromTexts first.diagnostics := by
  have names : (embeddedFiles one first.plans).map Render.EmbeddedFile.resourceName =
      (embeddedFiles other second.plans).map Render.EmbeddedFile.resourceName :=
    map_eq_of_plain (fun _ _ agree => eq_of_plain (fun _ => rfl) agree)
      ((list_beq_iff _ _).1 (rerun.embeddedFiles_of_paths paths))
  have collected : ∀ plans, Diagnostic.collect plans (embeddedFiles other second.plans) =
      Diagnostic.collect plans (embeddedFiles one first.plans) := by
    intro plans
    rw [Diagnostic.collect, Diagnostic.collect, names]
  rw [rerun.again.diagnostics, rerun.steps.diagnostics, collected, ← collect_withoutTexts,
    collect_of_plain (rerun.map_plans_withoutTexts paths), collect_withoutTexts]

/-- In a build for an editor, the plans are given the same artifacts. -/
theorem writtenFor_of_paths (designTime : one.options.isDesignTime = true) :
    writtenFor second.plans = writtenFor first.plans := by
  have ignored : ∀ plan : Plan, plan.isDesignTime = true →
      Render.accessors plan = Render.accessors plan.withoutTexts :=
    fun plan kind => (accessors_withoutTexts kind plan.isDesignTime).symm
  have firstKind : ∀ plan ∈ first.plans, plan.isDesignTime = true :=
    fun plan mem => (rerun.steps.isDesignTime_of_mem rerun.sound mem).trans designTime
  have secondKind : ∀ plan ∈ second.plans, plan.isDesignTime = true := by
    intro plan mem
    rw [rerun.again.isDesignTime_of_mem (rerun.steps.sound rerun.sound) mem, ← rerun.same.options,
      designTime]
  have texts := rerun.map_plans (fun plan => Render.accessors plan.withoutTexts)
    (fun _ _ agree => accessors_of_plain (plain_withoutTexts agree))
    fun site => accessors_of_plain (plain_plan_withoutTexts_eq rerun.same paths site).symm
  refine writtenFor_eq rerun.requests_eq ?_
  rw [List.map_congr_left fun plan mem => ignored plan (secondKind plan mem), texts,
    List.map_congr_left fun plan mem => ignored plan (firstKind plan mem)]

/-- In a build for an editor, no artifact changes. -/
theorem tracked_artifacts_of_paths (designTime : one.options.isDesignTime = true)
    {entry : String × Reason} (mem : entry ∈ second.tracked.artifacts.entries) :
    entry.2 = .cached ∨ entry.2 = .unchanged := by
  have written := rerun.writtenFor_of_paths paths designTime
  rw [rerun.again.tracked] at mem
  rcases Step.mem_reasonsOf mem with ⟨⟨name, plan⟩, itemMem, rfl⟩ | ⟨-, stored, unplanned⟩
  · have kept : (first.state.artifacts.find? name).map Record.output =
        some (Render.accessors plan) := by
      rw [← Keyed.find?_mapValues, rerun.steps.mapValues_artifacts rerun.sound, ← written,
        writtenFor, Keyed.find?_mapValues, Keyed.find?_ofList_of_mem second.nodup_artifactItems itemMem]
      rfl
    obtain ⟨record, found, same⟩ := Option.map_eq_some_iff.1 kept
    rw [Step.reasonOf, found]
    exact Step.outputFor_cached_or_unchanged same.symm
  · rw [second.names_artifactItems, rerun.artifactNames_eq,
      ← rerun.steps.artifactNames_perm.mem_iff] at unplanned
    exact absurd stored unplanned

/-- In a build for an editor, a pass right after another one repeats it. -/
theorem repeats (designTime : one.options.isDesignTime = true) : second.Repeats first := by
  have sound := rerun.steps.sound rerun.sound
  have embedded := rerun.embeddedFiles_of_paths paths
  constructor
  case artifacts =>
    rw [rerun.again.artifacts, rerun.steps.artifacts, rerun.outputs_manifest embedded,
      rerun.again.siteArtifacts_writtenFor sound, rerun.steps.siteArtifacts_writtenFor rerun.sound,
      rerun.writtenFor_of_paths paths designTime]
  case searchPaths =>
    rw [rerun.again.searchPaths, rerun.steps.searchPaths, rerun.sites_eq, rerun.same.options]
  case embedded =>
    rw [rerun.again.embedded, rerun.steps.embedded, list_beq_iff, List.map_map, List.map_map]
    exact (map_eq_of_plain (fun _ _ agree => congrArg Render.EmbeddedFile.path agree)
      ((list_beq_iff _ _).1 embedded)).symm
  case diagnostics => exact rerun.diagnostics_of_paths paths
  case extraction => exact rerun.tracked_extraction
  case names => exact rerun.keys_tracked_artifacts
  case written => exact fun entry mem => rerun.tracked_artifacts_of_paths paths designTime mem
  case manifest => exact rerun.tracked_manifest_of_paths paths

end Paths

end Rerun

/-! ### Runs -/

/-- Inputs that are the same without texts differ in their files only. -/
theorem Input.sameButFiles_of_withoutTexts {one other : Input}
    (same : one.withoutTexts = other.withoutTexts) : one.SameButFiles other := by
  obtain ⟨options, sources, -, embedded⟩ := Input.mk.inj same
  exact ⟨options, sources, embedded⟩

/-- Inputs that are the same without texts have files at the same paths. -/
theorem Input.paths_beq_of_withoutTexts {one other : Input}
    (same : one.withoutTexts = other.withoutTexts) :
    (one.files.map Resource.File.path == other.files.map Resource.File.path) = true := by
  have paths : ∀ input : Input, input.files.map Resource.File.path =
      input.withoutTexts.files.map Resource.File.path := by
    intro input
    rw [Input.withoutTexts, List.map_map]
    rfl
  rw [list_beq_iff, paths one, paths other, same]

namespace Generator

/-- A new generator gives for an editor what it gives in an ordinary build without texts. -/
theorem new_run_ordinary {input : Input} (designTime : input.options.isDesignTime = true)
    (token : Cancellation) :
    (new.run input.ordinary token).1.map Outcome.apartFromTexts =
      (new.run input token).1.map Outcome.apartFromTexts := by
  refine new_run_map_eq Outcome.apartFromTexts ?_ ?_ token
  · intro first second firstOf secondOf
    rw [Outcome.questions, Outcome.questions, secondOf.sites, firstOf.sites, secondOf.plans,
      firstOf.plans, List.length_map, List.length_map]
    rfl
  · intro first second firstOf secondOf
    exact firstOf.ordinary_eq designTime secondOf

/-- In builds for an editor, inputs that differ in the texts of files only are given the same, apart
from the diagnostics of resources that are no texts: by new generators, and by one generator after any
history, which then changes nothing that it wrote. What is written is what an ordinary build writes
when no file has a text. -/
theorem run_ignores_texts {one other : Input} (designTime : one.options.isDesignTime = true)
    (same : one.withoutTexts = other.withoutTexts) :
    (∀ token, (new.run other token).1.map Outcome.apartFromTexts =
      (new.run one token).1.map Outcome.apartFromTexts) ∧
    (∀ events token laterToken first second next last,
      (new.afterAll events).run one token = (.ok first, next) →
      next.run other laterToken = (.ok second, last) → second.Repeats first) ∧
    (∀ token, (new.run one.ordinary token).1.map Outcome.artifacts =
      (new.run one token).1.map Outcome.artifacts) ∧
    ∃ outcome, new.run one .never = (.ok outcome, ⟨outcome.state⟩) := by
  have sameInputs := Input.sameButFiles_of_withoutTexts same
  have ordinary : other.ordinary = one.ordinary := by
    rw [Input.ordinary, Input.ordinary, same, sameInputs.options]
  have otherDesignTime : other.options.isDesignTime = true := by
    rw [← sameInputs.options, designTime]
  refine ⟨fun token => ?_, ?_, fun token => ?_, run_never new one⟩
  · rw [← new_run_ordinary otherDesignTime, ordinary, new_run_ordinary designTime]
  · intro events token laterToken first second next last ran again
    obtain ⟨steps, state⟩ := steps_of_run ran
    have laterSteps := (steps_of_run again).1
    rw [state] at laterSteps
    have rerun : Rerun (new.afterAll events).state one other first second :=
      ⟨sound_afterAll events, sameInputs, steps, laterSteps⟩
    exact rerun.repeats (Input.paths_beq_of_withoutTexts same) designTime
  · have seen : ∀ result : Except Failure Outcome,
        (result.map Outcome.apartFromTexts).map Outcome.artifacts =
          result.map Outcome.artifacts := by
      intro result
      cases result <;> rfl
    rw [← seen, new_run_ordinary designTime, seen]

/-- A project with one type and two resources, in a build for an editor. -/
def twoResources (first second : Option String) : Input where
  options := ⟨true, ⟨"/project"⟩, "Demo"⟩
  sources := [⟨⟨"/project/src/lib.rs"⟩, [], "#[embedded_resource_properties] pub struct Notes;"⟩]
  files := [⟨⟨"/project/src/Notes/a.txt"⟩, first⟩, ⟨⟨"/project/src/Notes/b.txt"⟩, second⟩]
  embedded := none

/-- One file is edited and another one becomes a text: the next run repeats the last one. -/
theorem run_ignores_texts_twoResources :
    ∃ first second next last,
      (new.afterAll [.run (twoResources none none) .never, .reload]).run
        (twoResources (some "a") none) .never = (.ok first, next) ∧
      next.run (twoResources (some "b") (some "")) .never = (.ok second, last) ∧
      second.Repeats first ∧
      (twoResources (some "a") none).planned.entries.length = 1 ∧
      (new.run (twoResources (some "b") (some "")) .never).1.map Outcome.apartFromTexts =
        (new.run (twoResources (some "a") none) .never).1.map Outcome.apartFromTexts ∧
      (new.run (twoResources (some "a") none).ordinary .never).1.map Outcome.artifacts =
        (new.run (twoResources (some "a") none) .never).1.map Outcome.artifacts := by
  have same : (twoResources (some "a") none).withoutTexts =
      (twoResources (some "b") (some "")).withoutTexts := rfl
  obtain ⟨news, repeats, ordinary, -⟩ := run_ignores_texts rfl same
  obtain ⟨first, ran⟩ := run_never
    (new.afterAll [.run (twoResources none none) .never, .reload]) (twoResources (some "a") none)
  obtain ⟨second, again⟩ := run_never ⟨first.state⟩ (twoResources (some "b") (some ""))
  exact ⟨first, second, _, _, ran, again, repeats _ _ _ _ _ _ _ ran again, by decide +kernel,
    news .never, ordinary .never⟩

end Generator

end ResourceAccessors.Generation
