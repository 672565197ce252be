import ResourceAccessors.Proofs.Generation.Embedding
import ResourceAccessors.Proofs.Generation.Pass
import ResourceAccessors.Proofs.Generation.Spelling

/-!
# Sound states

In a sound state every stored output is the output of its stored input, up to the spelling of paths.
Every pass keeps this. A settled state holds no path in two spellings that could reach the manifest;
passes over collected files keep that.
-/

namespace ResourceAccessors.Generation

open Spelled

/-- Every site is found in the file that has the key. -/
def FiledUnder (key : String) (sites : List Declaration.Site) : Prop :=
  ∀ site ∈ sites, slashed site.sourceFile = key

/-- Every stored output is the output of its stored input. -/
structure State.Sound (state : State) : Prop where
  extraction : Step.Sound SourceFile.sites state.extraction
  plans : Step.Sound PlanInput.plan state.plans
  artifacts : Step.Sound Render.accessors state.artifacts
  /-- The manifest is made from an input that is equal to the stored one. -/
  manifest : ∀ entry ∈ state.manifest.entries,
    ∃ input, plain input = plain entry.2.input ∧ entry.2.output = input.artifacts
  filed : ∀ entry ∈ state.extraction.entries, FiledUnder entry.1 entry.2.output

/-- An input as the files of a project give it: every path that can be embedded is normal. -/
structure Input.Collected (input : Input) : Prop where
  files : ∀ file ∈ input.files, ∃ path text, file = .make path text
  embedded : ∀ paths ∈ input.embedded, ∀ path ∈ paths, path.normal = path

/-- Every file of an input was made from a path and a content. -/
def Input.FilesMade (input : Input) : Prop :=
  ∀ file ∈ input.files, ∃ path text, file = .make path text

/-- The candidates of a plan are written in their shortest spelling. -/
def Plan.Settled (plan : Plan) : Prop :=
  ∀ property ∈ plan.properties, property.candidate.path.plain = property.candidate.path

/-- The stored plans are settled. -/
def State.PlansSettled (state : State) : Prop :=
  ∀ entry ∈ state.plans.entries, entry.2.output.Settled

/-- No path that can be embedded has a second spelling. -/
structure State.Settled (state : State) : Prop where
  plans : ∀ entry ∈ state.plans.entries, entry.2.output.Settled
  manifest : ∀ entry ∈ state.manifest.entries,
    (∀ file ∈ entry.2.input.files, plain file = file) ∧
      entry.2.output = entry.2.input.artifacts

/-! ### The first state -/

/-- A state without records is sound. -/
theorem State.sound_empty : State.empty.Sound where
  extraction _ mem := absurd mem List.not_mem_nil
  plans _ mem := absurd mem List.not_mem_nil
  artifacts _ mem := absurd mem List.not_mem_nil
  manifest _ mem := absurd mem List.not_mem_nil
  filed _ mem := absurd mem List.not_mem_nil

/-- A state without records is settled. -/
theorem State.settled_empty : State.empty.Settled where
  plans _ mem := absurd mem List.not_mem_nil
  manifest _ mem := absurd mem List.not_mem_nil

/-! ### Every pass keeps states sound -/

variable {previous : State} {input : Input} {outcome : Outcome}

/-- The manifest that a pass leaves is made from an input that is equal to the stored one. -/
theorem Steps.sound_manifest (steps : Steps previous input outcome) (sound : previous.Sound) :
    ∀ entry ∈ outcome.state.manifest.entries,
      ∃ input, plain input = plain entry.2.input ∧ entry.2.output = input.artifacts := by
  intro entry mem
  rw [steps.manifest] at mem
  obtain ⟨item, -, rfl⟩ := Step.exists_of_mem_recordsOf mem
  rcases Step.outputFor_cases ManifestInput.artifacts previous.manifest item.1 item.2 with
    new | ⟨record, stored, same, kept⟩
  · exact ⟨item.2, rfl, new⟩
  · obtain ⟨given, agrees, written⟩ := sound.manifest _ stored
    exact ⟨given, agrees.trans ((beq_iff _ _).1 same), kept.trans written⟩

/-- The text for a plan is that of its artifact, whether it is reused or not. -/
theorem State.Sound.outputFor_accessors (sound : previous.Sound) (name : String) (plan : Plan) :
    (Step.outputFor Render.accessors (previous.artifacts.find? name) plan).1 =
      Render.accessors plan := by
  have made := Step.plain_outputFor respects_accessors sound.artifacts name plan
  rwa [plain_string, plain_string] at made

/-- A pass stores every site under the name of its file. -/
theorem Steps.filed (steps : Steps previous input outcome) (sound : previous.Sound) :
    ∀ entry ∈ outcome.state.extraction.entries, FiledUnder entry.1 entry.2.output := by
  have computed : ∀ item ∈ extractionItems input.sources,
      FiledUnder item.1 (SourceFile.sites item.2) := by
    intro item itemMem site siteMem
    obtain ⟨source, -, same⟩ := List.mem_map.1 itemMem
    rw [sourceFile_of_mem_sites siteMem, ← same]
  intro entry mem
  rw [steps.extraction] at mem
  exact Step.output_of_mem_recordsOf FiledUnder sound.filed computed mem

/-- A pass leaves a sound state. -/
theorem Steps.sound (steps : Steps previous input outcome) (sound : previous.Sound) :
    outcome.state.Sound := by
  refine ⟨?_, ?_, ?_, steps.sound_manifest sound, steps.filed sound⟩
  · rw [steps.extraction]
    exact Step.sound_recordsOf respects_sites sound.extraction _
  · rw [steps.plans]
    exact Step.sound_recordsOf respects_plan sound.plans _
  · rw [steps.written]
    exact Step.sound_recordsOf respects_accessors sound.artifacts _

/-- The artifacts of a pass are those of the types, then the manifest and the index of an input that
is equal to the one of the pass. -/
theorem Steps.exists_manifest (steps : Steps previous input outcome) (sound : previous.Sound) :
    ∃ given, plain given = plain (outcome.manifestInput input) ∧
      outcome.artifacts = outcome.siteArtifacts ++ given.artifacts := by
  obtain ⟨output, entries⟩ := steps.manifest_entries
  have mem : (manifestKey, ⟨outcome.manifestInput input, output⟩) ∈
      outcome.state.manifest.entries := by
    rw [entries]
    exact List.mem_singleton_self _
  obtain ⟨given, agrees, written⟩ := steps.sound_manifest sound _ mem
  have listed : output = given.artifacts := written
  refine ⟨given, agrees, ?_⟩
  rw [steps.artifacts, outputs, Keyed.values, entries]
  simp [listed]

/-- The artifacts of a pass are those of the types, then the manifest and the index of the types. -/
theorem Steps.exists_artifacts (steps : Steps previous input outcome) (sound : previous.Sound) :
    ∃ text, outcome.artifacts = outcome.siteArtifacts ++
      [⟨Artifact.manifestName, text⟩,
        ⟨Artifact.indexName, Render.index outcome.state.artifacts.keys⟩] := by
  obtain ⟨given, agrees, artifacts⟩ := steps.exists_manifest sound
  have names : given.artifactNames = outcome.state.artifacts.keys :=
    congrArg ManifestInput.artifactNames agrees
  rw [artifacts, ManifestInput.artifacts, names]
  exact ⟨_, rfl⟩

/-! ### Passes over collected files keep states settled -/

/-- The plan of a declaration is settled when the files were made. -/
theorem Input.FilesMade.settled_plan (made : input.FilesMade) (site : Declaration.Site) :
    (planInput input site).plan.Settled := by
  intro property mem
  obtain ⟨file, fileMem, same⟩ := exists_file_of_mem_plan mem
  obtain ⟨path, text, rfl⟩ := made file (mem_filesIn.1 fileMem).1
  rw [same]
  exact path.plain_normal

/-- The plans of a pass over files that were made are settled. -/
theorem Steps.settled_plans (steps : Steps previous input outcome) (made : input.FilesMade)
    (settled : previous.PlansSettled) : outcome.state.PlansSettled := by
  have computed : ∀ item ∈ planItems input outcome.sites, item.2.plan.Settled := by
    intro item itemMem
    obtain ⟨site, -, given⟩ := exists_site_of_mem_planItems itemMem
    rw [given]
    exact made.settled_plan site
  intro entry mem
  rw [steps.plans] at mem
  exact Step.output_of_mem_recordsOf (fun _ => Plan.Settled) settled computed mem

/-- The embedded files of a pass have no second spelling. -/
theorem Steps.plain_embedded (steps : Steps previous input outcome) (collected : input.Collected)
    (settled : previous.Settled) {file : Render.EmbeddedFile}
    (mem : file ∈ embeddedFiles input outcome.plans) : plain file = file := by
  have path : file.path.plain = file.path := by
    have wanted := mem_wantedFiles_of_mem mem
    rw [wantedFiles] at wanted
    cases configured : input.embedded with
    | some paths =>
      rw [configured] at wanted
      obtain ⟨path, pathMem, rfl⟩ := List.mem_map.1 wanted
      exact FilePath.plain_of_normal (collected.embedded paths configured path pathMem)
    | none =>
      rw [configured] at wanted
      obtain ⟨property, propertyMem, rfl⟩ := List.mem_map.1 wanted
      obtain ⟨entry, entryMem, among⟩ := Outcome.mem_properties_iff.1 propertyMem
      exact steps.settled_plans collected.files settled.plans entry entryMem property among
  simp [path]

/-- A pass over collected files leaves a settled state. -/
theorem Steps.settled (steps : Steps previous input outcome) (collected : input.Collected)
    (settled : previous.Settled) : outcome.state.Settled where
  plans := steps.settled_plans collected.files settled.plans
  manifest := by
    intro entry mem
    rw [steps.manifest] at mem
    obtain ⟨item, itemMem, rfl⟩ := Step.exists_of_mem_recordsOf mem
    obtain rfl := List.mem_singleton.1 itemMem
    have plainFiles : ∀ file ∈ embeddedFiles input outcome.plans, plain file = file :=
      fun file fileMem => steps.plain_embedded collected settled fileMem
    refine ⟨plainFiles, ?_⟩
    rcases Step.outputFor_cases ManifestInput.artifacts previous.manifest manifestKey
      (outcome.manifestInput input) with new | ⟨record, stored, same, kept⟩
    · exact new
    · obtain ⟨recordPlain, written⟩ := settled.manifest _ stored
      refine kept.trans (written.trans ?_)
      exact artifacts_of_plain ((beq_iff _ _).1 same) recordPlain plainFiles

/-- A pass over collected files leaves the manifest and the index for its input. -/
theorem Steps.settled_manifest (steps : Steps previous input outcome) (collected : input.Collected)
    (settled : previous.Settled) : outcome.state.manifest.entries =
      [(manifestKey, ⟨outcome.manifestInput input, (outcome.manifestInput input).artifacts⟩)] := by
  obtain ⟨output, entries⟩ := steps.manifest_entries
  have mem : (manifestKey, ⟨outcome.manifestInput input, output⟩) ∈
      outcome.state.manifest.entries := by
    rw [entries]
    exact List.mem_singleton_self _
  have written : output = (outcome.manifestInput input).artifacts :=
    ((steps.settled collected settled).manifest _ mem).2
  rw [entries, written]

/-! ### Every history keeps states sound -/

namespace Generator

/-- After every history the state of a generator is sound. -/
theorem sound_afterAll (events : List Event) : (new.afterAll events).state.Sound :=
  invariant_afterAll (fun sound _ steps => steps.sound sound) State.sound_empty
    fun _ _ => trivial

/-- After a history of files that were made the plans of a generator are settled. -/
theorem settled_plans_afterAll {events : List Event}
    (inputs : ∀ input ∈ new.succeeded events, input.FilesMade) :
    (new.afterAll events).state.PlansSettled :=
  invariant_afterAll (fun settled made steps => steps.settled_plans made settled)
    State.settled_empty.plans inputs

/-- After a history of collected inputs the state of a generator is settled. -/
theorem settled_afterAll {events : List Event}
    (inputs : ∀ input ∈ new.succeeded events, input.Collected) :
    (new.afterAll events).state.Settled :=
  invariant_afterAll (fun settled collected steps => steps.settled collected settled)
    State.settled_empty inputs

end Generator

end ResourceAccessors.Generation
