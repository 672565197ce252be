import ResourceAccessors.Proofs.Embedded.Manifest
import ResourceAccessors.Proofs.Generation.Ownership
import ResourceAccessors.Proofs.Text.ByteOrder

/-!
# What the diagnostics say about reading

The files that a pass lists are compiled into the crate with their content, in the order of their
identities, and read there by bisection. An identity is not found there exactly when the accessor with
it is reported to miss its file. An accessor that reads its own file gets the text that the pass saw,
and none exactly when the file is reported to hold no text.
-/

namespace ResourceAccessors.Generation

open Render (EmbeddedFile)
open Spelled

/-- What the files of a project hold, by the components of their paths. -/
abbrev Content :=
  List FilePath.Component → ByteArray

/-- Every file of a pass is offered with the content at its path. -/
def Input.Holds (input : Input) (content : Content) : Prop :=
  ∀ file ∈ input.files, ∃ path : FilePath,
    file = Resource.File.ofBytes path (content path.normal.components)

/-- The listed files as they are compiled into the crate. -/
def Outcome.compiled (outcome : Outcome) (content : Content) : Embedded.Manifest :=
  ⟨(outcome.listed.map fun file => ⟨file.resourceName, content file.path.components⟩).toArray⟩

/-- The problems that a pass reports of an accessor of a plan. -/
def Outcome.problems (outcome : Outcome) (plan : Plan) (property : Property) : List Diagnostic :=
  Diagnostic.ofProperty plan.site.display (outcome.listed.map EmbeddedFile.resourceName) property

/-- The manifest lists the file of an accessor under its identity. -/
def Outcome.ListsOwn (outcome : Outcome) (property : Property) : Prop :=
  ∃ file ∈ outcome.listed, file.resourceName = property.candidate.resourceName ∧
    (file.path == property.candidate.path) = true

/-- What is read in the crate is what the diagnostics of a pass say. -/
structure Outcome.Predicts (outcome : Outcome) (content : Content) : Prop where
  /-- The manifest that is written lists the files in this order. -/
  written : ∃ files projectDir, (files == outcome.listed) = true ∧
    ⟨Artifact.manifestName, Render.manifest files projectDir⟩ ∈ outcome.artifacts
  ascending : (outcome.compiled content).names.Pairwise fun left right =>
    Text.bytes left < Text.bytes right
  found_iff : ∀ name,
    ((outcome.compiled content).find? name).isSome ↔ name ∈ (outcome.compiled content).names
  finds : ∀ name entry, (outcome.compiled content).find? name = some entry ↔
    entry ∈ (outcome.compiled content).entries ∧ entry.name = name
  /-- The problems of every accessor are reported, each with those of its plan. -/
  reported : outcome.diagnostics = outcome.plans.flatMap fun plan =>
    (if plan.site.isReachable then [] else [.unreachableType plan.site.display]) ++
      plan.properties.flatMap (outcome.problems plan) ++
      Diagnostic.duplicates plan.site.display plan.properties
  notFound_iff : ∀ plan ∈ outcome.plans, ∀ property ∈ plan.properties,
    (outcome.compiled content).read property.candidate.resourceName =
        .error (.notFound property.candidate.resourceName) ↔
      .resourceNotEmbedded plan.site.display property.candidate.resourceName ∈
        outcome.problems plan property
  readsText : ∀ property ∈ outcome.properties, outcome.ListsOwn property →
    ∀ text, property.candidate.text = some text →
      (outcome.compiled content).read property.candidate.resourceName = .ok text
  notText_iff : ∀ plan ∈ outcome.plans, ∀ property ∈ plan.properties, outcome.ListsOwn property →
    ((outcome.compiled content).read property.candidate.resourceName =
        .error (.notText property.candidate.resourceName) ↔
      .resourceNotText plan.site.display property.candidate.fileName ∈
        outcome.problems plan property)

/-! ### Problems of an accessor -/

/-- An accessor is reported to miss its file when no listed file has its identity. -/
theorem Outcome.resourceNotEmbedded_mem_problems {outcome : Outcome} {plan : Plan}
    {property : Property} {name : String} :
    .resourceNotEmbedded plan.site.display name ∈ outcome.problems plan property ↔
      name = property.candidate.resourceName ∧
        property.candidate.resourceName ∉ outcome.listed.map EmbeddedFile.resourceName := by
  rw [problems, Diagnostic.ofProperty, List.mem_append]
  by_cases embedded : property.candidate.resourceName ∈
      outcome.listed.map EmbeddedFile.resourceName
  · rw [if_pos embedded]
    cases property.candidate.text <;> simp [embedded]
  · rw [if_neg embedded]
    cases property.candidate.text <;> simp [embedded]

/-- The file of an accessor is reported to hold no text when none was seen. -/
theorem Outcome.resourceNotText_mem_problems {outcome : Outcome} {plan : Plan}
    {property : Property} :
    .resourceNotText plan.site.display property.candidate.fileName ∈
      outcome.problems plan property ↔ property.candidate.text = none := by
  rw [problems, Diagnostic.ofProperty, List.mem_append]
  by_cases embedded : property.candidate.resourceName ∈
      outcome.listed.map EmbeddedFile.resourceName
  · rw [if_pos embedded]
    cases property.candidate.text <;> simp
  · rw [if_neg embedded]
    cases property.candidate.text <;> simp

section Pass

variable {previous : State} {input : Input} {outcome : Outcome} {content : Content}

/-- The diagnostics of a pass are the problems of its plans and accessors. -/
theorem Steps.reported (steps : Steps previous input outcome) :
    outcome.diagnostics = outcome.plans.flatMap fun plan =>
      (if plan.site.isReachable then [] else [.unreachableType plan.site.display]) ++
        plan.properties.flatMap (outcome.problems plan) ++
        Diagnostic.duplicates plan.site.display plan.properties := by
  rw [steps.diagnostics, ← steps.listed_eq]
  rfl

/-- An accessor of a plan is one of the pass. -/
theorem Outcome.mem_properties {plan : Plan} (planMem : plan ∈ outcome.plans) {property : Property}
    (mem : property ∈ plan.properties) : property ∈ outcome.properties :=
  List.mem_flatMap.2 ⟨plan, planMem, mem⟩

/-- The compiled files have the identities of the listed ones. -/
theorem Outcome.names_compiled (outcome : Outcome) (content : Content) :
    (outcome.compiled content).names = outcome.listed.map EmbeddedFile.resourceName := by
  rw [Embedded.Manifest.names, compiled, List.map_map]
  rfl

/-- The names of the compiled files ascend. -/
theorem Steps.ascending_compiled (steps : Steps previous input outcome) (content : Content) :
    (outcome.compiled content).Ascending := by
  rw [Embedded.Manifest.Ascending, Outcome.names_compiled, steps.listed_eq, List.pairwise_map]
  exact pairwise_embeddedFiles input outcome.plans

/-- The candidate of an accessor has the text of the content at its path. -/
theorem Steps.text_candidate (steps : Steps previous input outcome) (sound : previous.Sound)
    (holds : input.Holds content) {property : Property} (mem : property ∈ outcome.properties) :
    property.candidate.text = Text.decode? (content property.candidate.path.components) := by
  obtain ⟨file, fileMem, same⟩ := steps.exists_selected sound mem
  obtain ⟨path, rfl⟩ := holds file fileMem
  have text : property.candidate.text = Text.decode? (content path.normal.components) :=
    congrArg Resource.Candidate.text same
  have spelled : property.candidate.path.plain = path.normal.plain :=
    congrArg Resource.Candidate.path same
  rw [text, ← FilePath.components_plain property.candidate.path, spelled,
    FilePath.components_plain]

/-- An accessor whose own file is listed reads the text of its candidate, or none when this has
none. -/
theorem Steps.read_own (steps : Steps previous input outcome) (sound : previous.Sound)
    (holds : input.Holds content) {property : Property} (mem : property ∈ outcome.properties)
    (own : outcome.ListsOwn property) :
    (outcome.compiled content).read property.candidate.resourceName =
      match property.candidate.text with
      | none => .error (.notText property.candidate.resourceName)
      | some text => .ok text := by
  obtain ⟨file, listed, named, samePath⟩ := own
  have compiled : ⟨file.resourceName, content file.path.components⟩ ∈
      (outcome.compiled content).entries :=
    List.mem_toArray.2 (List.mem_map.2 ⟨file, listed, rfl⟩)
  have components : file.path.components = property.candidate.path.components :=
    (FilePath.beq_iff_components _ _).1 samePath
  have read := (steps.ascending_compiled content).read_eq compiled
  rw [components, ← steps.text_candidate sound holds mem, named] at read
  exact read

/-- The diagnostics of a pass over files with some content say what is read of this content. -/
theorem Steps.predicts (steps : Steps previous input outcome) (sound : previous.Sound)
    (holds : input.Holds content) : outcome.Predicts content := by
  have ascending := steps.ascending_compiled content
  have missing : ∀ plan ∈ outcome.plans, ∀ property ∈ plan.properties,
      ((outcome.compiled content).read property.candidate.resourceName =
          .error (.notFound property.candidate.resourceName) ↔
        .resourceNotEmbedded plan.site.display property.candidate.resourceName ∈
          outcome.problems plan property) := by
    intro plan _ property _
    rw [ascending.read_eq_notFound_iff, Outcome.names_compiled,
      Outcome.resourceNotEmbedded_mem_problems]
    simp
  constructor
  case written =>
    obtain ⟨given, agrees, artifacts⟩ := steps.exists_manifest sound
    refine ⟨given.files, given.projectDir, ?_, ?_⟩
    · rw [beq_iff, steps.listed_eq]
      exact congrArg ManifestInput.files agrees
    · rw [artifacts, ManifestInput.artifacts]
      exact List.mem_append_right _ List.mem_cons_self
  case ascending => exact ascending.imp Text.bytes_lt_iff.2
  case found_iff => exact fun name => ascending.isSome_find?_iff
  case finds => exact fun name entry => ascending.find?_eq_some_iff
  case reported => exact steps.reported
  case notFound_iff => exact missing
  case readsText =>
    intro property mem own text seen
    rw [steps.read_own sound holds mem own, seen]
  case notText_iff =>
    intro plan planMem property mem own
    rw [steps.read_own sound holds (Outcome.mem_properties planMem mem) own,
      Outcome.resourceNotText_mem_problems]
    cases property.candidate.text <;> simp

end Pass

namespace Generator

/-- For files with some content, the diagnostics of every run say what the accessors read of it. -/
theorem reads_predicted (events : List Event) {input : Input} {token : Cancellation}
    {outcome : Outcome} {next : Generator}
    (ran : (new.afterAll events).run input token = (.ok outcome, next)) {content : Content}
    (holds : input.Holds content) : outcome.Predicts content :=
  (steps_of_run ran).1.predicts (sound_afterAll events) holds

/-- A project with one marked type and one resource, which holds `bytes`. -/
def onlyBytes (bytes : ByteArray) : Input :=
  { onlyResource "" with files := [.ofBytes ⟨"/project/src/Notes/first.txt"⟩ bytes] }

/-- After a run on a text, the bytes of another file are found to hold none. -/
theorem reads_predicted_onlyBytes :
    ∃ outcome,
      (new.afterAll [.run (onlyBytes ⟨#[0x61]⟩) .never, .reload]).run (onlyBytes ⟨#[0xFF]⟩) .never =
        (.ok outcome, ⟨outcome.state⟩) ∧
      outcome.Predicts fun _ => ⟨#[0xFF]⟩ := by
  obtain ⟨outcome, ran⟩ := run_never
    (new.afterAll [.run (onlyBytes ⟨#[0x61]⟩) .never, .reload]) (onlyBytes ⟨#[0xFF]⟩)
  refine ⟨outcome, ran, reads_predicted [.run (onlyBytes ⟨#[0x61]⟩) .never, .reload] ran ?_⟩
  intro file mem
  exact ⟨_, List.mem_singleton.1 mem⟩

end Generator

end ResourceAccessors.Generation
