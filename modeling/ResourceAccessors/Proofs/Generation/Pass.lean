import ResourceAccessors.Generation.Generator
import ResourceAccessors.Proofs.Generation.Claim
import ResourceAccessors.Proofs.Generation.Step
import ResourceAccessors.Proofs.Stored.RoundTrip

/-!
# What a pass leaves behind

A pass that succeeds is described by the records of its four steps; everything it gives is read off
these. A pass asks once for each item of a step whether to go on, and what it gives does not depend on
the answers, unless one of them cancels it. What holds of the state before the first pass, and is kept
by every pass, holds of a generator after every history.
-/

namespace ResourceAccessors.Generation

namespace Outcome

/-- The declarations that a pass found. -/
def sites (outcome : Outcome) : List Declaration.Site :=
  (outputs outcome.state.extraction).flatten

/-- The plans that a pass made. -/
def plans (outcome : Outcome) : List Plan :=
  outputs outcome.state.plans

/-- The accessors of a pass. -/
def properties (outcome : Outcome) : List Property :=
  outcome.plans.flatMap Plan.properties

/-- What the manifest of a pass is made from. -/
def manifestInput (outcome : Outcome) (input : Input) : ManifestInput :=
  ⟨embeddedFiles input outcome.plans, input.options.projectDir, outcome.state.artifacts.keys⟩

/-- The artifacts of the types, in the order of their names. -/
def siteArtifacts (outcome : Outcome) : List Artifact :=
  outcome.state.artifacts.entries.map fun (name, record) => ⟨name, record.output⟩

/-- The artifacts of the types are the outputs under their names. -/
theorem mem_siteArtifacts_iff {outcome : Outcome} {name text : String} :
    ⟨name, text⟩ ∈ outcome.siteArtifacts ↔
      ∃ record, outcome.state.artifacts.find? name = some record ∧ record.output = text := by
  simp only [siteArtifacts, List.mem_map, Keyed.find?_eq_some_iff, Prod.exists, Artifact.mk.injEq]
  grind

/-- What is found under a name is given out as an artifact. -/
theorem mem_siteArtifacts (outcome : Outcome) {name : String} {plan : Plan} {text : String}
    (found : outcome.state.artifacts.find? name = some ⟨plan, text⟩) :
    ⟨name, text⟩ ∈ outcome.siteArtifacts :=
  mem_siteArtifacts_iff.2 ⟨_, found, rfl⟩

/-- The names of the artifacts of the types. -/
theorem names_siteArtifacts (outcome : Outcome) :
    outcome.siteArtifacts.map Artifact.name = outcome.state.artifacts.keys := by
  simp [siteArtifacts, Keyed.keys, Function.comp_def]

/-- The plans are the outputs of their entries. -/
theorem mem_plans_iff {outcome : Outcome} {plan : Plan} :
    plan ∈ outcome.plans ↔ ∃ entry ∈ outcome.state.plans.entries, entry.2.output = plan := by
  rw [plans, outputs, Keyed.values, List.map_map, List.mem_map]
  rfl

/-- The accessors are those of the plans in the entries. -/
theorem mem_properties_iff {outcome : Outcome} {property : Property} :
    property ∈ outcome.properties ↔
      ∃ entry ∈ outcome.state.plans.entries, property ∈ entry.2.output.properties := by
  rw [properties, List.mem_flatMap]
  constructor
  · rintro ⟨plan, planMem, mem⟩
    obtain ⟨entry, entryMem, rfl⟩ := mem_plans_iff.1 planMem
    exact ⟨entry, entryMem, mem⟩
  · rintro ⟨entry, entryMem, mem⟩
    exact ⟨entry.2.output, mem_plans_iff.2 ⟨entry, entryMem, rfl⟩, mem⟩

end Outcome

/-- Every planned item is made from a declaration. -/
theorem exists_site_of_mem_planItems {input : Input} {sites : List Declaration.Site}
    {item : String × PlanInput} (mem : item ∈ planItems input sites) :
    ∃ site ∈ sites, item.2 = planInput input site := by
  obtain ⟨site, siteMem, given⟩ := List.mem_map.1 (List.of_mem_zip mem).2
  exact ⟨site, siteMem, given.symm⟩

/-- Every accessor of a plan has the candidate of a file. -/
theorem exists_file_of_mem_plan {input : PlanInput} {property : Property}
    (mem : property ∈ input.plan.properties) :
    ∃ file ∈ input.files,
      property.candidate = Resource.Candidate.ofFile input.options file := by
  obtain ⟨candidate, chosen, rfl⟩ := List.mem_map.1 mem
  obtain ⟨file, selected, rfl⟩ := List.mem_map.1 (List.mem_mergeSort.1 chosen)
  exact ⟨file, (List.mem_filter.1 selected).1, rfl⟩

/-! ### One pass -/

/-- What a pass that succeeds leaves behind and gives. -/
structure Steps (previous : State) (input : Input) (outcome : Outcome) : Prop where
  extraction : outcome.state.extraction =
    Step.recordsOf SourceFile.sites previous.extraction (extractionItems input.sources)
  plans : outcome.state.plans =
    Step.recordsOf PlanInput.plan previous.plans (planItems input outcome.sites)
  written : outcome.state.artifacts =
    Step.recordsOf Render.accessors previous.artifacts (artifactItems outcome.plans)
  manifest : outcome.state.manifest =
    Step.recordsOf ManifestInput.artifacts previous.manifest
      [(manifestKey, outcome.manifestInput input)]
  artifacts : outcome.artifacts =
    outcome.siteArtifacts ++ (outputs outcome.state.manifest).flatten
  diagnostics : outcome.diagnostics =
    Diagnostic.collect outcome.plans (embeddedFiles input outcome.plans)
  searchPaths : outcome.searchPaths =
    FilePath.ascending (outcome.sites.map (·.searchPath input.options.projectDir))
  embedded : outcome.embedded =
    (embeddedFiles input outcome.plans).map Render.EmbeddedFile.path
  tracked : outcome.tracked =
    { extraction :=
        Step.reasonsOf SourceFile.sites previous.extraction (extractionItems input.sources)
      plans := Step.reasonsOf PlanInput.plan previous.plans (planItems input outcome.sites)
      artifacts := Step.reasonsOf Render.accessors previous.artifacts (artifactItems outcome.plans)
      manifest := Step.reasonsOf ManifestInput.artifacts previous.manifest
        [(manifestKey, outcome.manifestInput input)] }

/-- How many times a pass asks whether to go on: for every source, every declaration and every plan,
and for the manifest. -/
def Outcome.questions (outcome : Outcome) (input : Input) : Nat :=
  input.sources.length + (outcome.sites.length + (outcome.plans.length + 1))

/-- There is one item for each declaration. -/
theorem length_planItems (input : Input) (sites : List Declaration.Site) :
    (planItems input sites).length = sites.length := by
  simp [planItems]

/-- There is one item for each plan. -/
theorem length_artifactItems (plans : List Plan) : (artifactItems plans).length = plans.length := by
  simp [artifactItems]

/-- A pass makes its four steps, unless it is cancelled at one of its questions; what it gives does
not depend on when it may be cancelled. -/
theorem exists_pass_eq (previous : State) (input : Input) :
    ∃ outcome, Steps previous input outcome ∧ ∀ token, pass previous input token =
      (token.spend (outcome.questions input)).map fun rest => (outcome, rest) := by
  obtain ⟨extraction, found, foundReasons, extracted⟩ :=
    Step.exists_run_eq SourceFile.sites previous.extraction (extractionItems input.sources)
  obtain ⟨planned, plans, planReasons, plansMade⟩ :=
    Step.exists_run_eq PlanInput.plan previous.plans
      (planItems input (outputs extraction.records).flatten)
  obtain ⟨written, artifactsWritten, artifactReasons, artifactsMade⟩ :=
    Step.exists_run_eq Render.accessors previous.artifacts
      (artifactItems (outputs planned.records))
  obtain ⟨manifest, manifests, manifestReasons, manifestMade⟩ :=
    Step.exists_run_eq ManifestInput.artifacts previous.manifest
      [(manifestKey, ⟨embeddedFiles input (outputs planned.records), input.options.projectDir,
        written.records.keys⟩)]
  let artifacts : List Artifact :=
    written.records.entries.map fun (name, record) => ⟨name, record.output⟩
  let embedded := embeddedFiles input (outputs planned.records)
  refine ⟨{
    artifacts := artifacts ++ (outputs manifest.records).flatten
    diagnostics := Diagnostic.collect (outputs planned.records) embedded
    tracked := ⟨extraction.reasons, planned.reasons, written.reasons, manifest.reasons⟩
    searchPaths := FilePath.ascending
      ((outputs extraction.records).flatten.map (·.searchPath input.options.projectDir))
    embedded := embedded.map Render.EmbeddedFile.path
    state := ⟨extraction.records, planned.records, written.records, manifest.records⟩ },
    ?steps, fun token => ?passed⟩
  case steps =>
    exact {
      extraction := found
      plans := plans
      written := artifactsWritten
      manifest := manifests
      artifacts := rfl
      diagnostics := rfl
      searchPaths := rfl
      embedded := rfl
      tracked := congr (congr (congr (congrArg Tracked.mk foundReasons) planReasons)
        artifactReasons) manifestReasons }
  case passed =>
    have sources : (extractionItems input.sources).length = input.sources.length :=
      List.length_map _
    simp only [pass, extracted, plansMade, artifactsMade, manifestMade, Outcome.questions,
      Outcome.sites, Outcome.plans, Cancellation.spend_add, Step.map_bind, Step.bind_map,
      length_planItems, length_artifactItems, sources]
    rfl

/-- A pass that succeeds has made its four steps. -/
theorem steps_of_pass {previous : State} {input : Input} {token rest : Cancellation}
    {outcome : Outcome} (passed : pass previous input token = .ok (outcome, rest)) :
    Steps previous input outcome := by
  obtain ⟨made, steps, same⟩ := exists_pass_eq previous input
  rw [same] at passed
  cases spent : token.spend (made.questions input) with
  | error failure =>
    rw [spent] at passed
    cases passed
  | ok left =>
    rw [spent] at passed
    cases passed
    exact steps

/-- The last step leaves one record. -/
theorem Steps.manifest_entries {previous : State} {input : Input} {outcome : Outcome}
    (steps : Steps previous input outcome) :
    ∃ output, outcome.state.manifest.entries =
      [(manifestKey, ⟨outcome.manifestInput input, output⟩)] := by
  rw [steps.manifest]
  exact ⟨_, rfl⟩

/-- The record that the last step leaves is found under its key. -/
theorem Steps.find?_manifest {previous : State} {input : Input} {outcome : Outcome}
    (steps : Steps previous input outcome) :
    ∃ output, outcome.state.manifest.entries =
        [(manifestKey, ⟨outcome.manifestInput input, output⟩)] ∧
      outcome.state.manifest.find? manifestKey =
        some ⟨outcome.manifestInput input, output⟩ := by
  obtain ⟨output, entries⟩ := steps.manifest_entries
  refine ⟨output, entries, Keyed.find?_eq_some_iff.2 ?_⟩
  rw [entries]
  exact List.mem_singleton_self _

/-- A pass that is never cancelled succeeds. -/
theorem pass_never (previous : State) (input : Input) :
    ∃ outcome, pass previous input .never = .ok (outcome, .never) := by
  obtain ⟨outcome, -, passed⟩ := exists_pass_eq previous input
  refine ⟨outcome, ?_⟩
  rw [passed, Cancellation.spend_never]
  rfl

/-! ### Histories -/

namespace Generator

variable {generator next : Generator} {input : Input} {token : Cancellation}

/-- A run that succeeds is a pass from the state of the generator. -/
theorem steps_of_run {outcome : Outcome} (ran : generator.run input token = (.ok outcome, next)) :
    Steps generator.state input outcome ∧ next.state = outcome.state := by
  rw [run] at ran
  cases passed : pass generator.state input token with
  | error failure =>
    rw [passed] at ran
    cases ran
  | ok result =>
    obtain ⟨made, rest⟩ := result
    rw [passed] at ran
    cases ran
    exact ⟨steps_of_pass passed, rfl⟩

/-- A run that is never cancelled succeeds. -/
theorem run_never (generator : Generator) (input : Input) :
    ∃ outcome, generator.run input .never = (.ok outcome, ⟨outcome.state⟩) := by
  obtain ⟨outcome, passed⟩ := pass_never generator.state input
  refine ⟨outcome, ?_⟩
  rw [run, passed]

/-- What a run gives does not depend on when it may be cancelled, unless it is. -/
theorem exists_run_eq (generator : Generator) (input : Input) :
    ∃ outcome, Steps generator.state input outcome ∧ ∀ token,
      (generator.run input token).1 =
        (token.spend (outcome.questions input)).map fun _ => outcome := by
  obtain ⟨outcome, steps, passed⟩ := exists_pass_eq generator.state input
  refine ⟨outcome, steps, fun token => ?_⟩
  rw [run, passed]
  cases token.spend (outcome.questions input) <;> rfl

/-- A run that does not succeed changes nothing. -/
theorem eq_of_run_error {failure : Failure}
    (ran : generator.run input token = (.error failure, next)) : next = generator := by
  rw [run] at ran
  cases passed : pass generator.state input token with
  | error failure =>
    rw [passed] at ran
    cases ran
    rfl
  | ok result =>
    rw [passed] at ran
    cases ran

/-- Reloading changes nothing. -/
theorem reload_eq (generator : Generator) : generator.reload = generator := by
  unfold reload
  dsimp only
  rw [Stored.bind_state_parse?_print]
  rfl

/-- Without events a generator stays as it is. -/
@[simp]
theorem afterAll_nil (generator : Generator) : generator.afterAll [] = generator := rfl

/-- What follows an event starts from the generator that it leaves. -/
@[simp]
theorem afterAll_cons (generator : Generator) (event : Event) (rest : List Event) :
    generator.afterAll (event :: rest) = (generator.after event).afterAll rest := rfl

/-- A reload leaves the generator as it was: its state reads back as it was written. -/
@[simp]
theorem after_reload (generator : Generator) : generator.after .reload = generator := by
  rw [after, reload_eq]

/-- A reload has no input that a run succeeded on. -/
@[simp]
theorem succeeded_reload (generator : Generator) (rest : List Event) :
    generator.succeeded (.reload :: rest) = generator.succeeded rest := by
  rw [succeeded, reload_eq]

/-- What succeeds was run. -/
theorem exists_run_of_mem_succeeded {events : List Event}
    (mem : input ∈ generator.succeeded events) : ∃ token, .run input token ∈ events := by
  induction events generalizing generator with
  | nil => cases mem
  | cons event rest inductionHypothesis =>
    cases event with
    | reload =>
      rw [succeeded_reload] at mem
      obtain ⟨token, ran⟩ := inductionHypothesis mem
      exact ⟨token, List.mem_cons_of_mem _ ran⟩
    | run given token =>
      rw [succeeded] at mem
      cases ran : generator.run given token with
      | mk result next =>
        rw [ran] at mem
        cases result with
        | error failure =>
          obtain ⟨token, later⟩ := inductionHypothesis mem
          exact ⟨token, List.mem_cons_of_mem _ later⟩
        | ok outcome =>
          rcases List.mem_cons.1 mem with rfl | later
          · exact ⟨token, List.mem_cons_self⟩
          · obtain ⟨token, later⟩ := inductionHypothesis later
            exact ⟨token, List.mem_cons_of_mem _ later⟩

/-- What holds of the first state and is kept by every pass that succeeds holds after every
history. -/
theorem invariant_afterAll {holds : State → Prop} {allowed : Input → Prop}
    (preserved : ∀ {previous input outcome}, holds previous → allowed input →
      Steps previous input outcome → holds outcome.state)
    {events : List Event} (start : holds generator.state)
    (inputs : ∀ input ∈ generator.succeeded events, allowed input) :
    holds (generator.afterAll events).state := by
  induction events generalizing generator with
  | nil => exact start
  | cons event rest inductionHypothesis =>
    cases event with
    | reload =>
      rw [succeeded_reload] at inputs
      rw [afterAll_cons, after_reload]
      exact inductionHypothesis start inputs
    | run input token =>
      rw [afterAll_cons, after]
      rw [succeeded] at inputs
      cases ran : generator.run input token with
      | mk result next =>
        rw [ran] at inputs
        cases result with
        | error failure =>
          rw [eq_of_run_error ran] at inputs ⊢
          exact inductionHypothesis start inputs
        | ok outcome =>
          obtain ⟨steps, same⟩ := steps_of_run ran
          refine inductionHypothesis ?_ fun other mem => inputs other (List.mem_cons_of_mem _ mem)
          rw [same]
          exact preserved start (inputs input List.mem_cons_self) steps

/-- Events among which no run succeeds change nothing. -/
theorem afterAll_of_succeeded {events : List Event}
    (quiet : generator.succeeded events = []) : generator.afterAll events = generator := by
  let isKept : State → Prop := fun state => state = generator.state
  have kept : isKept (generator.afterAll events).state := by
    refine invariant_afterAll (fun _ allowed _ => False.elim allowed) rfl fun input mem => ?_
    rw [quiet] at mem
    cases mem
  exact congrArg Generator.mk kept

end Generator

end ResourceAccessors.Generation
