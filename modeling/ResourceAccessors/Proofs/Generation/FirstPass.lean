import ResourceAccessors.Proofs.Generation.Placement

/-!
# First passes

A pass from the first state computes everything. What it gives follows from the declarations under
their keys and from their plans; all outputs are new.
-/

namespace ResourceAccessors.Generation

/-- The sources under the keys of their files. -/
def Input.filed (input : Input) : Keyed SourceFile :=
  Keyed.ofList (extractionItems input.sources)

/-- The declarations are those of the sources as they are filed. -/
theorem Input.declared_eq (input : Input) :
    input.declared = input.filed.values.flatMap SourceFile.sites := rfl

/-- The declarations under the keys of their plans. -/
def Input.planned (input : Input) : Keyed Declaration.Site :=
  Keyed.ofList (input.planKeys.zip input.declared)

/-- The texts of the artifacts for some plans, under their names. -/
def writtenFor (plans : List Plan) : Keyed String :=
  (Keyed.ofList (artifactItems plans)).mapValues Render.accessors

/-- The texts of the artifacts follow from the names that the plans ask for and the artifact of each
plan. -/
theorem writtenFor_eq {one other : List Plan}
    (requests : one.map artifactRequest = other.map artifactRequest)
    (texts : one.map Render.accessors = other.map Render.accessors) :
    writtenFor one = writtenFor other := by
  rw [writtenFor, writtenFor, artifactItems, artifactItems, ← Keyed.ofList_zip_map Render.accessors,
    ← Keyed.ofList_zip_map Render.accessors, requests, texts]

/-- What the manifest of some plans is made from. -/
def Input.manifestFor (input : Input) (plans : List Plan) : ManifestInput :=
  ⟨embeddedFiles input plans, input.options.projectDir, (writtenFor plans).keys⟩

/-- The artifacts for some plans, in the order of their names, then the manifest and the index. -/
def Input.artifactsFor (input : Input) (plans : List Plan) : List Artifact :=
  ((writtenFor plans).entries.map fun (name, text) => ⟨name, text⟩) ++
    (input.manifestFor plans).artifacts

/-- What a first pass gives. -/
structure Outcome.IsFirst (outcome : Outcome) (input : Input) : Prop where
  sites : outcome.sites = input.declared
  plans : outcome.plans = input.planned.values.map fun site => (planInput input site).plan
  artifacts : outcome.artifacts = input.artifactsFor outcome.plans
  diagnostics : outcome.diagnostics =
    Diagnostic.collect outcome.plans (embeddedFiles input outcome.plans)
  searchPaths : outcome.searchPaths =
    FilePath.ascending (input.declared.map (·.searchPath input.options.projectDir))
  embedded : outcome.embedded =
    (embeddedFiles input outcome.plans).map Render.EmbeddedFile.path
  tracked : outcome.tracked =
    { extraction := input.filed.mapValues fun _ => .new
      plans := input.planned.mapValues fun _ => .new
      artifacts := (writtenFor outcome.plans).mapValues fun _ => .new
      manifest := Keyed.ofList [(manifestKey, .new)] }

variable {input : Input} {outcome : Outcome}

/-- The plans of a first pass are those of the declarations, under their keys. -/
theorem Steps.planItems_of_empty (steps : Steps .empty input outcome) :
    Keyed.ofList (planItems input outcome.sites) = input.planned.mapValues (planInput input) := by
  rw [sites_of_empty steps, planItems, Input.planned, Input.planKeys]
  exact Keyed.ofList_zip_map (planInput input) _ _

/-- The artifacts of a pass are those for its plans. -/
theorem Steps.mapValues_artifacts {previous : State} (steps : Steps previous input outcome)
    (sound : previous.Sound) :
    outcome.state.artifacts.mapValues Record.output = writtenFor outcome.plans := by
  have text : ∀ item ∈ artifactItems outcome.plans,
      (Step.recordOf Render.accessors previous.artifacts item).2.output =
        Render.accessors item.2 := fun item _ => sound.outputFor_accessors item.1 item.2
  rw [steps.written]
  exact Step.mapValues_recordsOf Record.output Render.accessors text

/-- The artifacts of the types are those for the plans. -/
theorem Steps.siteArtifacts_writtenFor {previous : State} (steps : Steps previous input outcome)
    (sound : previous.Sound) : outcome.siteArtifacts =
      (writtenFor outcome.plans).entries.map fun (name, text) => ⟨name, text⟩ := by
  rw [← steps.mapValues_artifacts sound, Outcome.siteArtifacts, Keyed.entries_mapValues,
    List.map_map]
  rfl

/-- A first pass is described by the declarations and their plans. -/
theorem Steps.isFirst (steps : Steps .empty input outcome) : outcome.IsFirst input := by
  have sites := sites_of_empty steps
  have items := steps.planItems_of_empty
  have names : outcome.state.artifacts.keys = (writtenFor outcome.plans).keys := by
    rw [← steps.mapValues_artifacts State.sound_empty, Keyed.keys_mapValues]
  constructor
  case sites => exact sites
  case plans =>
    have planned : outcome.state.plans =
        Step.recordsOf PlanInput.plan .empty (planItems input outcome.sites) := steps.plans
    rw [Outcome.plans, planned, Step.recordsOf_empty, items, outputs, Keyed.mapValues_mapValues,
      Keyed.values_mapValues, List.map_map]
    rfl
  case artifacts =>
    have manifest : outcome.state.manifest = Step.recordsOf ManifestInput.artifacts .empty
        [(manifestKey, outcome.manifestInput input)] := steps.manifest
    have made : (outputs outcome.state.manifest).flatten =
        (outcome.manifestInput input).artifacts := by
      rw [manifest]
      exact List.append_nil _
    rw [steps.artifacts, steps.siteArtifacts_writtenFor State.sound_empty, made,
      Outcome.manifestInput, names]
    rfl
  case diagnostics => exact steps.diagnostics
  case searchPaths => rw [steps.searchPaths, sites]
  case embedded => exact steps.embedded
  case tracked =>
    have plans : Step.reasonsOf PlanInput.plan .empty (planItems input outcome.sites) =
        input.planned.mapValues fun _ => .new := by
      rw [Step.reasonsOf_empty, items, Keyed.mapValues_mapValues]
      rfl
    have artifacts : Step.reasonsOf Render.accessors .empty (artifactItems outcome.plans) =
        (writtenFor outcome.plans).mapValues fun _ => .new := by
      rw [Step.reasonsOf_empty, writtenFor, Keyed.mapValues_mapValues]
      rfl
    have tracked := steps.tracked
    simp only [State.empty, plans, artifacts] at tracked
    rw [tracked, Step.reasonsOf_empty]
    rfl

/-- New generators give the same, as far as it is seen, when the first passes ask equally often
whether to go on and the same is seen of them. -/
theorem Generator.new_run_map_eq {one other : Input} {γ : Type} (view : Outcome → γ)
    (questions : ∀ {first second : Outcome}, first.IsFirst one → second.IsFirst other →
      second.questions other = first.questions one)
    (seen : ∀ {first second : Outcome}, first.IsFirst one → second.IsFirst other →
      view second = view first) (token : Cancellation) :
    (new.run other token).1.map view = (new.run one token).1.map view := by
  obtain ⟨first, firstSteps, firstRan⟩ := exists_run_eq new one
  obtain ⟨second, secondSteps, secondRan⟩ := exists_run_eq new other
  rw [secondRan, firstRan, questions firstSteps.isFirst secondSteps.isFirst]
  cases token.spend (first.questions one) with
  | error failure => rfl
  | ok rest => exact congrArg Except.ok (seen firstSteps.isFirst secondSteps.isFirst)

end ResourceAccessors.Generation
