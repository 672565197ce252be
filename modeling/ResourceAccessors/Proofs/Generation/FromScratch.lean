import ResourceAccessors.Proofs.Generation.Agreement

/-!
# Incremental runs

A generator gives after every history what a new generator gives for the same input. Paths that are
equal may be written differently in the history, and only the text of the manifest shows how.
-/

namespace ResourceAccessors.Generation.Generator

/-- A run that succeeds, after any history, gives what a new generator gives for its input, up to the
spelling of paths; where all inputs were collected, also in the text of the manifest. A run that does
not succeed can be left out of a history. -/
theorem run_agrees_fresh (events : List Event) :
    (∀ input token outcome next, (new.afterAll events).run input token = (.ok outcome, next) →
      ∃ fresh, new.run input .never = (.ok fresh, ⟨fresh.state⟩) ∧ next.state = outcome.state ∧
        outcome.Resembles fresh ∧
        ((∀ earlier ∈ new.succeeded events, earlier.Collected) → input.Collected →
          outcome.Agrees fresh)) ∧
    (∀ before input token failure later, events = before ++ .run input token :: later →
      ((new.afterAll before).run input token).1 = .error failure →
      new.afterAll events = new.afterAll (before ++ later)) := by
  constructor
  · intro input token outcome next ran
    obtain ⟨steps, same⟩ := steps_of_run ran
    obtain ⟨fresh, freshRan⟩ := run_never new input
    have freshSteps := (steps_of_run freshRan).1
    have sound := sound_afterAll events
    refine ⟨fresh, freshRan, same, steps.resembles freshSteps sound State.sound_empty, ?_⟩
    intro earlier collected
    exact steps.agrees freshSteps sound State.sound_empty collected (settled_afterAll earlier)
      State.settled_empty
  · rintro before input token failure later rfl failed
    have unchanged : ((new.afterAll before).run input token).2 = new.afterAll before :=
      eq_of_run_error (Prod.ext failed rfl)
    rw [afterAll, afterAll, List.foldl_append, List.foldl_append, List.foldl_cons]
    exact congrArg (later.foldl after) unchanged

/-- A project with one marked type and one resource, which has the content `text`. -/
def onlyResource (text : String) : Input where
  options := ⟨false, ⟨"/project"⟩, "Demo"⟩
  sources := [⟨⟨"/project/src/lib.rs"⟩, [], "#[embedded_resource_properties] pub struct Notes;"⟩]
  files := [.make ⟨"/project/src/Notes/first.txt"⟩ (some text)]
  embedded := none

/-- A run that was cancelled, a run and a reload: the next run gives what a new generator gives. -/
theorem run_agrees_fresh_onlyResource :
    ∃ outcome fresh,
      (new.afterAll [.run (onlyResource "a") .immediate, .run (onlyResource "a") .never,
        .reload]).run (onlyResource "b") .never = (.ok outcome, ⟨outcome.state⟩) ∧
      new.run (onlyResource "b") .never = (.ok fresh, ⟨fresh.state⟩) ∧
      outcome.Agrees fresh ∧
      new.afterAll [.run (onlyResource "a") .immediate, .run (onlyResource "a") .never, .reload] =
        new.afterAll [.run (onlyResource "a") .never, .reload] := by
  have collected : ∀ text, (onlyResource text).Collected := by
    intro text
    constructor
    · intro file mem
      exact ⟨_, _, List.mem_singleton.1 mem⟩
    · rintro paths ⟨⟩
  obtain ⟨agrees, leaves⟩ := run_agrees_fresh
    [.run (onlyResource "a") .immediate, .run (onlyResource "a") .never, .reload]
  obtain ⟨outcome, ran⟩ := run_never
    (new.afterAll [.run (onlyResource "a") .immediate, .run (onlyResource "a") .never, .reload])
    (onlyResource "b")
  obtain ⟨fresh, freshRan, -, -, same⟩ := agrees _ _ _ _ ran
  refine ⟨outcome, fresh, ran, freshRan, same ?_ (collected "b"), ?_⟩
  · intro earlier mem
    obtain ⟨token, among⟩ := exists_run_of_mem_succeeded mem
    have given : earlier = onlyResource "a" := by
      simp only [List.mem_cons, Event.run.injEq, reduceCtorEq, List.not_mem_nil] at among
      rcases among with ⟨same, -⟩ | ⟨same, -⟩ | absurd | absurd
      · exact same
      · exact same
      · cases absurd
      · cases absurd
    exact given ▸ collected "a"
  · exact leaves [] _ .immediate .cancelled _ rfl rfl

/-- A project without declarations that embeds the file at one path. -/
def onlyEmbedded (path : FilePath) : Input where
  options := ⟨false, ⟨"/project"⟩, "Demo"⟩
  sources := []
  files := []
  embedded := some [path]

/-- A project without declarations has no artifacts of types, and its manifest lists the file. -/
theorem steps_onlyEmbedded {previous : State} {path : FilePath} {outcome : Outcome}
    (steps : Steps previous (onlyEmbedded path) outcome) :
    outcome.siteArtifacts = [] ∧ outcome.manifestInput (onlyEmbedded path) =
      ⟨[embeddedAt (onlyEmbedded path).options path], ⟨"/project"⟩, []⟩ := by
  have noSites : outcome.sites = [] := by
    rw [Outcome.sites, steps.extraction]
    rfl
  have noPlans : outcome.plans = [] := by
    rw [Outcome.plans, steps.plans, noSites]
    rfl
  have nothing : outcome.state.artifacts = .empty := by
    rw [steps.written, noPlans]
    rfl
  have single : wantedFiles (onlyEmbedded path) [] =
      [embeddedAt (onlyEmbedded path).options path] := rfl
  constructor
  · rw [Outcome.siteArtifacts, nothing]
    rfl
  · rw [Outcome.manifestInput, noPlans, nothing, embeddedFiles_eq, single,
      List.mergeSort_singleton]
    rfl

/-- The artifacts of a new generator for a project without declarations. -/
theorem artifacts_onlyEmbedded {path : FilePath} {outcome : Outcome}
    (steps : Steps .empty (onlyEmbedded path) outcome) :
    outcome.artifacts = (outcome.manifestInput (onlyEmbedded path)).artifacts := by
  rw [steps.artifacts, (steps_onlyEmbedded steps).1, steps.manifest]
  exact List.append_nil _

/-- A path with a doubled slash that was embedded once is still written so in the manifest when it
is embedded in its normal form: the two paths are equal, so the manifest is not written anew. -/
theorem manifest_keeps_spelling :
    (onlyEmbedded ⟨"/other/x.txt"⟩).Collected ∧
    ∃ outcome fresh,
      (new.afterAll [.run (onlyEmbedded ⟨"/other//x.txt"⟩) .never]).run
        (onlyEmbedded ⟨"/other/x.txt"⟩) .never = (.ok outcome, ⟨outcome.state⟩) ∧
      new.run (onlyEmbedded ⟨"/other/x.txt"⟩) .never = (.ok fresh, ⟨fresh.state⟩) ∧
      outcome.artifacts ≠ fresh.artifacts := by
  obtain ⟨first, firstRan⟩ := run_never new (onlyEmbedded ⟨"/other//x.txt"⟩)
  obtain ⟨second, secondRan⟩ := run_never ⟨first.state⟩ (onlyEmbedded ⟨"/other/x.txt"⟩)
  obtain ⟨fresh, freshRan⟩ := run_never new (onlyEmbedded ⟨"/other/x.txt"⟩)
  have firstSteps := (steps_of_run firstRan).1
  have secondSteps := (steps_of_run secondRan).1
  have freshSteps := (steps_of_run freshRan).1
  have stored : first.state.manifest.find? manifestKey =
      some ⟨first.manifestInput (onlyEmbedded ⟨"/other//x.txt"⟩),
        (first.manifestInput (onlyEmbedded ⟨"/other//x.txt"⟩)).artifacts⟩ := by
    rw [firstSteps.manifest]
    rfl
  have written : second.artifacts =
      (first.manifestInput (onlyEmbedded ⟨"/other//x.txt"⟩)).artifacts := by
    have same : (first.manifestInput (onlyEmbedded ⟨"/other//x.txt"⟩) ==
        second.manifestInput (onlyEmbedded ⟨"/other/x.txt"⟩)) = true := by
      rw [(steps_onlyEmbedded firstSteps).2, (steps_onlyEmbedded secondSteps).2]
      decide +kernel
    have kept : outputs second.state.manifest =
        [(first.manifestInput (onlyEmbedded ⟨"/other//x.txt"⟩)).artifacts] := by
      rw [secondSteps.manifest]
      show [(Step.outputFor _ (first.state.manifest.find? manifestKey) _).1] = _
      rw [stored, Step.outputFor, if_pos same]
    rw [secondSteps.artifacts, (steps_onlyEmbedded secondSteps).1, kept]
    exact List.append_nil _
  have collected : (onlyEmbedded ⟨"/other/x.txt"⟩).Collected := by
    constructor
    · intro file mem
      exact absurd mem List.not_mem_nil
    · intro paths configured path mem
      have single : paths = [⟨"/other/x.txt"⟩] := (Option.some.inj configured).symm
      rw [single] at mem
      rw [List.mem_singleton.1 mem]
      rfl
  refine ⟨collected, second, fresh, ?_, freshRan, ?_⟩
  · rw [afterAll_cons, after, firstRan]
    exact secondRan
  · rw [written, artifacts_onlyEmbedded freshSteps, (steps_onlyEmbedded firstSteps).2,
      (steps_onlyEmbedded freshSteps).2]
    decide +kernel

end ResourceAccessors.Generation.Generator
