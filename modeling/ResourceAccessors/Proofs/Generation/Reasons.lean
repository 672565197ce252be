import ResourceAccessors.Proofs.Generation.SourceKeys
import ResourceAccessors.Proofs.Text.ByteOrder

/-!
# Reasons say what became of outputs

A step gives one reason for every key of its previous and of its new records. Which reason that is can be
read off the records under the key before and after the step. An output whose input did not change is the
previous one, so an output that changed is always reported as modified. Failing runs and reloads in between
have no influence.
-/

namespace ResourceAccessors.Generation

open Spelled

namespace Step

variable {Input Output : Type} [BEq Input] [BEq Output]

/-- What became of an output, told by the records under its key before and after a step. -/
def fate : Option (Record Input Output) → Option (Record Input Output) → Option Reason
  | none, none => none
  | none, some _ => some .new
  | some _, none => some .removed
  | some before, some after =>
    some (if before.input == after.input then .cached
      else if before.output == after.output then .unchanged else .modified)

/-- The reasons of a step are true of its previous and its new records. -/
structure Truthful (previous current : Keyed (Record Input Output)) (reasons : Keyed Reason) :
    Prop where
  /-- No key is listed twice, and the keys stand in the order of their bytes. -/
  ascending : reasons.keys.Pairwise fun left right => Text.bytes left < Text.bytes right
  listed_iff : ∀ key, key ∈ reasons.keys ↔ key ∈ previous.keys ∨ key ∈ current.keys
  new_iff : ∀ key, reasons.find? key = some .new ↔ key ∉ previous.keys ∧ key ∈ current.keys
  removed_iff : ∀ key, reasons.find? key = some .removed ↔
    key ∈ previous.keys ∧ key ∉ current.keys
  cached_iff : ∀ key, reasons.find? key = some .cached ↔
    ∃ before after, previous.find? key = some before ∧ current.find? key = some after ∧
      (before.input == after.input) = true
  unchanged_iff : ∀ key, reasons.find? key = some .unchanged ↔
    ∃ before after, previous.find? key = some before ∧ current.find? key = some after ∧
      (before.input == after.input) = false ∧ (before.output == after.output) = true
  modified_iff : ∀ key, reasons.find? key = some .modified ↔
    ∃ before after, previous.find? key = some before ∧ current.find? key = some after ∧
      (before.output == after.output) = false

/-! ### What stands under a key -/

section Run

variable {compute : Input → Output} {previous : Keyed (Record Input Output)}
  {items : List (String × Input)} {key : String}

variable (compute previous) in
/-- The record and the reason under the key of an item are those of the last item with the key, however
many there are. -/
theorem exists_last_of_mem (mem : key ∈ items.map Prod.fst) :
    ∃ input, (recordsOf compute previous items).find? key =
        some ⟨input, (outputFor compute (previous.find? key) input).1⟩ ∧
      (reasonsOf compute previous items).find? key =
        some (outputFor compute (previous.find? key) input).2 := by
  have stored := Keyed.find?_ofList_map (fun item => (recordOf compute previous item).2) items key
  have given := Keyed.find?_ofList_map (fun item => (reasonOf compute previous item).2) items key
  cases last : items.reverse.find? fun item => key == item.1 with
  | none =>
    obtain ⟨item, itemMem, rfl⟩ := List.mem_map.1 mem
    simpa using List.find?_eq_none.1 last item (List.mem_reverse.2 itemMem)
  | some item =>
    obtain rfl : key = item.1 := by simpa using List.find?_some last
    rw [last] at stored given
    refine ⟨item.2, stored, ?_⟩
    rw [find?_reasonsOf, if_neg fun gone => gone.2 mem]
    exact given

/-- Under a key that no item has there is no record. -/
theorem find?_recordsOf_of_not_mem (absent : key ∉ items.map Prod.fst) :
    (recordsOf compute previous items).find? key = none := by
  rw [← Option.not_isSome_iff_eq_none, ← Keyed.mem_keys_iff, mem_keys_recordsOf]
  exact absent

/-- Under a key that no item has there is a reason only when an output is gone. -/
theorem find?_reasonsOf_of_not_mem (absent : key ∉ items.map Prod.fst) :
    (reasonsOf compute previous items).find? key = (previous.find? key).map fun _ => .removed := by
  have unlisted : (Keyed.ofList (items.map (reasonOf compute previous))).find? key = none := by
    rw [← Option.not_isSome_iff_eq_none, ← Keyed.mem_keys_iff, Keyed.mem_keys_ofList,
      List.map_map]
    exact absent
  rw [find?_reasonsOf, unlisted]
  cases stood : previous.find? key with
  | none => simp [Keyed.mem_keys_iff, stood]
  | some before => simp [Keyed.mem_keys_iff, stood, absent]

variable [Spelled Output]

/-- The reason for an output is what became of it. -/
theorem fate_outputFor (found : Option (Record Input Output)) (input : Input) :
    fate found (some ⟨input, (outputFor compute found input).1⟩) =
      some (outputFor compute found input).2 := by
  cases found with
  | none => rfl
  | some record =>
    by_cases same : (record.input == input) = true
    · simp [fate, outputFor, same]
    · have sides : (record.output == compute input) = (compute input == record.output) := by
        rw [Bool.eq_iff_iff, beq_iff, beq_iff, eq_comm]
      simp [fate, outputFor, same, sides]

variable (compute previous items) in
/-- The reason under every key is what became of the output under it. -/
theorem find?_reasonsOf_eq_fate (key : String) :
    (reasonsOf compute previous items).find? key =
      fate (previous.find? key) ((recordsOf compute previous items).find? key) := by
  by_cases mem : key ∈ items.map Prod.fst
  · obtain ⟨input, stored, given⟩ := exists_last_of_mem compute previous mem
    rw [stored, given, fate_outputFor]
  · rw [find?_recordsOf_of_not_mem mem, find?_reasonsOf_of_not_mem mem]
    cases previous.find? key <;> rfl

/-- An output whose input did not change is the previous one. -/
theorem output_beq_of_input_beq {before after : Record Input Output}
    (stood : previous.find? key = some before)
    (stands : (recordsOf compute previous items).find? key = some after)
    (same : (before.input == after.input) = true) : (before.output == after.output) = true := by
  by_cases mem : key ∈ items.map Prod.fst
  · obtain ⟨input, stored, -⟩ := exists_last_of_mem compute previous mem
    rw [stands, stood, Option.some.injEq] at stored
    subst stored
    rw [outputFor, if_pos same, beq_iff]
  · rw [find?_recordsOf_of_not_mem mem] at stands
    cases stands

/-- Whatever a step computes, its reasons are true. -/
theorem truthful_reasonsOf (compute : Input → Output) (previous : Keyed (Record Input Output))
    (items : List (String × Input)) :
    Truthful previous (recordsOf compute previous items) (reasonsOf compute previous items) := by
  constructor
  case ascending => exact (Keyed.pairwise_keys _).imp Text.bytes_lt_iff.2
  case listed_iff =>
    intro key
    rw [mem_keys_reasonsOf, mem_keys_recordsOf]
  case new_iff | removed_iff =>
    intro key
    rw [find?_reasonsOf_eq_fate, Keyed.mem_keys_iff, Keyed.mem_keys_iff]
    cases previous.find? key <;> cases (recordsOf compute previous items).find? key <;>
      grind [fate]
  case cached_iff | unchanged_iff | modified_iff =>
    intro key
    rw [find?_reasonsOf_eq_fate]
    cases stood : previous.find? key with
    | none => cases (recordsOf compute previous items).find? key <;> simp [fate]
    | some before =>
      cases stands : (recordsOf compute previous items).find? key with
      | none => simp [fate]
      | some after =>
        have reused := output_beq_of_input_beq stood stands
        grind [fate]

end Run

/-- An output that is there before and after a step does not change exactly when it was reused or computed
again with the same result. -/
theorem Truthful.output_beq_iff {previous current : Keyed (Record Input Output)}
    {reasons : Keyed Reason} (truthful : Truthful previous current reasons) {key : String}
    {before after : Record Input Output} (stood : previous.find? key = some before)
    (stands : current.find? key = some after) :
    (before.output == after.output) = true ↔
      reasons.find? key = some .cached ∨ reasons.find? key = some .unchanged := by
  have cached := truthful.cached_iff key
  have unchanged := truthful.unchanged_iff key
  have modified := truthful.modified_iff key
  simp only [stood, stands, Option.some.injEq, exists_eq_left', exists_and_left] at *
  grind

end Step

/-! ### Passes -/

/-- The reasons of all steps of a pass are true of the states before and after it. -/
structure Outcome.TellsReasons (outcome : Outcome) (previous : State) : Prop where
  extraction : Step.Truthful previous.extraction outcome.state.extraction outcome.tracked.extraction
  plans : Step.Truthful previous.plans outcome.state.plans outcome.tracked.plans
  artifacts : Step.Truthful previous.artifacts outcome.state.artifacts outcome.tracked.artifacts
  manifest : Step.Truthful previous.manifest outcome.state.manifest outcome.tracked.manifest

/-- The reasons for the artifacts of a pass say how they differ from those of the pass before it. -/
structure Outcome.TellsChanges (second first : Outcome) : Prop where
  /-- The artifacts of types that both passes give out. -/
  given : ∃ manifest index laterManifest laterIndex,
    first.artifacts = first.siteArtifacts ++ [manifest, index] ∧
    second.artifacts = second.siteArtifacts ++ [laterManifest, laterIndex]
  keeps_iff : ∀ name text laterText, ⟨name, text⟩ ∈ first.siteArtifacts →
    ⟨name, laterText⟩ ∈ second.siteArtifacts →
    (text = laterText ↔ second.tracked.artifacts.find? name = some .cached ∨
      second.tracked.artifacts.find? name = some .unchanged)
  appears_iff : ∀ name, second.tracked.artifacts.find? name = some .new ↔
    name ∉ first.siteArtifacts.map Artifact.name ∧ name ∈ second.siteArtifacts.map Artifact.name
  disappears_iff : ∀ name, second.tracked.artifacts.find? name = some .removed ↔
    name ∈ first.siteArtifacts.map Artifact.name ∧ name ∉ second.siteArtifacts.map Artifact.name

section Pass

variable {previous : State} {input later : Input} {outcome second : Outcome}

/-- Every pass tells true reasons, from whatever state it starts. -/
theorem Steps.tellsReasons (steps : Steps previous input outcome) : outcome.TellsReasons previous := by
  constructor
  case extraction =>
    rw [steps.extraction, steps.tracked]
    exact Step.truthful_reasonsOf ..
  case plans =>
    rw [steps.plans, steps.tracked]
    exact Step.truthful_reasonsOf ..
  case artifacts =>
    rw [steps.written, steps.tracked]
    exact Step.truthful_reasonsOf ..
  case manifest =>
    rw [steps.manifest, steps.tracked]
    exact Step.truthful_reasonsOf ..

/-- A pass tells what became of the artifacts of the pass before it. -/
theorem Steps.tellsChanges (steps : Steps previous input outcome) (sound : previous.Sound)
    (again : Steps outcome.state later second) : second.TellsChanges outcome := by
  have truthful := again.tellsReasons.artifacts
  constructor
  case given =>
    obtain ⟨text, artifacts⟩ := steps.exists_artifacts sound
    obtain ⟨laterText, laterArtifacts⟩ := again.exists_artifacts (steps.sound sound)
    exact ⟨_, _, _, _, artifacts, laterArtifacts⟩
  case keeps_iff =>
    intro name text laterText mem laterMem
    obtain ⟨before, stood, rfl⟩ := Outcome.mem_siteArtifacts_iff.1 mem
    obtain ⟨after, stands, rfl⟩ := Outcome.mem_siteArtifacts_iff.1 laterMem
    rw [← truthful.output_beq_iff stood stands, beq_iff_eq]
  case appears_iff =>
    intro name
    rw [outcome.names_siteArtifacts, second.names_siteArtifacts]
    exact truthful.new_iff name
  case disappears_iff =>
    intro name
    rw [outcome.names_siteArtifacts, second.names_siteArtifacts]
    exact truthful.removed_iff name

end Pass

namespace Generator

/-- Every run that succeeds tells true reasons, after any history. The next run that succeeds tells what became
of its artifacts, whatever fails and is read back in between. -/
theorem run_tells_reasons (events : List Event) {input : Input} {token : Cancellation}
    {outcome : Outcome} {next : Generator}
    (ran : (new.afterAll events).run input token = (.ok outcome, next)) :
    outcome.TellsReasons (new.afterAll events).state ∧
    ∀ between laterInput laterToken second last, next.succeeded between = [] →
      (next.afterAll between).run laterInput laterToken = (.ok second, last) →
      second.TellsReasons outcome.state ∧ second.TellsChanges outcome := by
  obtain ⟨steps, state⟩ := steps_of_run ran
  refine ⟨steps.tellsReasons, fun between laterInput laterToken second last quiet again => ?_⟩
  rw [afterAll_of_succeeded quiet] at again
  have laterSteps := (steps_of_run again).1
  rw [state] at laterSteps
  exact ⟨laterSteps.tellsReasons, steps.tellsChanges (sound_afterAll events) laterSteps⟩

/-- The reasons are true when two sources have one key. The source that comes in place of the second one is
new, although other runs were cancelled before and in between. -/
theorem run_tells_reasons_twoSources :
    ∃ outcome second next last,
      (new.afterAll [.run (twoSources ⟨"/project/src/b.rs"⟩) .immediate]).run
        (twoSources ⟨"/project/src/a\\b.rs"⟩) .never = (.ok outcome, next) ∧
      ¬ (twoSources ⟨"/project/src/a\\b.rs"⟩).SourcesApart ∧
      (next.afterAll [.run (twoSources ⟨"/project/src/b.rs"⟩) .immediate, .reload]).run
        (twoSources ⟨"/project/src/c.rs"⟩) .never = (.ok second, last) ∧
      outcome.TellsReasons (new.afterAll [.run (twoSources ⟨"/project/src/b.rs"⟩) .immediate]).state ∧
      second.TellsReasons outcome.state ∧ second.TellsChanges outcome ∧
      second.tracked.extraction.find? "/project/src/c.rs" = some .new := by
  obtain ⟨outcome, ran⟩ := run_never
    (new.afterAll [.run (twoSources ⟨"/project/src/b.rs"⟩) .immediate])
    (twoSources ⟨"/project/src/a\\b.rs"⟩)
  obtain ⟨second, again⟩ := run_never
    (afterAll ⟨outcome.state⟩ [.run (twoSources ⟨"/project/src/b.rs"⟩) .immediate, .reload])
    (twoSources ⟨"/project/src/c.rs"⟩)
  obtain ⟨first, consecutive⟩ := run_tells_reasons
    [.run (twoSources ⟨"/project/src/b.rs"⟩) .immediate] ran
  obtain ⟨tells, changes⟩ := consecutive _ _ _ _ _ rfl again
  have shared : ¬ (twoSources ⟨"/project/src/a\\b.rs"⟩).SourcesApart := by
    rw [Input.SourcesApart]
    decide +kernel
  refine ⟨outcome, second, _, _, ran, shared, again, first, tells, changes, ?_⟩
  rw [tells.extraction.new_iff, (steps_of_run ran).1.extraction, (steps_of_run again).1.extraction,
    Step.mem_keys_recordsOf, Step.mem_keys_recordsOf]
  decide +kernel

end Generator

end ResourceAccessors.Generation
