import ResourceAccessors.Proofs.FilePath.Relative
import ResourceAccessors.Proofs.Generation.ArtifactNames

/-!
# Which sources are kept

The first step files every source under its path with slashes for backslashes. Where no two sources
share such a key, every source is kept and each of its declarations has an artifact. Of several sources
with one key only the last one is kept, and the declarations of the others have no artifacts. Paths
without backslashes that are text share a key only when they are equal.
-/

namespace ResourceAccessors.Generation

open Spelled

/-- No two sources are filed under one key. -/
def Input.SourcesApart (input : Input) : Prop :=
  (input.sources.map fun source => slashed source.path).Nodup

/-- No two sources have equal paths. -/
def Input.PathsDiffer (input : Input) : Prop :=
  input.sources.Pairwise fun one other => ¬ (one.path == other.path) = true

/-- A source is the last one under its key. -/
def Input.IsLast (input : Input) (source : SourceFile) : Prop :=
  ∃ before after, input.sources = before ++ source :: after ∧
    ∀ later ∈ after, slashed later.path ≠ slashed source.path

/-! ### Keys of sources -/

/-- A path without backslashes that is text is its own key. -/
theorem slashed_eq_text {path : FilePath} (isText : path.IsText)
    (noBackslash : '\\' ∉ path.text.toList) : slashed path = path.text := by
  have kept : path.text.toList.map (fun c => if c = '\\' then '/' else c) = path.text.toList := by
    conv_rhs => rw [← List.map_id path.text.toList]
    apply List.map_congr_left
    intro c mem
    have other : c ≠ '\\' := by
      rintro rfl
      exact noBackslash mem
    rw [if_neg other, id]
  rw [slashed, isText.shown_eq, kept, String.ofList_toList]

/-- Sources at different paths without backslashes are filed under different keys, when the paths are
text. -/
theorem Input.sourcesApart_of_noBackslash {input : Input} (differ : input.PathsDiffer)
    (isText : ∀ source ∈ input.sources, source.path.IsText)
    (noBackslash : ∀ source ∈ input.sources, '\\' ∉ source.path.text.toList) :
    input.SourcesApart := by
  rw [SourcesApart, List.nodup_iff_pairwise_ne, List.pairwise_map]
  refine differ.imp_of_mem ?_
  intro one other oneMem otherMem apart same
  apply apart
  rw [slashed_eq_text (isText one oneMem) (noBackslash one oneMem),
    slashed_eq_text (isText other otherMem) (noBackslash other otherMem)] at same
  have paths : one.path = other.path := congrArg FilePath.mk same
  rw [beq_iff, paths]

/-- The keys that the sources are filed under. -/
theorem keys_extractionItems (sources : List SourceFile) :
    (extractionItems sources).map Prod.fst = sources.map fun source => slashed source.path := by
  rw [extractionItems, List.map_map]
  rfl

/-- The declarations are those of all sources when each of these has its key for itself. -/
theorem Input.declared_perm {input : Input} (apart : input.SourcesApart) :
    input.declared.Perm (input.sources.flatMap SourceFile.sites) := by
  have distinct : ((extractionItems input.sources).map Prod.fst).Nodup := by
    rw [keys_extractionItems]
    exact apart
  have listed : (extractionItems input.sources).map Prod.snd = input.sources := by
    simp [extractionItems, Function.comp_def]
  have kept := (Keyed.ofList_perm distinct).map Prod.snd
  rw [listed] at kept
  exact kept.flatMap_right SourceFile.sites

section Pass

variable {previous : State} {input : Input} {outcome : Outcome}

/-- The records of the first step are those of the sources, of which the last one under a key
counts. -/
theorem Steps.extraction_eq (steps : Steps previous input outcome) : outcome.state.extraction =
    Keyed.ofList (input.sources.map fun source =>
      Step.recordOf SourceFile.sites previous.extraction (slashed source.path, source)) := by
  rw [steps.extraction, Step.recordsOf, extractionItems, List.map_map]
  rfl

/-- The first step leaves as many entries as there are sources exactly when no two sources are filed
under one key. -/
theorem Steps.length_extraction_iff (steps : Steps previous input outcome) :
    outcome.state.extraction.entries.length = input.sources.length ↔ input.SourcesApart := by
  have entries := Keyed.length_ofList_eq_iff (input.sources.map fun source =>
    Step.recordOf SourceFile.sites previous.extraction (slashed source.path, source))
  rw [List.length_map, List.map_map, ← steps.extraction_eq] at entries
  exact entries

/-- Under the key of every source stands the last source with this key, with its declarations. -/
theorem Steps.exists_last (steps : Steps previous input outcome) (sound : previous.Sound)
    {source : SourceFile} (mem : source ∈ input.sources) :
    ∃ last record, input.IsLast last ∧
      outcome.state.extraction.find? (slashed source.path) = some record ∧
      slashed last.path = slashed source.path ∧
      record.input = last ∧ (record.output == last.sites) = true := by
  have stored : slashed source.path ∈ outcome.state.extraction.keys := by
    rw [steps.extraction_eq, Keyed.mem_keys_ofList, List.map_map]
    exact List.mem_map.2 ⟨source, mem, rfl⟩
  obtain ⟨⟨key, record⟩, entryMem, rfl⟩ := List.mem_map.1 stored
  have found := Keyed.find?_eq_some_iff.2 entryMem
  have kept := found
  rw [steps.extraction_eq] at kept
  obtain ⟨before, after, split, apart⟩ := Keyed.exists_last_of_find?_ofList kept
  obtain ⟨front, back, sources, rfl, tail⟩ := List.map_eq_append_iff.1 split
  obtain ⟨last, later, rfl, filed, rfl⟩ := List.map_eq_cons_iff.1 tail
  obtain ⟨sameKey, sameRecord⟩ := Prod.mk.inj filed
  refine ⟨last, record, ⟨front, later, sources, ?_⟩, found, sameKey, ?_, ?_⟩
  · intro other otherMem same
    exact apart _ (List.mem_map_of_mem otherMem) (same.trans sameKey)
  · rw [← sameRecord]
  · rw [beq_iff, ← sameRecord]
    exact Step.plain_outputFor respects_sites sound.extraction _ last

/-- Every artifact is that of a declaration. -/
theorem Steps.exists_declared (steps : Steps previous input outcome) (sound : previous.Sound)
    {entry : String × Record Plan String} (mem : entry ∈ outcome.state.artifacts.entries) :
    ∃ site ∈ input.declared, plain entry.2.input.site = plain site := by
  rw [steps.written] at mem
  obtain ⟨item, itemMem, rfl⟩ := Step.exists_of_mem_recordsOf mem
  have planMem : item.2 ∈ outcome.plans := (List.of_mem_zip itemMem).2
  obtain ⟨planned, plannedMem, made⟩ := Outcome.mem_plans_iff.1 planMem
  rw [steps.plans] at plannedMem
  obtain ⟨given, givenMem, rfl⟩ := Step.exists_of_mem_recordsOf plannedMem
  obtain ⟨site, siteMem, sameInput⟩ := exists_site_of_mem_planItems givenMem
  have computed := Step.plain_outputFor respects_plan sound.plans given.1 given.2
  have sameSite : plain item.2.site = plain site := by
    rw [← made]
    apply (congrArg Plan.site computed).trans
    rw [sameInput]
    rfl
  have among : plain site ∈ input.declared.map plain := by
    rw [← (steps.sites_declared sound).2]
    exact List.mem_map_of_mem siteMem
  obtain ⟨found, declared, agrees⟩ := List.mem_map.1 among
  exact ⟨found, declared, sameSite.trans agrees.symm⟩

end Pass

namespace Generator

/-- A run keeps one entry for each source exactly when no two sources are filed under one key; the
artifacts are then those of all declarations in all sources. Under each key stands the last source with
it. Sources at different paths are filed under different keys where all paths are text and none has a
backslash. -/
theorem sources_kept_iff (events : List Event) {input : Input} {token : Cancellation}
    {outcome : Outcome} {next : Generator}
    (ran : (new.afterAll events).run input token = (.ok outcome, next)) :
    (outcome.state.extraction.entries.length = input.sources.length ↔ input.SourcesApart) ∧
    (∀ source ∈ input.sources, ∃ last record, input.IsLast last ∧
      outcome.state.extraction.find? (slashed source.path) = some record ∧
      slashed last.path = slashed source.path ∧
      record.input = last ∧ (record.output == last.sites) = true) ∧
    (∃ placements, outcome.Places input placements ∧
      (input.SourcesApart → (placements.map Placement.site).Perm
        (input.sources.flatMap SourceFile.sites))) ∧
    (input.PathsDiffer → (∀ source ∈ input.sources, source.path.IsText) →
      (∀ source ∈ input.sources, '\\' ∉ source.path.text.toList) → input.SourcesApart) := by
  have steps := (steps_of_run ran).1
  have sound := sound_afterAll events
  refine ⟨steps.length_extraction_iff, fun source mem => steps.exists_last sound mem, ?_,
    Input.sourcesApart_of_noBackslash⟩
  have places := steps.places sound
  refine ⟨_, places, fun apart => ?_⟩
  rw [places.sites]
  exact Input.declared_perm apart

/-- Two sources that declare one type each, the first of them at `/project/src/a/b.rs`. -/
def twoSources (path : FilePath) : Input where
  options := ⟨false, ⟨"/project"⟩, "Demo"⟩
  sources := [
    ⟨⟨"/project/src/a/b.rs"⟩, ["a", "b"], "#[embedded_resource_properties]\npub struct One;\n"⟩,
    ⟨path, ["a\\b"], "#[embedded_resource_properties]\npub struct Two;\n"⟩]
  files := []
  embedded := none

/-- Sources in two folders are both kept, with the declarations in them. -/
theorem sources_kept_twoFolders :
    ∃ outcome placements,
      (new.afterAll [.run (twoSources ⟨"/project/src/c.rs"⟩) .never, .reload]).run
        (twoSources ⟨"/project/src/a/c.rs"⟩) .never = (.ok outcome, ⟨outcome.state⟩) ∧
      outcome.state.extraction.entries.length = 2 ∧
      outcome.Places (twoSources ⟨"/project/src/a/c.rs"⟩) placements ∧ placements.length = 2 := by
  obtain ⟨outcome, ran⟩ := run_never
    (new.afterAll [.run (twoSources ⟨"/project/src/c.rs"⟩) .never, .reload])
    (twoSources ⟨"/project/src/a/c.rs"⟩)
  obtain ⟨entries, -, ⟨placements, places, all⟩, -⟩ :=
    sources_kept_iff [.run (twoSources ⟨"/project/src/c.rs"⟩) .never, .reload] ran
  have apart : (twoSources ⟨"/project/src/a/c.rs"⟩).SourcesApart := by
    rw [Input.SourcesApart]
    decide +kernel
  have declared : ((twoSources ⟨"/project/src/a/c.rs"⟩).sources.flatMap
      SourceFile.sites).length = 2 := by
    decide +kernel
  refine ⟨outcome, placements, ran, entries.2 apart, places, ?_⟩
  rw [← List.length_map, (all apart).length_eq, declared]

/-- The sources `a/b.rs` and `a\b.rs` have different paths and one key: only the second of them is
kept, and no artifact is made for the type that the first one declares. -/
theorem loses_source_backslash :
    ∃ outcome, new.run (twoSources ⟨"/project/src/a\\b.rs"⟩) .never =
        (.ok outcome, ⟨outcome.state⟩) ∧
      (twoSources ⟨"/project/src/a\\b.rs"⟩).PathsDiffer ∧
      outcome.state.extraction.entries.length ≠
        (twoSources ⟨"/project/src/a\\b.rs"⟩).sources.length ∧
      ∃ source ∈ (twoSources ⟨"/project/src/a\\b.rs"⟩).sources, ∃ site ∈ source.sites,
        ∀ entry ∈ outcome.state.artifacts.entries,
          entry.2.input.site.display ≠ site.display := by
  obtain ⟨outcome, ran⟩ := run_never new (twoSources ⟨"/project/src/a\\b.rs"⟩)
  have steps := (steps_of_run ran).1
  have differ : (twoSources ⟨"/project/src/a\\b.rs"⟩).PathsDiffer := by
    rw [Input.PathsDiffer]
    decide +kernel
  have shared : ¬ (twoSources ⟨"/project/src/a\\b.rs"⟩).SourcesApart := by
    rw [Input.SourcesApart]
    decide +kernel
  have lost : ∃ source ∈ (twoSources ⟨"/project/src/a\\b.rs"⟩).sources, ∃ site ∈ source.sites,
      ∀ found ∈ (twoSources ⟨"/project/src/a\\b.rs"⟩).declared,
        found.display ≠ site.display := by
    decide +kernel
  obtain ⟨source, sourceMem, site, siteMem, undeclared⟩ := lost
  refine ⟨outcome, ran, differ, mt steps.length_extraction_iff.1 shared, source, sourceMem, site,
    siteMem, ?_⟩
  intro entry mem same
  obtain ⟨found, declared, agrees⟩ := steps.exists_declared State.sound_empty mem
  have display : entry.2.input.site.display = found.display :=
    eq_of_plain (fun _ => rfl) agrees
  exact undeclared found declared (display.symm.trans same)

end Generator

end ResourceAccessors.Generation
