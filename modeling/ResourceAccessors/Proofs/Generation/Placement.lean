import ResourceAccessors.Proofs.Artifact.Name
import ResourceAccessors.Proofs.Generation.FromScratch

/-!
# Every declaration has its place

The plans and the artifacts of a pass are those of the declarations in its sources, each under a key
and a name of its own. The index includes exactly the artifacts of the declarations, in the order of
their names; texts are ordered by their characters, which is the order of their bytes.
-/

namespace ResourceAccessors.Generation

open Spelled

/-- The declarations in the sources, in the order of the keys of their files. Of several sources with
one key the last one counts. -/
def Input.declared (input : Input) : List Declaration.Site :=
  (Keyed.ofList (extractionItems input.sources)).values.flatMap SourceFile.sites

/-- A declaration with the key of its plan and the name of its artifact. -/
structure Placement where
  site : Declaration.Site
  key : String
  name : String

/-- The plans and the artifacts of a pass are those of the declarations at some places. -/
structure Outcome.Places (outcome : Outcome) (input : Input) (placements : List Placement) :
    Prop where
  sites : placements.map Placement.site = input.declared
  keys : outcome.state.plans.keys.Perm (placements.map Placement.key)
  names : outcome.state.artifacts.keys.Perm (placements.map Placement.name)
  distinctKeys : (placements.map Placement.key).Nodup
  distinctNames : (placements.map Placement.name).Nodup
  /-- Under the key of a declaration stands its plan. -/
  planned : ∀ placement ∈ placements, ∃ record,
    outcome.state.plans.find? placement.key = some record ∧
    (record.input == planInput input placement.site) = true ∧
    (record.output == (planInput input placement.site).plan) = true
  /-- Under the name of a declaration stands the artifact of its plan. -/
  written : ∀ placement ∈ placements, ∃ plan,
    (plan == (planInput input placement.site).plan) = true ∧
    outcome.state.artifacts.find? placement.name =
      some ⟨plan, Render.accessors (planInput input placement.site).plan⟩
  /-- A numbered name is given only where another declaration has the plain one. -/
  named : ∀ placement ∈ placements,
    placement.name = Artifact.nameFor placement.site.display ∨
      ∃ count, 2 ≤ count ∧
        placement.name =
          Artifact.numberedName (Artifact.stemFor placement.site.display) count ∧
        ∃ other ∈ placements, other.name = Artifact.nameFor placement.site.display
  /-- The artifacts are given out in the order of their names, and the index includes them so. -/
  artifacts : ∃ text, outcome.artifacts = outcome.siteArtifacts ++
    [⟨Artifact.manifestName, text⟩,
      ⟨Artifact.indexName, Render.index (outcome.siteArtifacts.map Artifact.name)⟩]
  included : outcome.siteArtifacts.map Artifact.name = outcome.state.artifacts.keys
  ascending : outcome.state.artifacts.keys.Pairwise (· < ·)

/-! ### Declarations -/

/-- The record of a source file with the declarations in it. -/
def sourceRecord (source : SourceFile) : Record SourceFile (List Declaration.Site) :=
  ⟨source, source.sites⟩

/-- A pass from the first state finds the declarations in the sources. -/
theorem sites_of_empty {input : Input} {fresh : Outcome} (steps : Steps .empty input fresh) :
    fresh.sites = input.declared := by
  have entries : fresh.state.extraction.entries =
      (Keyed.ofList (extractionItems input.sources)).entries.map
        fun entry => (entry.1, sourceRecord entry.2) := by
    rw [steps.extraction]
    exact Keyed.entries_ofList_map sourceRecord _
  rw [Outcome.sites, outputs, Keyed.values, entries, Input.declared, Keyed.values,
    List.flatMap_def]
  simp only [List.map_map]
  rfl

section Pass

variable {previous : State} {input : Input} {outcome : Outcome}

/-- Every pass finds the declarations in the sources, under their keys. -/
theorem Steps.sites_declared (steps : Steps previous input outcome) (sound : previous.Sound) :
    outcome.sites.map siteKey = input.declared.map siteKey ∧
      outcome.sites.map plain = input.declared.map plain := by
  obtain ⟨fresh, passed⟩ := pass_never .empty input
  have freshSteps := steps_of_pass passed
  have same := plain_extraction steps freshSteps sound State.sound_empty
  rw [← sites_of_empty freshSteps]
  exact ⟨map_siteKey (steps.sound sound) (freshSteps.sound State.sound_empty) same,
    plain_sites same⟩

/-- A pass looks for resources in the folders of all declarations of its input. -/
theorem Steps.searchPaths_declared (steps : Steps previous input outcome)
    (sound : previous.Sound) :
    outcome.searchPaths =
      FilePath.ascending (input.declared.map (·.searchPath input.options.projectDir)) := by
  obtain ⟨fresh, passed⟩ := pass_never .empty input
  have freshSteps := steps_of_pass passed
  rw [searchPaths_eq steps freshSteps sound State.sound_empty, freshSteps.searchPaths,
    sites_of_empty freshSteps]

/-! ### Plans -/

/-- The keys of the plans, in the order of the declarations. -/
def Input.planKeys (input : Input) : List String :=
  claimAll [] (input.declared.map siteRequest)

/-- There is one key for each declaration. -/
theorem Input.length_planKeys (input : Input) :
    input.planKeys.length = input.declared.length := by
  rw [planKeys, length_claimAll, List.length_map]

/-- A pass plans the declarations in the sources, up to the spelling of paths. -/
theorem Steps.plain_planItems_declared (steps : Steps previous input outcome)
    (sound : previous.Sound) :
    (planItems input outcome.sites).map plain = (planItems input input.declared).map plain := by
  obtain ⟨keys, same⟩ := steps.sites_declared sound
  exact plain_planItems input keys same

/-- The keys that the declarations are planned under. -/
theorem Steps.keys_planItems (steps : Steps previous input outcome) (sound : previous.Sound) :
    (planItems input outcome.sites).map Prod.fst = input.planKeys := by
  have keys : ∀ sites, (planItems input sites).map Prod.fst =
      claimAll [] (sites.map siteRequest) := by
    intro sites
    rw [planItems, List.map_fst_zip]
    simp
  have same : (planItems input outcome.sites).map Prod.fst =
      (planItems input input.declared).map Prod.fst :=
    map_eq_of_plain (fun _ _ agree => (Prod.ext_iff.1 agree).1)
      (steps.plain_planItems_declared sound)
  rw [same, keys, Input.planKeys]

/-- The keys of the planned declarations are distinct. -/
theorem Steps.nodup_planItems (steps : Steps previous input outcome) (sound : previous.Sound) :
    ((planItems input outcome.sites).map Prod.fst).Nodup := by
  rw [steps.keys_planItems sound]
  exact nodup_siteKeys _

/-- The plans stand under the keys of the declarations. -/
theorem Steps.planKeys_perm (steps : Steps previous input outcome) (sound : previous.Sound) :
    outcome.state.plans.keys.Perm input.planKeys := by
  rw [steps.plans, ← steps.keys_planItems sound]
  exact Step.keys_recordsOf_perm (steps.nodup_planItems sound)

/-- Under the key of a declaration that was found stands its plan. -/
theorem Steps.find?_plans (steps : Steps previous input outcome) (sound : previous.Sound)
    {key : String} {given : PlanInput} (mem : (key, given) ∈ planItems input outcome.sites) :
    ∃ output, outcome.state.plans.find? key = some ⟨given, output⟩ ∧
      plain output = plain given.plan := by
  refine ⟨_, ?_, Step.plain_outputFor respects_plan sound.plans key given⟩
  rw [steps.plans]
  exact Step.find?_recordsOf_of_mem (steps.nodup_planItems sound) mem

/-- Under the key of a declaration stands its plan. -/
theorem Steps.exists_planned (steps : Steps previous input outcome) (sound : previous.Sound)
    {site : Declaration.Site} {key : String} (mem : (key, site) ∈ input.planKeys.zip input.declared) :
    ∃ record, (key, record) ∈ outcome.state.plans.entries ∧
      plain record.input = plain (planInput input site) ∧
      plain record.output = plain (planInput input site).plan := by
  have among : plain (key, planInput input site) ∈ (planItems input outcome.sites).map plain := by
    rw [steps.plain_planItems_declared sound]
    refine List.mem_map_of_mem ?_
    rw [planItems, List.zip_map_right]
    exact List.mem_map.2 ⟨(key, site), mem, rfl⟩
  obtain ⟨⟨itemKey, given⟩, itemMem, agrees⟩ := List.mem_map.1 among
  obtain ⟨rfl, sameInput⟩ := Prod.mk.inj agrees
  obtain ⟨output, found, made⟩ := steps.find?_plans sound itemMem
  exact ⟨⟨given, output⟩, Keyed.find?_eq_some_iff.1 found, sameInput,
    made.trans (respects_plan _ _ sameInput)⟩

/-! ### Artifacts -/

/-- What looking up the keys of distinct pairs gives. -/
theorem map_lookup_zip {keys names : List String} (distinct : keys.Nodup)
    (same : keys.length = names.length) :
    (keys.map fun key => ((keys.zip names).lookup key).getD "") = names := by
  induction keys generalizing names with
  | nil =>
    cases names with
    | nil => rfl
    | cons name rest => simp at same
  | cons first others inductionHypothesis =>
    cases names with
    | nil => simp at same
    | cons name rest =>
      obtain ⟨absent, distinctOthers⟩ := List.nodup_cons.1 distinct
      have later := inductionHypothesis distinctOthers (by simpa using same)
      have skipped : ∀ key ∈ others, (((first :: others).zip (name :: rest)).lookup key).getD "" =
          ((others.zip rest).lookup key).getD "" := by
        intro key mem
        have differs : (key == first) = false := by
          rw [beq_eq_false_iff_ne]
          rintro rfl
          exact absent mem
        rw [List.zip_cons_cons, List.lookup_cons, differs]
      rw [List.map_cons, List.map_congr_left skipped, later]
      simp

/-- The names of the artifacts, in the order of the plans. -/
def Outcome.artifactNames (outcome : Outcome) : List String :=
  claimAll [] (outcome.plans.map artifactRequest)

/-- The name of the artifact for the plan under a key. -/
def Outcome.nameOf (outcome : Outcome) (key : String) : String :=
  ((outcome.state.plans.keys.zip outcome.artifactNames).lookup key).getD ""

/-- The artifacts are named after the keys of their plans. -/
theorem Outcome.map_nameOf (outcome : Outcome) :
    outcome.state.plans.keys.map outcome.nameOf = outcome.artifactNames := by
  refine map_lookup_zip outcome.state.plans.nodup_keys ?_
  rw [artifactNames, length_claimAll, plans, outputs, Keyed.values, Keyed.keys]
  simp

/-- Every plan is written under the name that belongs to its key. -/
theorem Outcome.artifactItems_plans (outcome : Outcome) : artifactItems outcome.plans =
    outcome.state.plans.entries.map fun entry => (outcome.nameOf entry.1, entry.2.output) := by
  have names : outcome.state.plans.entries.map (fun entry => outcome.nameOf entry.1) =
      claimAll [] (outcome.plans.map artifactRequest) := by
    rw [← artifactNames, ← outcome.map_nameOf, Keyed.keys, List.map_map]
    rfl
  have listed : outcome.state.plans.entries.map (fun entry => entry.2.output) =
      outcome.plans := by
    rw [plans, outputs, Keyed.values, List.map_map]
    rfl
  rw [artifactItems, ← names]
  calc (outcome.state.plans.entries.map fun entry => outcome.nameOf entry.1).zip outcome.plans
    _ = (outcome.state.plans.entries.map fun entry => outcome.nameOf entry.1).zip
          (outcome.state.plans.entries.map fun entry => entry.2.output) := by rw [listed]
    _ = _ := List.zip_map'

/-- Every plan is written under the name for its key. -/
theorem Outcome.mem_artifactItems {outcome : Outcome} {entry : String × Record PlanInput Plan}
    (mem : entry ∈ outcome.state.plans.entries) :
    (outcome.nameOf entry.1, entry.2.output) ∈ artifactItems outcome.plans := by
  rw [outcome.artifactItems_plans]
  exact List.mem_map_of_mem mem

/-- The names that the plans are written under. -/
theorem Outcome.names_artifactItems (outcome : Outcome) :
    (artifactItems outcome.plans).map Prod.fst = outcome.artifactNames := by
  rw [artifactItems, List.map_fst_zip, artifactNames]
  simp

/-- The plans are written under different names. -/
theorem Outcome.nodup_artifactItems (outcome : Outcome) :
    ((artifactItems outcome.plans).map Prod.fst).Nodup := by
  rw [outcome.names_artifactItems]
  exact nodup_artifactNames _

/-- The artifacts stand under their names. -/
theorem Steps.artifactNames_perm (steps : Steps previous input outcome) :
    outcome.state.artifacts.keys.Perm outcome.artifactNames := by
  rw [steps.written, ← outcome.names_artifactItems]
  exact Step.keys_recordsOf_perm outcome.nodup_artifactItems

/-- Under the name of a plan stands its artifact. -/
theorem Steps.find?_artifacts (steps : Steps previous input outcome) (sound : previous.Sound)
    {name : String} {plan : Plan} (mem : (name, plan) ∈ artifactItems outcome.plans) :
    outcome.state.artifacts.find? name = some ⟨plan, Render.accessors plan⟩ := by
  rw [steps.written, Step.find?_recordsOf_of_mem outcome.nodup_artifactItems mem,
    sound.outputFor_accessors]

/-- For every plan the artifact stands under the name that belongs to its key. -/
theorem Steps.mem_written (steps : Steps previous input outcome) (sound : previous.Sound)
    {entry : String × Record PlanInput Plan} (mem : entry ∈ outcome.state.plans.entries) :
    (outcome.nameOf entry.1, ⟨entry.2.output, Render.accessors entry.2.output⟩) ∈
      outcome.state.artifacts.entries :=
  Keyed.find?_eq_some_iff.1 (steps.find?_artifacts sound (Outcome.mem_artifactItems mem))

/-- An artifact has the plain name of its type, or a numbered one. -/
theorem Outcome.nameOf_cases {outcome : Outcome} {entry : String × Record PlanInput Plan}
    (mem : entry ∈ outcome.state.plans.entries) :
    outcome.nameOf entry.1 = Artifact.nameFor entry.2.output.site.display ∨
      ∃ count, 2 ≤ count ∧ outcome.nameOf entry.1 =
        Artifact.numberedName (Artifact.stemFor entry.2.output.site.display) count := by
  have claimed : (outcome.nameOf entry.1, artifactRequest entry.2.output) ∈
      (claimAll [] (outcome.plans.map artifactRequest)).zip (outcome.plans.map artifactRequest) := by
    rw [List.zip_map_right]
    exact List.mem_map.2 ⟨_, mem_artifactItems mem, rfl⟩
  exact claimAll_cases claimed

/-- The plain name of every planned type is given to an artifact. -/
theorem Outcome.nameFor_mem {outcome : Outcome} {entry : String × Record PlanInput Plan}
    (mem : entry ∈ outcome.state.plans.entries) :
    Artifact.nameFor entry.2.output.site.display ∈ outcome.artifactNames := by
  have planMem : entry.2.output ∈ outcome.plans := mem_plans_iff.2 ⟨entry, mem, rfl⟩
  have requested : artifactRequest entry.2.output ∈ outcome.plans.map artifactRequest :=
    List.mem_map_of_mem planMem
  rcases mem_claimAll_of_base requested with taken | given
  · exact absurd taken List.not_mem_nil
  · exact given

/-! ### Places -/

/-- The places of the declarations in a pass. -/
def Outcome.placements (outcome : Outcome) (input : Input) : List Placement :=
  (input.planKeys.zip input.declared).map fun (key, site) => ⟨site, key, outcome.nameOf key⟩

/-- The placements are those of the declarations, in their order. -/
theorem Outcome.sites_placements (outcome : Outcome) (input : Input) :
    (outcome.placements input).map Placement.site = input.declared := by
  rw [placements, List.map_map]
  exact List.map_snd_zip (Nat.le_of_eq input.length_planKeys.symm)

/-- The placements stand under the keys of the plans, in their order. -/
theorem Outcome.keys_placements (outcome : Outcome) (input : Input) :
    (outcome.placements input).map Placement.key = input.planKeys := by
  rw [placements, List.map_map]
  exact List.map_fst_zip (Nat.le_of_eq input.length_planKeys)

/-- The placements have the names for these keys. -/
theorem Outcome.names_placements (outcome : Outcome) (input : Input) :
    (outcome.placements input).map Placement.name = input.planKeys.map outcome.nameOf := by
  rw [← outcome.keys_placements input, placements, List.map_map, List.map_map, List.map_map]
  rfl

/-- The names at the places are those that the plans are written under. -/
theorem Steps.names_placements_perm (steps : Steps previous input outcome)
    (sound : previous.Sound) :
    outcome.artifactNames.Perm ((outcome.placements input).map Placement.name) := by
  rw [outcome.names_placements, ← outcome.map_nameOf]
  exact (steps.planKeys_perm sound).map outcome.nameOf

/-- At every place stands a plan for its declaration. -/
theorem Steps.planned_at (steps : Steps previous input outcome) (sound : previous.Sound)
    {placement : Placement} (mem : placement ∈ outcome.placements input) : ∃ record,
      placement.name = outcome.nameOf placement.key ∧
      (placement.key, record) ∈ outcome.state.plans.entries ∧
      plain record.input = plain (planInput input placement.site) ∧
      plain record.output = plain (planInput input placement.site).plan := by
  obtain ⟨⟨key, site⟩, among, rfl⟩ := List.mem_map.1 mem
  obtain ⟨record, found⟩ := steps.exists_planned sound among
  exact ⟨record, rfl, found⟩

/-- At every place stands the artifact of its declaration. -/
theorem Steps.written_at (steps : Steps previous input outcome) (sound : previous.Sound)
    {placement : Placement} (mem : placement ∈ outcome.placements input) : ∃ plan,
      plain plan = plain (planInput input placement.site).plan ∧
      (placement.name, ⟨plan, Render.accessors (planInput input placement.site).plan⟩) ∈
        outcome.state.artifacts.entries := by
  obtain ⟨record, sameName, found, -, output⟩ := steps.planned_at sound mem
  have written := steps.mem_written sound found
  rw [accessors_of_plain output, ← sameName] at written
  exact ⟨record.output, output, written⟩

/-- At every place stands the plain name of its declaration, or a numbered one. -/
theorem Steps.named_at (steps : Steps previous input outcome) (sound : previous.Sound)
    {placement : Placement} (mem : placement ∈ outcome.placements input) :
    placement.name = Artifact.nameFor placement.site.display ∨
      ∃ count, 2 ≤ count ∧
        placement.name = Artifact.numberedName (Artifact.stemFor placement.site.display) count ∧
        ∃ other ∈ outcome.placements input,
          other.name = Artifact.nameFor placement.site.display := by
  obtain ⟨record, sameName, found, -, output⟩ := steps.planned_at sound mem
  have display : record.output.site.display = placement.site.display :=
    congrArg (fun plan => plan.site.display) output
  have given := (steps.names_placements_perm sound).mem_iff.1 (outcome.nameFor_mem found)
  rw [← display, sameName]
  rcases outcome.nameOf_cases found with same | ⟨count, atLeast, same⟩
  · exact .inl same
  · obtain ⟨other, otherMem, otherName⟩ := List.mem_map.1 given
    exact .inr ⟨count, atLeast, same, other, otherMem, otherName⟩

/-- A pass from a sound state gives every declaration its place. -/
theorem Steps.places (steps : Steps previous input outcome) (sound : previous.Sound) :
    outcome.Places input (outcome.placements input) := by
  have names := steps.names_placements_perm sound
  constructor
  case sites => exact outcome.sites_placements input
  case keys =>
    rw [outcome.keys_placements]
    exact steps.planKeys_perm sound
  case names => exact steps.artifactNames_perm.trans names
  case distinctKeys =>
    rw [outcome.keys_placements]
    exact nodup_siteKeys _
  case distinctNames => exact names.nodup_iff.1 (nodup_artifactNames _)
  case planned =>
    intro placement mem
    obtain ⟨record, -, found, input, output⟩ := steps.planned_at sound mem
    exact ⟨record, Keyed.find?_eq_some_iff.2 found, (beq_iff _ _).2 input, (beq_iff _ _).2 output⟩
  case written =>
    intro placement mem
    obtain ⟨plan, same, written⟩ := steps.written_at sound mem
    exact ⟨plan, (beq_iff _ _).2 same, Keyed.find?_eq_some_iff.2 written⟩
  case named => exact fun placement mem => steps.named_at sound mem
  case artifacts =>
    obtain ⟨text, artifacts⟩ := steps.exists_artifacts sound
    refine ⟨text, ?_⟩
    rw [artifacts, Outcome.siteArtifacts, List.map_map]
    rfl
  case included =>
    rw [Outcome.siteArtifacts, List.map_map]
    rfl
  case ascending => exact outcome.state.artifacts.pairwise_keys

end Pass

namespace Generator

/-- A run that succeeds, after any history, gives every declaration its place. -/
theorem exists_placements (events : List Event) {input : Input} {token : Cancellation}
    {outcome : Outcome} {next : Generator}
    (ran : (new.afterAll events).run input token = (.ok outcome, next)) :
    ∃ placements, outcome.Places input placements :=
  ⟨_, (steps_of_run ran).1.places (sound_afterAll events)⟩

/-- A project that declares one type for each of two systems. -/
def alternatives : Input where
  options := ⟨false, ⟨"/project"⟩, "Demo"⟩
  sources := [⟨⟨"/project/src/lib.rs"⟩, [],
    "#[cfg(unix)] #[embedded_resource_properties] pub struct Notes;\n" ++
    "#[cfg(windows)] #[embedded_resource_properties] pub struct Notes;\n"⟩]
  files := []
  embedded := none

/-- Both declarations of the type have their places when nothing is computed anew. -/
theorem exists_placements_alternatives :
    ∃ outcome placements,
      (new.afterAll [.run alternatives .never, .reload]).run alternatives .never =
        (.ok outcome, ⟨outcome.state⟩) ∧
      outcome.Places alternatives placements ∧ placements.length = 2 := by
  obtain ⟨outcome, ran⟩ :=
    run_never (new.afterAll [.run alternatives .never, .reload]) alternatives
  obtain ⟨placements, places⟩ := exists_placements [.run alternatives .never, .reload] ran
  have declared : alternatives.declared.length = 2 := by decide +kernel
  refine ⟨outcome, placements, ran, places, ?_⟩
  rw [← declared, ← places.sites, List.length_map]

end Generator

end ResourceAccessors.Generation
