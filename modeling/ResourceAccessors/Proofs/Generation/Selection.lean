import ResourceAccessors.Proofs.Generation.Pass
import ResourceAccessors.Proofs.Generation.Placement
import ResourceAccessors.Proofs.Generation.Spelling
import ResourceAccessors.Proofs.Resource.Selection

/-!
# Every declaration takes its resources from all files

A first pass gives the same without the files that no declaration selects: the plan of every
declaration is the same, and all else that a pass gives is made from the plans.

A pass sorts the files into their folders and gives each declaration the files of one folder. The
accessors are still those for what the declaration selects among all files, in any order and with
repeated paths, and whatever the generator did before.
-/

namespace ResourceAccessors.Generation

/-- Two passes give the same. -/
structure Outcome.GivesSame (one other : Outcome) : Prop where
  artifacts : one.artifacts = other.artifacts
  diagnostics : one.diagnostics = other.diagnostics
  searchPaths : one.searchPaths = other.searchPaths
  embedded : one.embedded = other.embedded

/-- Two inputs differ in their files only. -/
structure Input.SameButFiles (one other : Input) : Prop where
  options : one.options = other.options
  sources : one.sources = other.sources
  embedded : one.embedded = other.embedded

/-- The same files are embedded for the same plans. -/
theorem Input.SameButFiles.embeddedFiles_eq {one other : Input} (same : one.SameButFiles other)
    (plans : List Plan) : embeddedFiles one plans = embeddedFiles other plans := by
  rw [embeddedFiles, embeddedFiles, same.embedded, same.options]

/-- A step that starts without records has the computed outputs. -/
theorem outputs_recordsOf_empty {α β : Type} [BEq α] [BEq β] (compute : α → β)
    (items : List (String × α)) : outputs (Step.recordsOf compute .empty items) =
      (Keyed.ofList (items.map fun item => (item.1, compute item.2))).values := by
  rw [Step.recordsOf_empty, outputs, Keyed.values_mapValues, List.map_map, Keyed.ofList_map compute,
    Keyed.values_mapValues]
  rfl

/-- Every declaration that a first pass finds stands in a source. -/
theorem Steps.exists_source_of_mem_sites {input : Input} {outcome : Outcome}
    (steps : Steps .empty input outcome) {site : Declaration.Site} (mem : site ∈ outcome.sites) :
    ∃ source ∈ input.sources, site ∈ source.sites := by
  obtain ⟨sites, listed, siteMem⟩ := List.mem_flatten.1 mem
  rw [steps.extraction] at listed
  obtain ⟨record, recordMem, rfl⟩ := List.mem_map.1 listed
  obtain ⟨entry, entryMem, rfl⟩ := List.mem_map.1 recordMem
  obtain ⟨item, itemMem, rfl⟩ := Step.exists_of_mem_recordsOf entryMem
  obtain ⟨source, sourceMem, rfl⟩ := List.mem_map.1 itemMem
  exact ⟨source, sourceMem, siteMem⟩

/-- First passes that make the same plans for their declarations give the same. -/
theorem Steps.givesSame_of_sites {input other : Input} {outcome otherOutcome : Outcome}
    (steps : Steps .empty input outcome) (otherSteps : Steps .empty other otherOutcome)
    (same : input.SameButFiles other)
    (plans : ∀ site ∈ outcome.sites, (planInput input site).plan = (planInput other site).plan) :
    outcome.GivesSame otherOutcome := by
  have sites : outcome.sites = otherOutcome.sites := by
    rw [Outcome.sites, Outcome.sites, steps.extraction, otherSteps.extraction, same.sources]
  have planned : outcome.plans = otherOutcome.plans := by
    have items : (planItems input outcome.sites).map (fun item => (item.1, item.2.plan)) =
        (planItems other otherOutcome.sites).map fun item => (item.1, item.2.plan) := by
      have each : outcome.sites.map (PlanInput.plan ∘ planInput input) =
          outcome.sites.map (PlanInput.plan ∘ planInput other) :=
        List.map_congr_left plans
      have zipped : ∀ (keys : List String) (inputs : List PlanInput),
          (keys.zip inputs).map (fun item => (item.1, item.2.plan)) =
            keys.zip (inputs.map PlanInput.plan) := by
        intro keys inputs
        rw [List.zip_map_right]
        rfl
      rw [planItems, planItems, zipped, zipped, List.map_map, List.map_map, ← sites, each]
    rw [Outcome.plans, Outcome.plans, steps.plans, otherSteps.plans]
    have empty : State.empty.plans = .empty := rfl
    rw [empty, outputs_recordsOf_empty, outputs_recordsOf_empty, items]
  have written : outcome.state.artifacts = otherOutcome.state.artifacts := by
    rw [steps.written, otherSteps.written, planned]
  have embedded : embeddedFiles input outcome.plans = embeddedFiles other otherOutcome.plans := by
    rw [planned, same.embeddedFiles_eq]
  have manifest : outcome.state.manifest = otherOutcome.state.manifest := by
    rw [steps.manifest, otherSteps.manifest, Outcome.manifestInput, Outcome.manifestInput, embedded,
      written, same.options]
  constructor
  case artifacts =>
    rw [steps.artifacts, otherSteps.artifacts, Outcome.siteArtifacts, Outcome.siteArtifacts,
      written, manifest]
  case diagnostics => rw [steps.diagnostics, otherSteps.diagnostics, embedded, planned]
  case searchPaths =>
    rw [steps.searchPaths, otherSteps.searchPaths, sites, same.options]
  case embedded => rw [steps.embedded, otherSteps.embedded, embedded]

/-- First passes over inputs with the same plans give the same. -/
theorem Steps.givesSame {input other : Input} {outcome otherOutcome : Outcome}
    (steps : Steps .empty input outcome) (otherSteps : Steps .empty other otherOutcome)
    (same : input.SameButFiles other)
    (plans : ∀ source ∈ input.sources, ∀ site ∈ source.sites,
      (planInput input site).plan = (planInput other site).plan) :
    outcome.GivesSame otherOutcome := by
  apply steps.givesSame_of_sites otherSteps same
  intro site mem
  obtain ⟨source, sourceMem, siteMem⟩ := steps.exists_source_of_mem_sites mem
  exact plans source sourceMem site siteMem

/-- The files that a search selects lie in its folder. -/
theorem filter_filesIn (folder : FilePath) (extension : String) (files : List Resource.File) :
    (filesIn folder files).filter (Resource.File.matchesSearch folder extension) =
      files.filter (Resource.File.matchesSearch folder extension) := by
  rw [filesIn_eq, List.filter_filter]
  apply List.filter_congr
  intro file _
  rw [Bool.and_eq_left_iff_imp]
  exact fun selected => (Bool.and_eq_true_iff.1 selected).1

/-- The plan of a declaration is the same when it selects the same files. -/
theorem Input.SameButFiles.plan_eq_of_selected {input other : Input} {site : Declaration.Site}
    (same : input.SameButFiles other)
    (selected : input.files.filter (Resource.File.matchesSearch
        (site.searchPath other.options.projectDir) site.arguments.extension) =
      other.files.filter (Resource.File.matchesSearch
        (site.searchPath other.options.projectDir) site.arguments.extension)) :
    (planInput input site).plan = (planInput other site).plan := by
  simp only [planInput, PlanInput.plan, Resource.select, same.options, filter_filesIn, selected]

/-- Plans do not change when only files are left out that the declaration does not select. -/
theorem Input.SameButFiles.plan_eq_of_filter {input other : Input} {site : Declaration.Site}
    (same : input.SameButFiles other) {keeps : Resource.File → Bool}
    (files : input.files = other.files.filter keeps)
    (kept : ∀ file ∈ other.files, file.matchesSearch (site.searchPath other.options.projectDir)
      site.arguments.extension = true → keeps file = true) :
    (planInput input site).plan = (planInput other site).plan := by
  apply same.plan_eq_of_selected
  rw [files, List.filter_filter]
  apply List.filter_congr
  intro file mem
  cases matching : file.matchesSearch (site.searchPath other.options.projectDir)
      site.arguments.extension with
  | false => rfl
  | true => exact kept file mem matching

open Spelled

/-! ### Candidates of a declaration -/

/-- The candidates that a declaration selects among all files. -/
def Input.candidatesFor (input : Input) (site : Declaration.Site) : List Resource.Candidate :=
  Resource.select (site.searchPath input.options.projectDir) site.arguments.extension input.files
    input.options

/-- The accessors for the candidates that a declaration selects among all files. -/
def Input.propertiesFor (input : Input) (site : Declaration.Site) : List Property :=
  (input.candidatesFor site).map (Property.ofCandidate site.name)

/-- Every declaration has a plan with the accessors for what it selects among all files. -/
structure Outcome.Selects (outcome : Outcome) (input : Input) : Prop where
  /-- The declarations have one plan each, and there are no other plans. -/
  keys : outcome.state.plans.keys.Perm input.planKeys
  /-- Under the key of a declaration stands a plan for it, with its accessors. -/
  plans : ∀ place ∈ input.planKeys.zip input.declared, ∃ record,
    outcome.state.plans.find? place.1 = some record ∧
    (record.output.site == place.2) = true ∧
    (record.output.properties == input.propertiesFor place.2) = true
  /-- A search path is in its normal form. -/
  normal : ∀ site ∈ input.declared, (site.searchPath input.options.projectDir).normal =
    site.searchPath input.options.projectDir
  /-- The candidates are those of all files in the folder with the extension. -/
  candidates : ∀ site ∈ input.declared,
    Resource.IsSelection (site.searchPath input.options.projectDir) site.arguments.extension
      input.files input.options (input.candidatesFor site)

/-! ### One pass -/

section Pass

variable {previous : State} {input : Input} {outcome : Outcome}

/-- The accessors of a plan are those for what its declaration selects among all files. -/
theorem properties_plan (input : Input) (site : Declaration.Site) :
    (planInput input site).plan.properties = input.propertiesFor site := by
  simp only [planInput, PlanInput.plan, Input.propertiesFor, Input.candidatesFor, Resource.select,
    filter_filesIn]

/-- Under the key of a declaration stands a plan for it. -/
theorem Steps.exists_plan_at (steps : Steps previous input outcome) (sound : previous.Sound)
    {place : String × Declaration.Site} (mem : place ∈ input.planKeys.zip input.declared) :
    ∃ record, outcome.state.plans.find? place.1 = some record ∧
      plain record.output.site = plain place.2 ∧
      record.output.properties.map plain = (input.propertiesFor place.2).map plain := by
  obtain ⟨record, among, -, made⟩ := steps.exists_planned sound mem
  refine ⟨record, Keyed.find?_eq_some_iff.2 among, congrArg Plan.site made, ?_⟩
  rw [← properties_plan]
  exact congrArg Plan.properties made

/-- A pass from a sound state gives every declaration what it selects. -/
theorem Steps.selects (steps : Steps previous input outcome) (sound : previous.Sound) :
    outcome.Selects input where
  keys := steps.planKeys_perm sound
  plans place mem := by
    obtain ⟨record, found, site, properties⟩ := steps.exists_plan_at sound mem
    exact ⟨record, found, (beq_iff _ _).2 site, (beq_iff _ _).2 properties⟩
  normal site _ := FilePath.normal_normal _
  candidates site _ := Resource.isSelection_select _ _ _ _

/-- The files that a declaration selects. -/
def Input.selectedBy (input : Input) (site : Declaration.Site) : List Resource.File :=
  input.files.filter (Resource.File.matchesSearch (site.searchPath input.options.projectDir)
    site.arguments.extension)

/-- A declaration gets as many accessors as it selects files. -/
theorem Steps.exists_plan_length (steps : Steps previous input outcome) (sound : previous.Sound)
    {place : String × Declaration.Site} (mem : place ∈ input.planKeys.zip input.declared) :
    ∃ record, outcome.state.plans.find? place.1 = some record ∧
      record.output.properties.length = (input.selectedBy place.2).length := by
  obtain ⟨record, found, -, same⟩ := steps.exists_plan_at sound mem
  have lengths := congrArg List.length same
  rw [List.length_map, List.length_map, Input.propertiesFor, List.length_map, Input.candidatesFor,
    Resource.select, List.length_mergeSort, List.length_map] at lengths
  exact ⟨record, found, lengths⟩

/-- The accessors of a settled plan have no second spelling. -/
theorem Plan.Settled.map_plain {plan : Plan} (settled : plan.Settled) :
    plan.properties.map plain = plan.properties := by
  have each : ∀ property ∈ plan.properties, plain property = id property := by
    intro property mem
    simp [settled property mem]
  rw [List.map_congr_left each, List.map_id]

/-- Where all files were made, the paths of the candidates are also written in the same way. -/
theorem Steps.properties_eq (steps : Steps previous input outcome) (sound : previous.Sound)
    (made : input.FilesMade) (settled : previous.PlansSettled)
    {place : String × Declaration.Site} (mem : place ∈ input.planKeys.zip input.declared) :
    ∃ record, outcome.state.plans.find? place.1 = some record ∧
      record.output.properties = input.propertiesFor place.2 := by
  obtain ⟨record, found, -, properties⟩ := steps.exists_plan_at sound mem
  have stored := steps.settled_plans made settled _ (Keyed.find?_eq_some_iff.1 found)
  rw [← properties_plan] at properties ⊢
  rw [stored.map_plain, (made.settled_plan place.2).map_plain] at properties
  exact ⟨record, found, properties⟩

end Pass

/-! ### Every run -/

namespace Generator

/-- A run that succeeds, after any history, gives every declaration the accessors for what it selects
among all files. Equal paths may be written differently in the history; they are written in the same
way where all files were made from a path and a content. -/
theorem run_selects (events : List Event) {input : Input} {token : Cancellation}
    {outcome : Outcome} {next : Generator}
    (ran : (new.afterAll events).run input token = (.ok outcome, next)) :
    outcome.Selects input ∧
    ((∀ given ∈ input :: new.succeeded events, given.FilesMade) →
      ∀ place ∈ input.planKeys.zip input.declared, ∃ record,
        outcome.state.plans.find? place.1 = some record ∧
        record.output.properties = input.propertiesFor place.2) := by
  have steps := (steps_of_run ran).1
  have sound := sound_afterAll events
  refine ⟨steps.selects sound, fun made place mem => ?_⟩
  have settled := settled_plans_afterAll fun earlier among => made earlier (List.mem_cons_of_mem _ among)
  exact steps.properties_eq sound (made input List.mem_cons_self) settled mem

/-- A project whose files are listed in no order, one of them twice with different contents. -/
def unordered : Input where
  options := ⟨false, ⟨"/project"⟩, "Demo"⟩
  sources := [⟨⟨"/project/src/lib.rs"⟩, [],
    "#[embedded_resource_properties(\".sql\", \"/sql\")] pub struct Queries;"⟩]
  files := [.make ⟨"/project/sql/select.all.sql"⟩ (some "third"),
    .make ⟨"/project/sql/old/drop.sql"⟩ (some "below the folder"),
    .make ⟨"/project/sql/insert.sql"⟩ (some "first"),
    .make ⟨"/project/./sql//insert.sql"⟩ (some "second"),
    .make ⟨"/project/sql/update.SQL"⟩ (some "another extension")]
  embedded := none

/-- A run over the same files from the end, a cancelled run and a reload. -/
def beforeUnordered : List Event :=
  [.run { unordered with files := unordered.files.reverse } .never, .run unordered .immediate,
    .reload]

/-- All files of the inputs are made from a path and a content. -/
theorem filesMade_unordered : ∀ given ∈ unordered :: new.succeeded beforeUnordered,
    given.FilesMade := by
  have made : unordered.FilesMade := by
    intro file mem
    simp only [unordered, List.mem_cons, List.not_mem_nil, or_false] at mem
    rcases mem with rfl | rfl | rfl | rfl | rfl <;> exact ⟨_, _, rfl⟩
  intro given mem
  rcases List.mem_cons.1 mem with rfl | earlier
  · exact made
  · obtain ⟨token, among⟩ := exists_run_of_mem_succeeded earlier
    simp only [beforeUnordered, List.mem_cons, Event.run.injEq, reduceCtorEq, List.not_mem_nil,
      or_false] at among
    rcases among with ⟨rfl, -⟩ | ⟨rfl, -⟩
    · exact fun file fileMem => made file (List.mem_reverse.1 fileMem)
    · exact made

/-- The only declaration searches for one extension in a folder of the project. -/
theorem exists_declared_unordered : ∃ site, unordered.declared = [site] ∧
    site.searchPath unordered.options.projectDir = ⟨"/project/sql"⟩ ∧
    site.arguments.extension = ".sql" := by
  have seen : unordered.declared.map (fun site =>
      ((site.searchPath unordered.options.projectDir).text, site.arguments.extension)) =
        [("/project/sql", ".sql")] := by decide +kernel
  obtain ⟨site, declared, same⟩ := List.map_eq_singleton_iff.1 seen
  obtain ⟨text, extension⟩ := Prod.mk.inj same
  exact ⟨site, declared, congrArg FilePath.mk text, extension⟩

/-- The file that is listed twice is selected both times, and the accessors stand in order. -/
theorem run_selects_unordered : ∃ outcome record,
    (new.afterAll beforeUnordered).run unordered .never = (.ok outcome, ⟨outcome.state⟩) ∧
    outcome.state.plans.find? "/project/src/lib.rs#Queries" = some record ∧
    record.output.properties.map (·.candidate.fileName) =
      ["insert.sql", "insert.sql", "select.all.sql"] := by
  obtain ⟨outcome, ran⟩ := run_never (new.afterAll beforeUnordered) unordered
  obtain ⟨selects, written⟩ := run_selects beforeUnordered ran
  obtain ⟨site, declared, folder, extension⟩ := exists_declared_unordered
  have keys : unordered.planKeys = ["/project/src/lib.rs#Queries"] := by decide +kernel
  have place : ("/project/src/lib.rs#Queries", site) ∈
      unordered.planKeys.zip unordered.declared := by
    rw [keys, declared]
    exact List.mem_singleton_self _
  obtain ⟨record, found, properties⟩ := written filesMade_unordered _ place
  refine ⟨outcome, record, ran, found, ?_⟩
  obtain ⟨exact, ordered⟩ := selects.candidates site (List.of_mem_zip place).2
  have names := exact.map Resource.Candidate.fileName
  rw [folder, extension] at names
  rw [properties, Input.propertiesFor, List.map_map]
  -- The names in order are determined by the names in any order.
  refine List.Perm.eq_of_pairwise (fun _ _ _ _ => String.le_antisymm)
    (List.pairwise_map.2 ordered) (by decide +kernel) (names.trans ?_)
  decide +kernel

/-- A project with one file, whose name is not text, and two declarations for its folder: one searches for
the extension that the bytes of the name end with, the other one for files without an extension. -/
def unreadName : Input where
  options := ⟨false, ⟨"/project"⟩, "Demo"⟩
  sources := [⟨⟨"/project/src/lib.rs"⟩, [],
    "#[embedded_resource_properties] pub struct Notes;\n" ++
    "#[embedded_resource_properties(\"\", \"/src/Notes\")] pub struct Plain;"⟩]
  files := [.make ⟨"/project/src/Notes/a\x00ÿ.txt"⟩ (some "one")]
  embedded := none

/-- A project in the working folder, with a declaration for files there without an extension. The only file
has a path that ends in no name. -/
def parentFile : Input where
  options := ⟨false, ⟨""⟩, "Demo"⟩
  sources := [⟨⟨"src/lib.rs"⟩, [], "#[embedded_resource_properties(\"\", \"/\")] pub struct Notes;"⟩]
  files := [.make ⟨".."⟩ (some "one")]
  embedded := none

/-- The declaration for the extension gets no accessor for the file whose name is not text, and the one for
files without an extension gets one. So it does for the file whose path ends in no name. -/
theorem not_selects_by_ending :
    FileName.EndsIn "a\x00ÿ.txt" ".txt" ∧ ¬ FileName.EndsIn "a\x00ÿ.txt" "" ∧
    (∃ outcome byExtension without, new.run unreadName .never = (.ok outcome, ⟨outcome.state⟩) ∧
      outcome.state.plans.find? "/project/src/lib.rs#Notes" = some byExtension ∧
      byExtension.output.properties.length = 0 ∧
      outcome.state.plans.find? "/project/src/lib.rs#Plain" = some without ∧
      without.output.properties.length = 1) ∧
    (⟨".."⟩ : FilePath).fileName? = none ∧
    ∃ outcome record, new.run parentFile .never = (.ok outcome, ⟨outcome.state⟩) ∧
      outcome.state.plans.find? "src/lib.rs#Notes" = some record ∧
      record.output.properties.length = 1 := by
  refine ⟨by decide, by decide, ?_, by decide, ?_⟩
  · obtain ⟨outcome, ran⟩ := run_never new unreadName
    have steps := (steps_of_run ran).1
    have none : ∃ place ∈ unreadName.planKeys.zip unreadName.declared,
        place.1 = "/project/src/lib.rs#Notes" ∧ (unreadName.selectedBy place.2).length = 0 := by
      decide +kernel
    have one : ∃ place ∈ unreadName.planKeys.zip unreadName.declared,
        place.1 = "/project/src/lib.rs#Plain" ∧ (unreadName.selectedBy place.2).length = 1 := by
      decide +kernel
    obtain ⟨place, mem, key, selected⟩ := none
    obtain ⟨other, otherMem, otherKey, otherSelected⟩ := one
    obtain ⟨byExtension, found, length⟩ := steps.exists_plan_length State.sound_empty mem
    obtain ⟨without, otherFound, otherLength⟩ := steps.exists_plan_length State.sound_empty otherMem
    exact ⟨outcome, byExtension, without, ran, key ▸ found, length.trans selected,
      otherKey ▸ otherFound, otherLength.trans otherSelected⟩
  · obtain ⟨outcome, ran⟩ := run_never new parentFile
    have one : ∃ place ∈ parentFile.planKeys.zip parentFile.declared,
        place.1 = "src/lib.rs#Notes" ∧ (parentFile.selectedBy place.2).length = 1 := by
      decide +kernel
    obtain ⟨place, mem, key, selected⟩ := one
    obtain ⟨record, found, length⟩ := (steps_of_run ran).1.exists_plan_length State.sound_empty mem
    exact ⟨outcome, record, ran, key ▸ found, length.trans selected⟩

end Generator

end ResourceAccessors.Generation
