import Mathlib.Data.List.Induction
import ResourceAccessors.Proofs.Generation.RuntimeReads
import ResourceAccessors.Proofs.Render.Functions

/-!
# Accessors with one name

Different files can lead to one accessor name, and then the code of a type does not compile. The diagnostics
of a pass name every such accessor of a type once, with all of its files, and no other.
-/

namespace ResourceAccessors

namespace Accessor

/-- An identifier consists of characters that continue one. -/
theorem IsIdentifier.continues {chars : List Char} (identifier : IsIdentifier chars) :
    ∀ c ∈ chars, Text.continuesIdentifier c = true := by
  obtain ⟨first, others, rfl, starts, continues⟩ := identifier
  intro c mem
  rcases List.mem_cons.1 mem with rfl | later
  · rcases starts with rfl | starts
    · exact continuesIdentifier_underscore
    · exact Text.continuesIdentifier_of_starts starts
  · exact continues c later

/-- A name consists of characters that continue identifiers. -/
theorem continues_of_mem_name {fileName typeName : String} {c : Char}
    (mem : c ∈ (name fileName typeName).toList) : Text.continuesIdentifier c = true := by
  have made (text : String) : ∀ c ∈ (identifierFor text).toList, Text.continuesIdentifier c = true := by
    by_cases empty : text = ""
    · subst empty
      intro c mem
      cases mem
    · exact (isIdentifier_identifierFor empty).1.continues
  have chosen : ∃ text, name fileName typeName = identifierFor text ∨
      name fileName typeName = identifierFor text ++ "_" := by
    by_cases unusable : identifierFor (FileName.stem fileName) = "" ∨
        identifierFor (FileName.stem fileName) = typeName
    · exact ⟨fileName, by by_cases reserved : identifierFor fileName ∈ reservedNames <;> simp [name, *]⟩
    · exact ⟨FileName.stem fileName, by
        by_cases reserved : identifierFor (FileName.stem fileName) ∈ reservedNames <;> simp [name, *]⟩
  obtain ⟨text, same | same⟩ := chosen
  · exact made text c (same ▸ mem)
  · rw [same, String.toList_append, List.mem_append] at mem
    rcases mem with before | underscore
    · exact made text c before
    · obtain rfl : c = '_' := by simpa using underscore
      exact continuesIdentifier_underscore

end Accessor

namespace Generation

open Spelled

/-! ### Files behind names -/

/-- The files behind the accessors with a name, in the order of the candidates. -/
def fileNamesOf (properties : List Property) (name : String) : List String :=
  (properties.filter (·.name = name)).map (·.candidate.fileName)

/-- A name has as many files as there are accessors with it. -/
theorem length_fileNamesOf (properties : List Property) (name : String) :
    (fileNamesOf properties name).length = (properties.map Property.name).count name := by
  rw [fileNamesOf, List.length_map, ← List.countP_eq_length_filter, List.count, List.countP_map]
  rfl

/-- One more accessor adds its file to those of its name. -/
theorem fileNamesOf_concat (others : List Property) (last : Property) (name : String) :
    fileNamesOf (others ++ [last]) name =
      fileNamesOf others name ++ if last.name = name then [last.candidate.fileName] else [] := by
  by_cases same : last.name = name <;> simp [fileNamesOf, same]

namespace Diagnostic

/-- Under every name of an accessor stand its files. -/
theorem find?_fileNamesByName (properties : List Property) (name : String) :
    (fileNamesByName properties).find? name =
      if fileNamesOf properties name = [] then none else some (fileNamesOf properties name) := by
  induction properties using List.reverseRecOn with
  | nil => rfl
  | append_singleton others last ih =>
    have step : fileNamesByName (others ++ [last]) = (fileNamesByName others).insert last.name
        (((fileNamesByName others).find? last.name).getD [] ++ [last.candidate.fileName]) := by
      simp [fileNamesByName]
    rw [step, Keyed.find?_insert, fileNamesOf_concat]
    by_cases same : name = last.name
    · subst same
      by_cases none : fileNamesOf others last.name = [] <;> simp [ih, none]
    · simp [ih, same, Ne.symm same]

/-- The names that several accessors share, in their order. -/
def sharedNames (properties : List Property) : List String :=
  ((fileNamesByName properties).entries.filter fun entry => entry.2.length > 1).map Prod.fst

/-- The shared names ascend. -/
theorem pairwise_sharedNames (properties : List Property) :
    (sharedNames properties).Pairwise (· < ·) := by
  rw [sharedNames, List.pairwise_map]
  exact (fileNamesByName properties).ascending.filter _

/-- The entry of a name holds its files. -/
theorem mem_entries_fileNamesByName {properties : List Property} {entry : String × List String} :
    entry ∈ (fileNamesByName properties).entries ↔
      fileNamesOf properties entry.1 ≠ [] ∧ entry.2 = fileNamesOf properties entry.1 := by
  obtain ⟨name, files⟩ := entry
  rw [← Keyed.find?_eq_some_iff, find?_fileNamesByName]
  by_cases none : fileNamesOf properties name = []
  · simp [none]
  · simp [none, eq_comm]

/-- A name is shared when two accessors have it. -/
theorem mem_sharedNames {properties : List Property} {name : String} :
    name ∈ sharedNames properties ↔ 2 ≤ (properties.map Property.name).count name := by
  rw [← length_fileNamesOf, sharedNames, List.mem_map]
  constructor
  · rintro ⟨entry, mem, rfl⟩
    obtain ⟨inside, several⟩ := List.mem_filter.1 mem
    rw [← (mem_entries_fileNamesByName.1 inside).2]
    exact of_decide_eq_true several
  · intro several
    have some : fileNamesOf properties name ≠ [] := List.ne_nil_of_length_pos (by omega)
    exact ⟨(name, fileNamesOf properties name),
      List.mem_filter.2 ⟨mem_entries_fileNamesByName.2 ⟨some, rfl⟩, decide_eq_true several⟩, rfl⟩

/-- The shared names are reported, each with its files. -/
theorem duplicates_eq (type : String) (properties : List Property) :
    duplicates type properties =
      (sharedNames properties).map fun name => .duplicateName type name (fileNamesOf properties name) := by
  rw [duplicates, sharedNames, List.map_map, ← List.filterMap_eq_map, List.filterMap_filter]
  apply List.filterMap_congr
  intro entry mem
  have files := (mem_entries_fileNamesByName.1 mem).2
  by_cases several : entry.2.length > 1
  · simp [several, ← files]
  · simp [several]

/-- Whether a problem is that of accessors with one name. -/
def isDuplicateName : Diagnostic → Bool
  | .duplicateName .. => true
  | _ => false

/-- The accessors with one name are reported for each type by itself. -/
theorem filter_ofPlan (embedded : List String) (plan : Plan) :
    (ofPlan embedded plan).filter isDuplicateName = duplicates plan.site.display plan.properties := by
  have ofProperty (property : Property) :
      (ofProperty plan.site.display embedded property).filter isDuplicateName = [] := by
    rw [Diagnostic.ofProperty, List.filter_append]
    split <;> split <;> rfl
  have reachable : ((if plan.site.isReachable then [] else [.unreachableType plan.site.display] :
      List Diagnostic)).filter isDuplicateName = [] := by
    split <;> rfl
  have named : (duplicates plan.site.display plan.properties).filter isDuplicateName =
      duplicates plan.site.display plan.properties := by
    rw [duplicates_eq]
    exact List.filter_eq_self.2 (List.forall_mem_map.2 fun _ _ => rfl)
  rw [ofPlan]
  simp only [List.filter_append, reachable, List.filter_flatMap, ofProperty, named]
  simp

/-- A report of a name tells its type, and its files if several accessors share it. -/
theorem duplicateName_mem_ofPlan {embedded : List String} {plan : Plan} {type name : String}
    {fileNames : List String} : duplicateName type name fileNames ∈ ofPlan embedded plan ↔
      type = plan.site.display ∧ 2 ≤ (plan.properties.map Property.name).count name ∧
        fileNames = fileNamesOf plan.properties name := by
  have among : duplicateName type name fileNames ∈ ofPlan embedded plan ↔
      duplicateName type name fileNames ∈ (ofPlan embedded plan).filter isDuplicateName := by
    simp [isDuplicateName]
  rw [among, filter_ofPlan, duplicates_eq, List.mem_map]
  constructor
  · rintro ⟨shared, mem, same⟩
    cases same
    exact ⟨rfl, mem_sharedNames.1 mem, rfl⟩
  · rintro ⟨rfl, several, rfl⟩
    exact ⟨name, mem_sharedNames.2 several, rfl⟩

end Diagnostic

/-! ### Reports of a pass -/

/-- The problems that a pass reports of a plan. -/
def Outcome.report (outcome : Outcome) (plan : Plan) : List Diagnostic :=
  Diagnostic.ofPlan (outcome.listed.map Render.EmbeddedFile.resourceName) plan

/-- A report names every accessor of a plan that is defined more than once, and no other. -/
structure Plan.NamesReported (plan : Plan) (artifact : Artifact) (report : List Diagnostic) : Prop where
  rendered : artifact.text = Render.accessors plan
  /-- The functions of the artifact are the accessors. -/
  functions : Render.functionNames artifact.text = plan.properties.map Property.name
  nodup_iff : (Render.functionNames artifact.text).Nodup ↔
    ∀ type name fileNames, .duplicateName type name fileNames ∉ report
  /-- The shared names are reported once each, in ascending order and with their files. -/
  reported : ∃ names : List String,
    names.Pairwise (fun left right => Text.bytes left < Text.bytes right) ∧
    (∀ name, name ∈ names ↔ 2 ≤ (plan.properties.map Property.name).count name) ∧
    report.filter Diagnostic.isDuplicateName = names.map fun name =>
      .duplicateName plan.site.display name (fileNamesOf plan.properties name)

/-- The report of a plan whose accessors have legal names. -/
theorem Plan.namesReported {plan : Plan} (continues : ∀ property ∈ plan.properties,
    ∀ c ∈ property.name.toList, Text.continuesIdentifier c = true) {artifact : Artifact}
    (rendered : artifact.text = Render.accessors plan) (embedded : List String) :
    plan.NamesReported artifact (Diagnostic.ofPlan embedded plan) := by
  have functions : Render.functionNames artifact.text = plan.properties.map Property.name := by
    rw [rendered, Render.functionNames_accessors continues]
  refine ⟨rendered, functions, ?_, Diagnostic.sharedNames plan.properties, ?_,
    fun name => Diagnostic.mem_sharedNames, by rw [Diagnostic.filter_ofPlan, Diagnostic.duplicates_eq]⟩
  · rw [functions, List.nodup_iff_count_le_one]
    constructor
    · intro atMost type name fileNames mem
      have several := (Diagnostic.duplicateName_mem_ofPlan.1 mem).2.1
      have once := atMost name
      omega
    · intro silent name
      by_contra several
      exact silent _ name _ (Diagnostic.duplicateName_mem_ofPlan.2 ⟨rfl, by omega, rfl⟩)
  · exact (Diagnostic.pairwise_sharedNames plan.properties).imp Text.bytes_lt_iff.2

section Pass

variable {previous : State} {input : Input} {outcome : Outcome}

/-- Every plan of a pass is made from a declaration that the pass found. -/
theorem Steps.exists_combined (steps : Steps previous input outcome) (sound : previous.Sound)
    {plan : Plan} (mem : plan ∈ outcome.plans) : ∃ site ∈ outcome.sites,
      plain plan = plain (planInput input site).plan := by
  obtain ⟨entry, entryMem, rfl⟩ := Outcome.mem_plans_iff.1 mem
  rw [steps.plans] at entryMem
  obtain ⟨item, itemMem, rfl⟩ := Step.exists_of_mem_recordsOf entryMem
  obtain ⟨site, siteMem, given⟩ := exists_site_of_mem_planItems itemMem
  refine ⟨site, siteMem, ?_⟩
  rw [← given]
  exact Step.plain_outputFor respects_plan sound.plans item.1 item.2

/-- The accessors of a pass have names that are made from those of files. -/
theorem Steps.continues_name (steps : Steps previous input outcome) (sound : previous.Sound)
    {plan : Plan} (planMem : plan ∈ outcome.plans) {property : Property} (mem : property ∈ plan.properties) :
    ∀ c ∈ property.name.toList, Text.continuesIdentifier c = true := by
  obtain ⟨site, -, same⟩ := steps.exists_combined sound planMem
  obtain ⟨counterpart, counterpartMem, agrees⟩ := exists_property_of_plain same mem
  obtain ⟨candidate, -, rfl⟩ := List.mem_map.1 counterpartMem
  have kept (property : Property) : (plain property).name = property.name := rfl
  rw [← kept property, ← agrees, kept, Property.ofCandidate]
  intro c mem
  dsimp only at mem
  exact Accessor.continues_of_mem_name mem

/-- Every plan of a pass has an artifact. -/
theorem Steps.exists_artifact (steps : Steps previous input outcome) (sound : previous.Sound)
    {plan : Plan} (mem : plan ∈ outcome.plans) : ∃ artifact ∈ outcome.siteArtifacts,
      artifact.text = Render.accessors plan := by
  obtain ⟨entry, entryMem, rfl⟩ := Outcome.mem_plans_iff.1 mem
  have written := steps.find?_artifacts sound (Outcome.mem_artifactItems entryMem)
  exact ⟨_, outcome.mem_siteArtifacts written, by dsimp only⟩

end Pass

/-- What a pass reports about accessors with one name is what its artifacts define. -/
structure Outcome.NamesReported (outcome : Outcome) (input : Input) : Prop where
  /-- The problems are reported plan by plan. -/
  diagnostics : outcome.diagnostics = outcome.plans.flatMap outcome.report
  combined : ∀ plan ∈ outcome.plans, ∃ site ∈ outcome.sites,
    (plan == (planInput input site).plan) = true
  written : ∀ plan ∈ outcome.plans, ∃ artifact ∈ outcome.artifacts,
    plan.NamesReported artifact (outcome.report plan)

namespace Generator

/-- For every run, the accessors of a type have different names exactly when none of them is reported, and
every name that several of them share is reported once, with all of its files. -/
theorem duplicate_names_reported (events : List Event) {input : Input} {token : Cancellation}
    {outcome : Outcome} {next : Generator}
    (ran : (new.afterAll events).run input token = (.ok outcome, next)) :
    outcome.NamesReported input := by
  have steps := (steps_of_run ran).1
  have sound := sound_afterAll events
  refine ⟨?diagnostics, ?combined, ?written⟩
  case diagnostics => exact steps.reported
  case combined =>
    intro plan mem
    obtain ⟨site, siteMem, same⟩ := steps.exists_combined sound mem
    exact ⟨site, siteMem, (beq_iff _ _).2 same⟩
  case written =>
    intro plan mem
    obtain ⟨artifact, artifactMem, rendered⟩ := steps.exists_artifact sound mem
    refine ⟨artifact, ?_, Plan.namesReported (fun property => steps.continues_name sound mem) rendered _⟩
    rw [steps.artifacts]
    exact List.mem_append_left _ artifactMem

/-- A project with one marked type and two resources whose names differ in the case of a letter. -/
def twins : Input :=
  { onlyResource "" with
    files := [.make ⟨"/project/src/Notes/first.txt"⟩ (some "a"),
      .make ⟨"/project/src/Notes/First.txt"⟩ (some "b")] }

/-- The accessors of both resources have one name, with and without the first of them in the run before. -/
theorem duplicate_names_reported_twins :
    Accessor.name "first.txt" "Notes" = Accessor.name "First.txt" "Notes" ∧ ∃ outcome,
      (new.afterAll [.run (onlyResource "a") .never, .reload]).run twins .never =
        (.ok outcome, ⟨outcome.state⟩) ∧
      outcome.NamesReported twins := by
  obtain ⟨outcome, ran⟩ := run_never (new.afterAll [.run (onlyResource "a") .never, .reload]) twins
  exact ⟨by decide +kernel, outcome, ran,
    duplicate_names_reported [.run (onlyResource "a") .never, .reload] ran⟩

end Generator

end Generation

end ResourceAccessors
