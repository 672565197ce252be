import ResourceAccessors.Proofs.Generation.Placement

/-!
# Which file an accessor reads

An accessor reads the file that the manifest lists under its identity. Where every selected file is
embedded this is its own file exactly when no other selected file has the identity. Identities drop
what lies between the names of a path, so two files can share one; then the file with the least path
is listed, and no diagnostic says so.
-/

namespace ResourceAccessors.Generation

open Render (EmbeddedFile)
open Spelled

/-- The files that the manifest of a pass lists. -/
def Outcome.listed (outcome : Outcome) : List EmbeddedFile :=
  outcome.state.manifest.values.flatMap fun record => record.input.files

/-- The manifest lists a file under the identity of an accessor, and only its own one. -/
def Outcome.ReadsOwn (outcome : Outcome) (property : Property) : Prop :=
  (∃ file ∈ outcome.listed, file.resourceName = property.candidate.resourceName) ∧
    ∀ file ∈ outcome.listed, file.resourceName = property.candidate.resourceName →
      (file.path == property.candidate.path) = true

/-- The identity of the file of an accessor. -/
def Property.identity (options : BuildOptions) (property : Property) : String :=
  Resource.identity property.candidate.path options.projectDir options.rootNamespace

/-- No two accessors have different files with one identity. -/
def ApartByIdentity (options : BuildOptions) (properties : List Property) : Prop :=
  ∀ one ∈ properties, ∀ other ∈ properties, one.identity options = other.identity options →
    (one.candidate.path == other.candidate.path) = true

/-- What the manifest of a pass lists when every selected file is embedded. -/
structure Outcome.Listing (outcome : Outcome) (input : Input) : Prop where
  written : ∃ files projectDir, (files == outcome.listed) = true ∧
    (projectDir == input.options.projectDir) = true ∧
    ⟨Artifact.manifestName, Render.manifest files projectDir⟩ ∈ outcome.artifacts
  distinct : (outcome.listed.map EmbeddedFile.resourceName).Nodup
  identities : ∀ property ∈ outcome.properties,
    property.candidate.resourceName = property.identity input.options
  /-- Of several files with one identity the one with the least path is listed. -/
  least : ∀ property ∈ outcome.properties, ∃ file ∈ outcome.listed,
    file.resourceName = property.candidate.resourceName ∧
    (compare file.path property.candidate.path).isLE = true
  /-- No accessor is reported to miss its file. -/
  silent : ∀ type name, .resourceNotEmbedded type name ∉ outcome.diagnostics

section Pass

variable {previous : State} {input : Input} {outcome : Outcome}

/-! ### Accessors -/

/-- Plans that agree have accessors that agree. -/
theorem exists_property_of_plain {one other : Plan} (same : plain one = plain other)
    {property : Property} (mem : property ∈ one.properties) :
    ∃ counterpart ∈ other.properties, plain counterpart = plain property := by
  have properties : one.properties.map plain = other.properties.map plain :=
    congrArg Plan.properties same
  have among : plain property ∈ other.properties.map plain := by
    rw [← properties]
    exact List.mem_map_of_mem mem
  exact List.mem_map.1 among

/-- Every accessor has the candidate of a file in the folder of a declaration. -/
theorem Steps.exists_site_selected (steps : Steps previous input outcome) (sound : previous.Sound)
    {property : Property} (mem : property ∈ outcome.properties) :
    ∃ site ∈ outcome.sites, ∃ file ∈ input.files,
      (file.path.parent? == some (site.searchPath input.options.projectDir)) = true ∧
        plain property.candidate = plain (Resource.Candidate.ofFile input.options file) := by
  obtain ⟨entry, entryMem, propertyMem⟩ := Outcome.mem_properties_iff.1 mem
  rw [steps.plans] at entryMem
  obtain ⟨item, itemMem, rfl⟩ := Step.exists_of_mem_recordsOf entryMem
  obtain ⟨site, siteMem, given⟩ := exists_site_of_mem_planItems itemMem
  obtain ⟨computed, computedMem, same⟩ := exists_property_of_plain
    (Step.plain_outputFor respects_plan sound.plans item.1 item.2) propertyMem
  rw [given] at computedMem
  obtain ⟨file, filed, chosen⟩ := exists_file_of_mem_plan computedMem
  have agrees : plain computed.candidate = plain property.candidate :=
    congrArg Property.candidate same
  rw [chosen] at agrees
  obtain ⟨fileMem, inFolder⟩ := mem_filesIn.1 filed
  exact ⟨site, siteMem, file, fileMem, inFolder, agrees.symm⟩

/-- Every accessor has the candidate of a file. -/
theorem Steps.exists_selected (steps : Steps previous input outcome) (sound : previous.Sound)
    {property : Property} (mem : property ∈ outcome.properties) :
    ∃ file ∈ input.files, plain property.candidate =
      plain (Resource.Candidate.ofFile input.options file) := by
  obtain ⟨-, -, file, fileMem, -, agrees⟩ := steps.exists_site_selected sound mem
  exact ⟨file, fileMem, agrees⟩

/-- Every file that a declaration selects has an accessor. -/
theorem Steps.exists_accessor (steps : Steps previous input outcome) (sound : previous.Sound)
    {site : Declaration.Site} (declared : site ∈ input.declared) {file : Resource.File}
    (mem : file ∈ input.files)
    (selected : file.matchesSearch (site.searchPath input.options.projectDir)
      site.arguments.extension = true) :
    ∃ property ∈ outcome.properties, plain property.candidate =
      plain (Resource.Candidate.ofFile input.options file) := by
  have places := steps.places sound
  rw [← places.sites] at declared
  obtain ⟨placement, placed, rfl⟩ := List.mem_map.1 declared
  obtain ⟨record, found, -, same⟩ := places.planned placement placed
  have filed : file ∈ (planInput input placement.site).files :=
    mem_filesIn.2 ⟨mem, (Bool.and_eq_true_iff.1 selected).1⟩
  have chosen : Property.ofCandidate placement.site.name
      (Resource.Candidate.ofFile input.options file) ∈
        (planInput input placement.site).plan.properties :=
    List.mem_map_of_mem <| List.mem_mergeSort.2 <| List.mem_map_of_mem <|
      List.mem_filter.2 ⟨filed, selected⟩
  obtain ⟨property, propertyMem, agrees⟩ :=
    exists_property_of_plain ((beq_iff _ _).1 same).symm chosen
  refine ⟨property, ?_, congrArg Property.candidate agrees⟩
  exact Outcome.mem_properties_iff.2 ⟨_, Keyed.find?_eq_some_iff.1 found, propertyMem⟩

/-- An accessor with the candidate of a file has the identity of the file. -/
theorem Property.identity_of_plain {options : BuildOptions} {property : Property}
    {file : Resource.File}
    (same : plain property.candidate = plain (Resource.Candidate.ofFile options file)) :
    property.identity options =
      Resource.identity file.path options.projectDir options.rootNamespace := by
  have path : property.candidate.path.plain = file.path.plain :=
    congrArg Resource.Candidate.path same
  rw [Property.identity, ← Resource.identity_plain, path, Resource.identity_plain]

/-- Accessors are filed under the identities of their files. -/
theorem Steps.resourceName_eq (steps : Steps previous input outcome) (sound : previous.Sound)
    {property : Property} (mem : property ∈ outcome.properties) :
    property.candidate.resourceName = property.identity input.options := by
  obtain ⟨file, -, same⟩ := steps.exists_selected sound mem
  rw [Property.identity_of_plain same]
  exact congrArg Resource.Candidate.resourceName same

/-! ### Listed files -/

/-- The manifest lists the embedded files. -/
theorem Steps.listed_eq (steps : Steps previous input outcome) :
    outcome.listed = embeddedFiles input outcome.plans := by
  obtain ⟨output, entries⟩ := steps.manifest_entries
  rw [Outcome.listed, Keyed.values, entries]
  exact List.append_nil _

/-- No two listed files share an identity. -/
theorem Steps.nodup_listed (steps : Steps previous input outcome) :
    (outcome.listed.map EmbeddedFile.resourceName).Nodup := by
  rw [steps.listed_eq, List.nodup_iff_pairwise_ne, List.pairwise_map]
  refine (pairwise_embeddedFiles input outcome.plans).imp fun less same => ?_
  exact String.lt_irrefl _ (same ▸ less)

/-- A file of each identity is listed, at a path that does not come after that of any accessor with
the identity. -/
theorem Steps.exists_listed (steps : Steps previous input outcome)
    (everything : input.embedded = none) {property : Property}
    (mem : property ∈ outcome.properties) :
    ∃ file ∈ outcome.listed, file.resourceName = property.candidate.resourceName ∧
      (compare file.path property.candidate.path).isLE = true := by
  have wanted : embeddedOf property ∈ wantedFiles input outcome.plans := by
    rw [wantedFiles, everything]
    exact List.mem_map_of_mem mem
  rw [steps.listed_eq]
  exact exists_embedded wanted

/-- Every listed file is that of an accessor. -/
theorem Steps.exists_property_of_listed (steps : Steps previous input outcome)
    (everything : input.embedded = none) {file : EmbeddedFile} (mem : file ∈ outcome.listed) :
    ∃ property ∈ outcome.properties, embeddedOf property = file := by
  rw [steps.listed_eq] at mem
  have wanted := mem_wantedFiles_of_mem mem
  rw [wantedFiles, everything] at wanted
  exact List.mem_map.1 wanted

/-- Of a project without files none is embedded. -/
theorem Steps.embedded_eq_nil (steps : Steps previous input outcome) (sound : previous.Sound)
    (everything : input.embedded = none) (noFiles : input.files = []) : outcome.embedded = [] := by
  rw [steps.embedded, ← steps.listed_eq, List.map_eq_nil_iff, List.eq_nil_iff_forall_not_mem]
  intro file mem
  obtain ⟨property, propertyMem, -⟩ := steps.exists_property_of_listed everything mem
  obtain ⟨selected, selectedMem, -⟩ := steps.exists_selected sound propertyMem
  rw [noFiles] at selectedMem
  cases selectedMem

/-- Where a declaration selects a file, some file is embedded. -/
theorem Steps.embedded_ne_nil (steps : Steps previous input outcome) (sound : previous.Sound)
    (everything : input.embedded = none) {site : Declaration.Site} (declared : site ∈ input.declared)
    {file : Resource.File} (mem : file ∈ input.files)
    (selected : file.matchesSearch (site.searchPath input.options.projectDir)
      site.arguments.extension = true) : outcome.embedded ≠ [] := by
  obtain ⟨property, propertyMem, -⟩ := steps.exists_accessor sound declared mem selected
  obtain ⟨listed, listedMem, -⟩ := steps.exists_listed everything propertyMem
  rw [steps.embedded, ← steps.listed_eq]
  exact List.ne_nil_of_mem (List.mem_map_of_mem listedMem)

/-- All accessors read their own files exactly when no two have different files with one identity. -/
theorem Steps.readsOwn_iff (steps : Steps previous input outcome) (sound : previous.Sound)
    (everything : input.embedded = none) :
    (∀ property ∈ outcome.properties, outcome.ReadsOwn property) ↔
      ApartByIdentity input.options outcome.properties := by
  have named : ∀ property ∈ outcome.properties,
      property.candidate.resourceName = property.identity input.options :=
    fun property mem => steps.resourceName_eq sound mem
  constructor
  · intro own one oneMem other otherMem same
    rw [← named one oneMem, ← named other otherMem] at same
    obtain ⟨⟨file, listed, sameName⟩, onlyOne⟩ := own one oneMem
    have onePath := onlyOne file listed sameName
    have otherPath := (own other otherMem).2 file listed (sameName.trans same)
    rw [beq_iff] at onePath otherPath ⊢
    exact onePath.symm.trans otherPath
  · intro apart property mem
    obtain ⟨file, listed, sameName, -⟩ := steps.exists_listed everything mem
    refine ⟨⟨file, listed, sameName⟩, fun candidate candidateListed candidateName => ?_⟩
    obtain ⟨other, otherMem, rfl⟩ := steps.exists_property_of_listed everything candidateListed
    refine apart other otherMem property mem ?_
    rw [← named other otherMem, ← named property mem]
    exact candidateName

/-- Where two accessors have different files with one identity, one of them reads another file. -/
theorem Steps.exists_not_readsOwn (steps : Steps previous input outcome) (sound : previous.Sound)
    (everything : input.embedded = none) {one other : Property}
    (oneMem : one ∈ outcome.properties) (otherMem : other ∈ outcome.properties)
    (same : one.identity input.options = other.identity input.options)
    (differ : ¬ (one.candidate.path == other.candidate.path) = true) :
    ∃ property ∈ outcome.properties, ¬ outcome.ReadsOwn property := by
  refine Classical.byContradiction fun allOwn => ?_
  have own : ∀ property ∈ outcome.properties, outcome.ReadsOwn property := fun property mem =>
    Classical.byContradiction fun reads => allOwn ⟨property, mem, reads⟩
  exact differ ((steps.readsOwn_iff sound everything).1 own one oneMem other otherMem same)

/-! ### Diagnostics -/

/-- An accessor that is reported to miss its file has an identity that no embedded file has. -/
theorem Diagnostic.exists_of_mem_collect {plans : List Plan} {embedded : List EmbeddedFile}
    {type name : String} (mem : .resourceNotEmbedded type name ∈ collect plans embedded) :
    ∃ plan ∈ plans, ∃ property ∈ plan.properties,
      property.candidate.resourceName ∉ embedded.map EmbeddedFile.resourceName := by
  obtain ⟨plan, planMem, reported⟩ := List.mem_flatMap.1 mem
  refine ⟨plan, planMem, ?_⟩
  rw [ofPlan, List.mem_append, List.mem_append] at reported
  rcases reported with (unreachable | missed) | repeated
  · split at unreachable <;> simp at unreachable
  · obtain ⟨property, propertyMem, problem⟩ := List.mem_flatMap.1 missed
    refine ⟨property, propertyMem, fun among => ?_⟩
    rw [ofProperty, if_pos among, List.append_nil] at problem
    split at problem <;> simp at problem
  · obtain ⟨entry, -, given⟩ := List.mem_filterMap.1 repeated
    split at given
    simp at given

/-- No accessor is reported to miss its file when every selected file is embedded. -/
theorem Steps.silent (steps : Steps previous input outcome) (everything : input.embedded = none)
    (type name : String) : .resourceNotEmbedded type name ∉ outcome.diagnostics := by
  rw [steps.diagnostics]
  intro mem
  obtain ⟨plan, planMem, property, propertyMem, missed⟩ := Diagnostic.exists_of_mem_collect mem
  obtain ⟨file, listed, sameName, -⟩ :=
    steps.exists_listed everything (List.mem_flatMap.2 ⟨plan, planMem, propertyMem⟩)
  rw [steps.listed_eq] at listed
  exact missed (List.mem_map.2 ⟨file, listed, sameName⟩)

/-- What a pass over all selected files lists. -/
theorem Steps.listing (steps : Steps previous input outcome) (sound : previous.Sound)
    (everything : input.embedded = none) : outcome.Listing input := by
  constructor
  case written =>
    obtain ⟨given, agrees, artifacts⟩ := steps.exists_manifest sound
    refine ⟨given.files, given.projectDir, ?_, ?_, ?_⟩
    · rw [beq_iff, steps.listed_eq]
      exact congrArg ManifestInput.files agrees
    · rw [beq_iff]
      exact congrArg ManifestInput.projectDir agrees
    · rw [artifacts, ManifestInput.artifacts]
      exact List.mem_append_right _ List.mem_cons_self
  case distinct => exact steps.nodup_listed
  case identities => exact fun property mem => steps.resourceName_eq sound mem
  case least => exact fun property mem => steps.exists_listed everything mem
  case silent => exact steps.silent everything

end Pass

namespace Generator

/-- Where every selected file is embedded, all accessors of a run read their own files exactly when
no two of them have different files with one identity. The manifest lists one file for each
identity, and no diagnostic names the accessors that read another file. -/
theorem all_read_own_iff (events : List Event) {input : Input} {token : Cancellation}
    {outcome : Outcome} {next : Generator}
    (ran : (new.afterAll events).run input token = (.ok outcome, next))
    (everything : input.embedded = none) :
    outcome.Listing input ∧
      ((∀ property ∈ outcome.properties, outcome.ReadsOwn property) ↔
        ApartByIdentity input.options outcome.properties) :=
  have steps := (steps_of_run ran).1
  have sound := sound_afterAll events
  ⟨steps.listing sound everything, steps.readsOwn_iff sound everything⟩

/-- The only resource of a project is read by an accessor of its own. -/
theorem all_read_own_onlyResource :
    ∃ outcome,
      (new.afterAll [.run (onlyResource "a") .never, .reload]).run (onlyResource "b") .never =
        (.ok outcome, ⟨outcome.state⟩) ∧
      outcome.Listing (onlyResource "b") ∧
      ∃ property ∈ outcome.properties, outcome.ReadsOwn property := by
  obtain ⟨outcome, ran⟩ :=
    run_never (new.afterAll [.run (onlyResource "a") .never, .reload]) (onlyResource "b")
  obtain ⟨listing, own⟩ :=
    all_read_own_iff [.run (onlyResource "a") .never, .reload] ran rfl
  have steps := (steps_of_run ran).1
  have sound := sound_afterAll [.run (onlyResource "a") .never, .reload]
  have apart : ApartByIdentity (onlyResource "b").options outcome.properties := by
    intro one oneMem other otherMem _
    obtain ⟨oneFile, oneFileMem, oneSame⟩ := steps.exists_selected sound oneMem
    obtain ⟨otherFile, otherFileMem, otherSame⟩ := steps.exists_selected sound otherMem
    rw [List.mem_singleton.1 oneFileMem] at oneSame
    rw [List.mem_singleton.1 otherFileMem] at otherSame
    rw [beq_iff]
    exact congrArg Resource.Candidate.path (oneSame.trans otherSame.symm)
  have selected : ∃ site ∈ (onlyResource "b").declared, ∃ file ∈ (onlyResource "b").files,
      file.matchesSearch (site.searchPath ⟨"/project"⟩) site.arguments.extension = true := by
    decide +kernel
  obtain ⟨site, declared, file, fileMem, found⟩ := selected
  obtain ⟨property, mem, -⟩ := steps.exists_accessor sound declared fileMem found
  exact ⟨outcome, ran, listing, property, mem, own.2 apart property mem⟩

/-- A project with two marked types whose folders differ in a dot only. -/
def dottedFolders : Input where
  options := ⟨false, ⟨"/project"⟩, "Demo"⟩
  sources := [⟨⟨"/project/src/lib.rs"⟩, [],
    "#[embedded_resource_properties(\".txt\", \"/src/a\")]\npub struct One;\n" ++
    "#[embedded_resource_properties(\".txt\", \"/src/a.b\")]\npub struct Two;\n"⟩]
  files := [.make ⟨"/project/src/a/b.c.txt"⟩ (some "one"),
    .make ⟨"/project/src/a.b/c.txt"⟩ (some "two")]
  embedded := none

/-- The files of the two types have one identity, so one type reads the file of the other. -/
theorem reads_other_dottedFolders :
    ∃ outcome, new.run dottedFolders .never = (.ok outcome, ⟨outcome.state⟩) ∧
      ∃ property ∈ outcome.properties, ¬ outcome.ReadsOwn property := by
  obtain ⟨outcome, ran⟩ := run_never new dottedFolders
  have steps := (steps_of_run ran).1
  have selected : ∃ one ∈ dottedFolders.declared, ∃ other ∈ dottedFolders.declared,
      ∃ oneFile ∈ dottedFolders.files, ∃ otherFile ∈ dottedFolders.files,
        oneFile.matchesSearch (one.searchPath ⟨"/project"⟩) one.arguments.extension = true ∧
        otherFile.matchesSearch (other.searchPath ⟨"/project"⟩) other.arguments.extension = true ∧
        Resource.identity oneFile.path ⟨"/project"⟩ "Demo" =
          Resource.identity otherFile.path ⟨"/project"⟩ "Demo" ∧
        (oneFile.path == otherFile.path) = false := by
    decide +kernel
  obtain ⟨one, oneDeclared, other, otherDeclared, oneFile, oneMem, otherFile, otherMem, oneFound,
    otherFound, sameName, differ⟩ := selected
  obtain ⟨first, firstMem, firstSame⟩ :=
    steps.exists_accessor State.sound_empty oneDeclared oneMem oneFound
  obtain ⟨second, secondMem, secondSame⟩ :=
    steps.exists_accessor State.sound_empty otherDeclared otherMem otherFound
  have firstPath : first.candidate.path.plain = oneFile.path.plain :=
    congrArg Resource.Candidate.path firstSame
  have secondPath : second.candidate.path.plain = otherFile.path.plain :=
    congrArg Resource.Candidate.path secondSame
  refine ⟨outcome, ran, steps.exists_not_readsOwn State.sound_empty rfl firstMem secondMem ?_ ?_⟩
  · rw [Property.identity_of_plain firstSame, Property.identity_of_plain secondSame]
    exact sameName
  · intro equal
    have samePath : (oneFile.path == otherFile.path) = true := by
      rw [beq_iff] at equal ⊢
      exact firstPath.symm.trans (equal.trans secondPath)
    rw [differ] at samePath
    cases samePath

end Generator

end ResourceAccessors.Generation
