import ResourceAccessors.Proofs.Build.Reread
import ResourceAccessors.Proofs.Disk.Front
import ResourceAccessors.Proofs.Project.Sources

/-!
# What a build tells to track

A build tells the paths whose changes call for a new build: those that lead somewhere of the source
folders, the configuration, the ignore file, the folders of the declarations and the embedded files.
-/

namespace ResourceAccessors

/-- A path is among some paths, or lies below one of them. -/
def FilePath.IsCoveredBy (path : FilePath) (tracked : List FilePath) : Prop :=
  ∃ top ∈ tracked, top.components <+: path.components

namespace Build

open Generation

/-! ### What is tracked -/

section Tracked

variable {disk : Disk} {root path top : FilePath} {config : Config} {project : Project}
  {outcome : Outcome}

/-- The paths that a build tracks if they lead somewhere. -/
def trackable (disk : Disk) (root : FilePath) (config : Config) (project : Project)
    (outcome : Outcome) : List FilePath :=
  project.sourceRoots ++ (configPath? disk root).toList ++ (ignorePath? disk root config).toList ++
    outcome.searchPaths ++ outcome.embedded

/-- The tracked paths are those trackable ones that lead somewhere, in ascending order. -/
theorem trackedPaths_eq : trackedPaths disk root config project outcome =
    (FilePath.ascending (trackable disk root config project outcome)).filter disk.exists? := rfl

/-- A path is trackable for one of five reasons. -/
theorem mem_trackable_iff : path ∈ trackable disk root config project outcome ↔
    path ∈ project.sourceRoots ∨ configPath? disk root = some path ∨
      ignorePath? disk root config = some path ∨ path ∈ outcome.searchPaths ∨
        path ∈ outcome.embedded := by
  simp only [trackable, List.mem_append, Option.mem_toList, or_assoc]

/-- A path is tracked when it may be and leads somewhere. -/
theorem mem_trackedPaths_iff
    (plains : ∀ path ∈ trackable disk root config project outcome, path.plain = path) :
    path ∈ trackedPaths disk root config project outcome ↔
      path ∈ trackable disk root config project outcome ∧ disk.exists? path = true := by
  rw [trackedPaths_eq, List.mem_filter, FilePath.mem_ascending_iff plains]

/-- A path that leads somewhere covers what lies below it, when all paths are in their shortest
spelling. -/
theorem isCoveredBy_of_trackable
    (plains : ∀ path ∈ trackable disk root config project outcome, path.plain = path)
    (mem : top ∈ trackable disk root config project outcome) (leads : disk.exists? top = true)
    (front : top.components <+: path.components) :
    path.IsCoveredBy (trackedPaths disk root config project outcome) :=
  ⟨top, List.mem_filter.2 ⟨(FilePath.mem_ascending_iff plains).2 mem, leads⟩, front⟩

/-- A folder covers what lies below it, however its path is spelled. -/
theorem isCoveredBy_of_leadsTo {folder : Disk.Location}
    (mem : top ∈ trackable disk root config project outcome) (leads : disk.LeadsTo top folder)
    (some : top.components ≠ []) (front : top.components <+: path.components) :
    path.IsCoveredBy (trackedPaths disk root config project outcome) := by
  obtain ⟨other, otherMem, same⟩ := FilePath.exists_mem_ascending mem
  rw [FilePath.beq_iff_components] at same
  have otherLeads : disk.LeadsTo other folder :=
    ⟨FilePath.text_ne_of_components_ne (same ▸ some), same ▸ leads.way, leads.stands⟩
  refine ⟨other, List.mem_filter.2 ⟨otherMem, ?_⟩, same ▸ front⟩
  rw [Disk.exists?, otherLeads.opens.find? otherLeads.written]
  rfl

end Tracked

/-! ### The parts of a build -/

/-- Where no cache stands, a build starts anew. -/
theorem storedState_of_absent {disk : Disk} {artifactDir projectDir : FilePath}
    (absent : disk.isFile (cachePath artifactDir) = false) :
    storedState disk artifactDir projectDir = .empty := by
  rw [storedState, load]
  split
  next content found =>
    rw [Disk.isFile_iff.2 ⟨content, found⟩] at absent
    cases absent
  next => rfl

/-- What a build does before it changes the disk. -/
structure Prepares (disk : Disk) (options : BuildOptions) (artifactDir : FilePath) (outcome : Outcome)
    (tracked : List FilePath) (config : Config) (project : Project) : Prop where
  configured : ∃ found, config? disk options.projectDir = .ok found ∧
    found.getD Config.default = config
  collected : ∃ found, Project.collect disk options.projectDir config = .ok found ∧
    found.value = project
  steps : Steps (storedState disk artifactDir options.projectDir)
    ⟨options.withConfig config, project.sources, project.files, project.embedded⟩ outcome
  tracked : tracked = trackedPaths disk options.projectDir config project outcome

/-- A pass that succeeds has read a configuration and a project. -/
theorem exists_prepares {disk : Disk} {options : BuildOptions} {artifactDir : FilePath}
    {token : Cancellation} {outcome : Outcome} {tracked : List FilePath}
    (prepared : prepare disk options artifactDir token = .ok (outcome, tracked)) :
    ∃ config project, Prepares disk options artifactDir outcome tracked config project := by
  obtain ⟨found, configured, prepared⟩ := Step.exists_of_bind_eq_ok prepared
  obtain ⟨project, collected, prepared⟩ := Step.exists_of_bind_eq_ok prepared
  obtain ⟨started, -, prepared⟩ := Step.exists_of_bind_eq_ok prepared
  obtain ⟨⟨passed, left⟩, ranPass, prepared⟩ := Step.exists_of_bind_eq_ok prepared
  obtain ⟨last, -, prepared⟩ := Step.exists_of_bind_eq_ok prepared
  cases prepared
  exact ⟨_, project.value, ⟨found, configured, rfl⟩, ⟨project, collected, rfl⟩,
    steps_of_pass ranPass, rfl⟩

/-- The input of a build is made of collected files. -/
theorem collected_of_collects {disk : Disk} {root : FilePath} {config : Config} {project : Project}
    {excluded : Pattern.IgnoreRules} {paths : List FilePath} {offered embedded : List Pattern.Glob}
    (collects : Project.Collects disk root config project excluded paths offered embedded)
    (legal : disk.Legal) (options : BuildOptions) :
    Input.Collected ⟨options, project.sources, project.files, project.embedded⟩ where
  files := by
    intro file mem
    obtain ⟨path, -, read⟩ := Project.exists_of_mem_mapM collects.files mem
    obtain ⟨text, made⟩ := Project.exists_make_of_readResource read
    exact ⟨path, text, made⟩
  embedded := by
    intro listed configured path mem
    have embeddedPaths := collects.embedded
    rw [show project.embedded = some listed from configured] at embeddedPaths
    split at embeddedPaths
    next => cases embeddedPaths
    next =>
      cases embeddedPaths
      exact collects.normal legal (List.mem_of_mem_filter (List.mem_of_mem_filter mem))

section Plains

variable {disk : Disk} {options : BuildOptions} {artifactDir : FilePath} {outcome : Outcome}
  {tracked : List FilePath} {config : Config} {project : Project} {input : Input}

/-- The folder of a declaration is a search path. -/
theorem mem_searchPaths {previous : State} (steps : Steps previous input outcome)
    {site : Declaration.Site} (mem : site ∈ outcome.sites) :
    site.searchPath input.options.projectDir ∈ outcome.searchPaths := by
  rw [steps.searchPaths, FilePath.mem_ascending_iff]
  · exact List.mem_map_of_mem mem
  · intro path pathMem
    obtain ⟨other, -, rfl⟩ := List.mem_map.1 pathMem
    exact FilePath.plain_normal _

/-- The search paths of a pass are normal. -/
theorem normal_of_mem_searchPaths {previous : State} (steps : Steps previous input outcome)
    {path : FilePath} (mem : path ∈ outcome.searchPaths) : path.normal = path := by
  rw [steps.searchPaths] at mem
  obtain ⟨site, -, rfl⟩ := List.mem_map.1 (FilePath.mem_of_mem_ascending mem)
  exact FilePath.normal_normal _

/-- The paths that a first build of an anchored folder may track are in their shortest spelling. -/
theorem Prepares.plain_of_mem_trackable
    (prepares : Prepares disk options artifactDir outcome tracked config project)
    (anchored : options.projectDir.IsAnchored) (legal : disk.Legal)
    (fresh : storedState disk artifactDir options.projectDir = .empty) :
    ∀ path ∈ trackable disk options.projectDir config project outcome, path.plain = path := by
  obtain ⟨found, collected, rfl⟩ := prepares.collected
  obtain ⟨excluded, paths, offered, embedded, collects⟩ := Project.exists_collects collected
  have steps := prepares.steps
  rw [fresh] at steps
  intro path mem
  rcases mem_trackable_iff.1 mem with sourceRoot | configPath | ignorePath | searchPath | embeddedPath
  · rw [collects.sourceRoots] at sourceRoot
    obtain ⟨source, -, rfl⟩ := List.mem_map.1 sourceRoot
    exact FilePath.plain_normal _
  · have under := under_of_mem_candidates (List.mem_of_find?_eq_some configPath)
    exact FilePath.plain_of_normal (anchored.normal_of_inside under.inside)
  · rw [Build.ignorePath?] at ignorePath
    split at ignorePath
    next =>
      cases ignorePath
      exact FilePath.plain_of_normal (anchored.normal_of_inside (.child .here (by decide)))
    next => cases ignorePath
  · exact FilePath.plain_of_normal (normal_of_mem_searchPaths steps searchPath)
  · rw [steps.embedded] at embeddedPath
    obtain ⟨file, fileMem, rfl⟩ := List.mem_map.1 embeddedPath
    exact congrArg Render.EmbeddedFile.path (steps.plain_embedded
      (collected_of_collects collects legal _) State.settled_empty fileMem)

end Plains

end Build

end ResourceAccessors
