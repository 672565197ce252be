import ResourceAccessors.Proofs.Build.Repetition
import ResourceAccessors.Proofs.Build.Tracking
import ResourceAccessors.Proofs.Project.Kinds

/-!
# Edits of files that are not tracked

As long as the same paths lead to files and to folders, a build whose tracked files hold what they held
gives what the one before gave: all that a build reads and depends on is tracked.
-/

namespace ResourceAccessors

/-- The files at and below a folder hold the same on two disks, as far as some paths cover them. -/
def Disk.SameContents (one other : Disk) (root : FilePath) (tracked : List FilePath) : Prop :=
  ∀ path, root.Inside path → path.IsCoveredBy tracked → ∀ content otherContent,
    one.readFile path = .ok content → other.readFile path = .ok otherContent →
      otherContent = content

namespace Build

open Generation

/-! ### Reading the same -/

section Same

variable {one other : Disk} {root path : FilePath}

/-- A file reads the same when it holds the same. -/
theorem readFile_eq_of_sameKinds (kinds : one.SameKinds other root) (inside : root.Inside path)
    (contents : ∀ content otherContent, one.readFile path = .ok content →
      other.readFile path = .ok otherContent → otherContent = content)
    (isFile : one.isFile path = true) : other.readFile path = one.readFile path := by
  obtain ⟨content, read⟩ := Disk.isFile_iff.1 isFile
  obtain ⟨otherContent, otherRead⟩ := Disk.isFile_iff.1 ((kinds.isFile inside).trans isFile)
  rw [read, otherRead, contents content otherContent read otherRead]

/-- The configuration file is found at the same place. -/
theorem configPath?_eq_of_sameKinds (kinds : one.SameKinds other root) :
    configPath? other root = configPath? one root :=
  List.find?_congr fun _ mem => kinds.isFile (under_of_mem_candidates mem).inside

/-- The configuration is the same when its file holds the same. -/
theorem config?_eq_of_sameKinds (kinds : one.SameKinds other root)
    (contents : ∀ path, configPath? one root = some path → root.Inside path →
      other.readFile path = one.readFile path) : config? other root = config? one root := by
  rw [config?, config?, configPath?_eq_of_sameKinds kinds]
  cases found : configPath? one root with
  | none => rfl
  | some path =>
    have inside := (under_of_mem_candidates (List.mem_of_find?_eq_some found)).inside
    have text : other.readText path = one.readText path := by
      rw [Disk.readText, Disk.readText, contents path found inside]
    simp only [text]

/-- The ignore file is heeded at the same place. -/
theorem ignorePath?_eq_of_sameKinds (kinds : one.SameKinds other root) (config : Config) :
    ignorePath? other root config = ignorePath? one root config := by
  rw [ignorePath?, ignorePath?, kinds.isFile (.child .here (by decide))]

/-- The rules of the ignore file are the same when it holds the same. -/
theorem value_ignoreRules_of_sameKinds (kinds : one.SameKinds other root) {config : Config}
    (contents : ∀ path, ignorePath? one root config = some path → root.Inside path →
      other.readFile path = one.readFile path) :
    (Project.ignoreRules other root config).value = (Project.ignoreRules one root config).value := by
  have inside : root.Inside (root.child Project.ignoreName) := .child .here (by decide)
  rw [Project.value_ignoreRules, Project.value_ignoreRules]
  split
  next => rfl
  next heeded =>
    cases isFile : one.isFile (root.child Project.ignoreName) with
    | true =>
      have path : ignorePath? one root config = some (root.child Project.ignoreName) := by
        simp [ignorePath?, heeded, isFile]
      rw [contents _ path inside]
    | false =>
      have unread : ∀ {disk : Disk}, disk.isFile (root.child Project.ignoreName) = false →
          ∃ cause, disk.readFile (root.child Project.ignoreName) = .error cause := by
        intro disk none
        cases read : disk.readFile (root.child Project.ignoreName) with
        | error cause => exact ⟨cause, rfl⟩
        | ok content =>
          rw [Disk.isFile_iff.2 ⟨content, read⟩] at none
          cases none
      obtain ⟨cause, read⟩ := unread isFile
      obtain ⟨otherCause, otherRead⟩ := unread ((kinds.isFile inside).trans isFile)
      rw [read, otherRead]

end Same

/-! ### Building the same -/

section Builds

variable {one other : Disk} {options : BuildOptions} {artifactDir otherDir : FilePath}
  {outcome otherOutcome : Outcome} {tracked otherTracked : List FilePath}
  {config otherConfig : Config} {project otherProject : Project}

/-- A build on another disk with the same tree, where the files that the first build tracks hold what they
held. Both builds start anew. -/
structure Rebuilds (one other : Disk) (options : BuildOptions) (artifactDir : FilePath)
    (outcome : Outcome) (tracked : List FilePath) (config : Config) (project : Project) : Prop where
  prepares : Prepares one options artifactDir outcome tracked config project
  anchored : options.projectDir.IsAnchored
  legal : one.Legal
  otherLegal : other.Legal
  fresh : storedState one artifactDir options.projectDir = .empty
  kinds : one.SameKinds other options.projectDir
  contents : one.SameContents other options.projectDir tracked

namespace Rebuilds

variable (rebuilds : Rebuilds one other options artifactDir outcome tracked config project)

include rebuilds

/-- A tracked file reads the same. -/
theorem readFile_eq {top path : FilePath}
    (mem : top ∈ trackable one options.projectDir config project outcome)
    (leads : one.exists? top = true) (front : top.components <+: path.components)
    (inside : options.projectDir.Inside path) (isFile : one.isFile path = true) :
    other.readFile path = one.readFile path := by
  have plains := rebuilds.prepares.plain_of_mem_trackable rebuilds.anchored rebuilds.legal rebuilds.fresh
  have covered := isCoveredBy_of_trackable plains mem leads front
  rw [← rebuilds.prepares.tracked] at covered
  exact readFile_eq_of_sameKinds rebuilds.kinds inside (rebuilds.contents path inside covered) isFile

/-- A tracked file reads the same that may be tracked itself. -/
theorem readFile_eq_of_mem {path : FilePath}
    (mem : path ∈ trackable one options.projectDir config project outcome)
    (inside : options.projectDir.Inside path) (isFile : one.isFile path = true) :
    other.readFile path = one.readFile path := by
  refine rebuilds.readFile_eq mem ?_ (List.prefix_refl _) inside isFile
  obtain ⟨content, read⟩ := Disk.isFile_iff.1 isFile
  obtain ⟨location, found⟩ := Disk.readFile_eq_ok_iff.1 read
  rw [Disk.exists?, found]
  rfl

/-- The configuration is the same. -/
theorem config_eq (prepares : Prepares other options otherDir otherOutcome otherTracked otherConfig
    otherProject) : otherConfig = config := by
  obtain ⟨found, configured, rfl⟩ := rebuilds.prepares.configured
  obtain ⟨otherFound, otherConfigured, rfl⟩ := prepares.configured
  have same := config?_eq_of_sameKinds rebuilds.kinds fun path mem inside =>
    rebuilds.readFile_eq_of_mem (mem_trackable_iff.2 (.inr (.inl mem))) inside
      (List.find?_some mem)
  rw [otherConfigured, configured] at same
  rw [Except.ok.inj same]

/-- The rules of the ignore file are the same. -/
theorem value_ignoreRules_eq :
    (Project.ignoreRules other options.projectDir config).value =
      (Project.ignoreRules one options.projectDir config).value := by
  refine value_ignoreRules_of_sameKinds rebuilds.kinds fun path mem inside => ?_
  refine rebuilds.readFile_eq_of_mem (mem_trackable_iff.2 (.inr (.inr (.inl mem)))) inside ?_
  rw [ignorePath?] at mem
  split at mem
  next heeded =>
    cases mem
    exact (Bool.and_eq_true_iff.1 heeded).2
  next => cases mem

/-- The two projects are collected from the same files, as the same globs say. -/
theorem exists_collects (prepares : Prepares other options otherDir otherOutcome otherTracked otherConfig
    otherProject) : ∃ excluded paths offered embedded,
      Project.Collects one options.projectDir config project excluded paths offered embedded ∧
        Project.Collects other options.projectDir config otherProject excluded paths offered
          embedded := by
  obtain ⟨found, collected, rfl⟩ := rebuilds.prepares.collected
  obtain ⟨otherFound, otherCollected, rfl⟩ := prepares.collected
  rw [rebuilds.config_eq prepares] at otherCollected
  obtain ⟨excluded, paths, offered, embedded, collects⟩ := Project.exists_collects collected
  obtain ⟨otherExcluded, otherPaths, otherOffered, otherEmbedded, otherCollects⟩ :=
    Project.exists_collects otherCollected
  have rules := rebuilds.value_ignoreRules_eq
  have kinds := rebuilds.kinds
  rw [← rebuilds.anchored.normal] at rules kinds
  obtain rfl := collects.paths_eq otherCollects kinds rebuilds.legal rebuilds.otherLegal rules
  obtain ⟨rfl, rfl, rfl⟩ := collects.globs_eq otherCollects
  exact ⟨_, _, _, _, collects, otherCollects⟩

section Parts

variable {excluded : Pattern.IgnoreRules} {paths : List FilePath}
  {offered embedded : List Pattern.Glob}

/-- A walked file lies in the folder of the crate. -/
theorem inside_of_mem {path : FilePath}
    (collects : Project.Collects one options.projectDir config project excluded paths offered embedded)
    (mem : path ∈ paths) : options.projectDir.Inside path := by
  have shape := FilePath.kept_of_wellFormed (FilePath.wellFormed_components options.projectDir)
  have inside : options.projectDir.normal.Inside path :=
    ((collects.isBelow rebuilds.legal mem).1.under shape).inside
  rwa [rebuilds.anchored.normal] at inside

/-- A walked file below a folder that may be tracked reads the same. -/
theorem readFile_eq_of_prefix {top path : FilePath}
    (collects : Project.Collects one options.projectDir config project excluded paths offered embedded)
    (mem : path ∈ paths) (topMem : top ∈ trackable one options.projectDir config project outcome)
    (plain : top.plain = top) (some : top.components ≠ [])
    (front : top.components <+: path.components) : other.readFile path = one.readFile path := by
  have normal := collects.normal rebuilds.legal mem
  obtain ⟨-, content, read⟩ := collects.isBelow rebuilds.legal mem
  obtain ⟨location, found⟩ := Disk.readFile_eq_ok_iff.1 read
  have leads : one.exists? path = true := by
    rw [Disk.exists?, found]
    rfl
  have topLeads := Disk.exists?_of_prefix front some (FilePath.plain_of_normal normal) leads
  rw [← FilePath.plain, plain] at topLeads
  exact rebuilds.readFile_eq topMem topLeads front (rebuilds.inside_of_mem collects mem)
    (Disk.isFile_iff.2 ⟨content, read⟩)

/-- A walked source reads the same. -/
theorem readFile_eq_of_source {path : FilePath}
    (collects : Project.Collects one options.projectDir config project excluded paths offered embedded)
    (mem : path ∈ paths)
    (source : (Project.sourceModule? one
      (Project.sourceRootsOf options.projectDir.normal config) path).isSome = true) :
    other.readFile path = one.readFile path := by
  obtain ⟨modulePath, defined⟩ := Option.isSome_iff_exists.1 source
  obtain ⟨sourceRoot, sourceRootMem, front⟩ := Project.exists_prefix_of_sourceModule? defined
  obtain ⟨folder, -, rfl⟩ := List.mem_map.1 sourceRootMem
  have rooted : FilePath.Component.root ∈ options.projectDir.normal.normalComponents := by
    rw [rebuilds.anchored.normal]
    exact FilePath.root_mem_normalComponents_of_isAbsolute rebuilds.anchored.absolute
  have some := List.ne_nil_of_mem (FilePath.root_mem_normalComponents_join rooted folder)
  refine rebuilds.readFile_eq_of_prefix collects mem ?_ (FilePath.plain_normal _) ?_ front
  · rw [mem_trackable_iff, collects.sourceRoots]
    exact .inl sourceRootMem
  · rw [FilePath.components_normal]
    exact some

/-- A walked file in the folder of a declaration reads the same. -/
theorem readFile_eq_of_parent? {path : FilePath} {site : Declaration.Site}
    (collects : Project.Collects one options.projectDir config project excluded paths offered embedded)
    (pathMem : path ∈ paths) (siteMem : site ∈ outcome.sites)
    (inFolder : (path.parent? == some (site.searchPath options.projectDir)) = true) :
    other.readFile path = one.readFile path := by
  cases found : path.parent? with
  | none =>
    rw [found] at inFolder
    cases inFolder
  | some parent =>
    rw [found] at inFolder
    have same : parent.components = (site.searchPath options.projectDir).components :=
      (FilePath.beq_iff_components _ _).1 inFolder
    obtain ⟨last, -, components⟩ := FilePath.exists_last_of_parent? found
    rw [same] at components
    have some := rebuilds.anchored.parent_components_ne
      (rebuilds.inside_of_mem collects pathMem) found
    exact rebuilds.readFile_eq_of_prefix collects pathMem
      (mem_trackable_iff.2 (.inr (.inr (.inr (.inl (mem_searchPaths rebuilds.prepares.steps siteMem))))))
      (FilePath.plain_normal _) (same ▸ some) ⟨[last], components.symm⟩

/-- The resources that a declaration selects are the same. -/
theorem filter_files_eq {site : Declaration.Site}
    (collects : Project.Collects one options.projectDir config project excluded paths offered embedded)
    (otherCollects : Project.Collects other options.projectDir config otherProject excluded paths
      offered embedded)
    (sources : otherProject.sources = project.sources) (siteMem : site ∈ outcome.sites) :
    otherProject.files.filter (Resource.File.matchesSearch (site.searchPath options.projectDir)
        site.arguments.extension) =
      project.files.filter (Resource.File.matchesSearch (site.searchPath options.projectDir)
        site.arguments.extension) := by
  have read := collects.files
  have otherRead := otherCollects.files
  rw [sources] at otherRead
  have among : ∀ {path : FilePath}, path ∈ (Project.candidatesOf offered options.projectDir.normal
      paths).filter (Project.isSelectable options.projectDir.normal project.sources) →
        path ∈ paths :=
    fun mem => List.mem_of_mem_filter (List.mem_of_mem_filter mem)
  let passes (path : FilePath) : Bool :=
    path.parent? == some (site.searchPath options.projectDir) &&
      FileName.extension (path.textName?.getD "") == site.arguments.extension
  have contents : ∀ path ∈ (Project.candidatesOf offered options.projectDir.normal paths).filter
      (Project.isSelectable options.projectDir.normal project.sources), passes path = true →
        other.readFile path = one.readFile path := fun path mem passing =>
    rebuilds.readFile_eq_of_parent? collects (among mem) siteMem (Bool.and_eq_true_iff.1 passing).1
  exact Project.filter_files_congr (fun path mem => collects.normal rebuilds.legal (among mem))
    contents read otherRead

/-- The sources are the same. -/
theorem sources_eq
    (collects : Project.Collects one options.projectDir config project excluded paths offered embedded)
    (otherCollects : Project.Collects other options.projectDir config otherProject excluded paths
      offered embedded) : otherProject.sources = project.sources := by
  have kinds := rebuilds.kinds
  rw [← rebuilds.anchored.normal] at kinds
  exact collects.sources_eq otherCollects kinds rebuilds.legal fun path mem source =>
    rebuilds.readFile_eq_of_source collects mem source

end Parts

/-- The two builds give the same. -/
theorem givesSame (prepares : Prepares other options otherDir otherOutcome otherTracked otherConfig
    otherProject) (otherFresh : storedState other otherDir options.projectDir = .empty) :
    outcome.GivesSame otherOutcome := by
  obtain ⟨excluded, paths, offered, embedded, collects, otherCollects⟩ :=
    rebuilds.exists_collects prepares
  have sources := rebuilds.sources_eq collects otherCollects
  have steps := rebuilds.prepares.steps
  have otherSteps := prepares.steps
  rw [rebuilds.fresh] at steps
  rw [otherFresh, rebuilds.config_eq prepares] at otherSteps
  have same : Input.SameButFiles
      ⟨options.withConfig config, project.sources, project.files, project.embedded⟩
      ⟨options.withConfig config, otherProject.sources, otherProject.files,
        otherProject.embedded⟩ :=
    ⟨rfl, sources.symm, collects.embedded.trans otherCollects.embedded.symm⟩
  refine steps.givesSame_of_sites otherSteps same fun site siteMem => ?_
  exact same.plan_eq_of_selected
    (rebuilds.filter_files_eq collects otherCollects sources siteMem).symm

/-- The two builds may track the same paths. -/
theorem trackable_eq (prepares : Prepares other options otherDir otherOutcome otherTracked otherConfig
    otherProject) (otherFresh : storedState other otherDir options.projectDir = .empty) :
    trackable other options.projectDir otherConfig otherProject otherOutcome =
      trackable one options.projectDir config project outcome := by
  obtain ⟨excluded, paths, offered, embedded, collects, otherCollects⟩ :=
    rebuilds.exists_collects prepares
  have same := rebuilds.givesSame prepares otherFresh
  rw [trackable, trackable, rebuilds.config_eq prepares, collects.sourceRoots,
    otherCollects.sourceRoots, configPath?_eq_of_sameKinds rebuilds.kinds,
    ignorePath?_eq_of_sameKinds rebuilds.kinds, same.searchPaths, same.embedded]

end Rebuilds

end Builds

/-- An edit of files that a build does not track does not change what a build gives: as long as the same
paths lead to files and to folders, a build from a fresh start gives the same artifacts, diagnostics,
search paths and embedded files. The same paths are tracked at and below the folder of the crate, and
everywhere when the tracked paths outside of it lead somewhere on both disks. -/
theorem run_givesSame_of_edits {one other oneAfter otherAfter : Disk} {options : BuildOptions}
    {artifactDir otherDir : FilePath} {token otherToken : Cancellation} {first second : Build}
    (anchored : options.projectDir.IsAnchored) (legal : one.Legal) (otherLegal : other.Legal)
    (fresh : storedState one artifactDir options.projectDir = .empty)
    (otherFresh : storedState other otherDir options.projectDir = .empty)
    (kinds : one.SameKinds other options.projectDir)
    (ran : (run options artifactDir token).run one = (.ok first, oneAfter))
    (otherRan : (run options otherDir otherToken).run other = (.ok second, otherAfter))
    (contents : one.SameContents other options.projectDir first.tracked) :
    first.outcome.GivesSame second.outcome ∧
      (∀ path, options.projectDir.Inside path → (path ∈ first.tracked ↔ path ∈ second.tracked)) ∧
      ((∀ path ∈ first.tracked ++ second.tracked, ¬ options.projectDir.Inside path →
          one.exists? path = true ∧ other.exists? path = true) →
        first.tracked = second.tracked) := by
  obtain ⟨made, wrote, cleaned, succeeds⟩ := exists_succeeds ran
  obtain ⟨otherMade, otherWrote, otherCleaned, otherSucceeds⟩ := exists_succeeds otherRan
  obtain ⟨config, project, prepares⟩ := exists_prepares succeeds.prepares
  obtain ⟨otherConfig, otherProject, otherPrepares⟩ := exists_prepares otherSucceeds.prepares
  have rebuilds : Rebuilds one other options artifactDir first.outcome first.tracked config project :=
    ⟨prepares, anchored, legal, otherLegal, fresh, kinds, contents⟩
  have same := rebuilds.trackable_eq otherPrepares otherFresh
  have plains := prepares.plain_of_mem_trackable anchored legal fresh
  have otherPlains := plains
  rw [← same] at otherPlains
  have tracked : ∀ path, path ∈ first.tracked ↔
      path ∈ trackable one options.projectDir config project first.outcome ∧
        one.exists? path = true := by
    intro path
    rw [prepares.tracked, mem_trackedPaths_iff plains]
  have otherTracked : ∀ path, path ∈ second.tracked ↔
      path ∈ trackable one options.projectDir config project first.outcome ∧
        other.exists? path = true := by
    intro path
    rw [otherPrepares.tracked, mem_trackedPaths_iff otherPlains, same]
  refine ⟨rebuilds.givesSame otherPrepares otherFresh, fun path inside => ?_, fun outside => ?_⟩
  · rw [tracked, otherTracked, kinds.exists? inside]
  · have ordered : ∀ {disk : Disk} {outcome : Outcome} {config : Config} {project : Project},
        (trackedPaths disk options.projectDir config project outcome).Pairwise
          fun left right => compare left right = .lt :=
      (FilePath.pairwise_ascending _).filter _
    apply FilePath.eq_of_pairwise_of_mem_iff
    · rw [prepares.tracked]
      exact ordered
    · rw [otherPrepares.tracked]
      exact ordered
    · intro path
      by_cases inside : options.projectDir.Inside path
      · rw [tracked, otherTracked, kinds.exists? inside]
      · constructor
        · intro mem
          obtain ⟨-, leads⟩ := outside path (List.mem_append_left _ mem) inside
          exact (otherTracked path).2 ⟨((tracked path).1 mem).1, leads⟩
        · intro mem
          obtain ⟨leads, -⟩ := outside path (List.mem_append_right _ mem) inside
          exact (tracked path).2 ⟨((otherTracked path).1 mem).1, leads⟩

/-! ### A crate with a file that is not tracked -/

/-- Disks without links that differ in the contents of files only have the same tree. -/
theorem sameKinds_of_plain {one other : Disk} {root : FilePath} {top : Disk.Location}
    (plain : one.IsPlainAt root top) (otherPlain : other.IsPlainAt root top)
    (same : ∀ location, top <:+ location → other.entry? location = one.entry? location ∨
      ∃ content otherContent, one.entry? location = some (.file content) ∧
        other.entry? location = some (.file otherContent)) : one.SameKinds other root := by
  have found : ∀ {path}, root.Inside path → other.find? path = one.find? path ∨
      ∃ location content otherContent, one.find? path = some (location, .file content) ∧
        other.find? path = some (location, .file otherContent) := by
    intro path inside
    obtain ⟨place, below, leads⟩ := Disk.exists_place_of_inside top inside
    rw [leads one plain, leads other otherPlain]
    cases place with
    | none => exact .inl rfl
    | some location =>
      rcases same location (below location rfl).suffix with equal | ⟨content, otherContent, stands, other⟩
      · exact .inl (by simp only [Disk.standing, Option.bind_some, equal])
      · exact .inr ⟨location, content, otherContent, Disk.standing_eq_some_iff.2 ⟨rfl, stands⟩,
          Disk.standing_eq_some_iff.2 ⟨rfl, other⟩⟩
  constructor
  case exists? =>
    intro path inside
    rcases found inside with equal | ⟨_, _, _, one, other⟩
    · rw [Disk.exists?, Disk.exists?, equal]
    · rw [Disk.exists?, Disk.exists?, one, other]
      rfl
  case isFile =>
    intro path inside
    rcases found inside with equal | ⟨_, _, _, one, other⟩
    · rw [Disk.isFile, Disk.isFile, equal]
    · rw [Disk.isFile, Disk.isFile, one, other]
  case isFolder =>
    intro path inside
    rcases found inside with equal | ⟨_, _, _, one, other⟩
    · rw [Disk.isFolder, Disk.isFolder, equal]
    · rw [Disk.isFolder, Disk.isFolder, one, other]

/-- A crate with a file that no build reads. -/
def withReadme (text : String) : Disk :=
  notesCrate.put ["readme.md", "crate"] (.file text.toUTF8)

/-- The folders of the crate are reached without links, whatever the file beside them holds. -/
theorem isPlainAt_withReadme (text : String) :
    (withReadme text).IsPlainAt ⟨"/crate"⟩ ["crate"] ∧
      (withReadme text).IsPlainAt ⟨"/crate/src"⟩ ["src", "crate"] := by
  have crate : notesCrate.IsPlainAt ⟨"/crate"⟩ ["crate"] := by decide +kernel
  have sources : notesCrate.IsPlainAt ⟨"/crate/src"⟩ ["src", "crate"] := by decide +kernel
  exact ⟨crate.put_file rfl (.inl rfl), sources.put_file rfl (.inl rfl)⟩

/-- The crate has the same tree whatever the file holds. -/
theorem sameKinds_withReadme (text other : String) :
    (withReadme text).SameKinds (withReadme other) crateOptions.projectDir := by
  refine sameKinds_of_plain (isPlainAt_withReadme text).1 (isPlainAt_withReadme other).1
    fun location _ => ?_
  by_cases readme : location = ["readme.md", "crate"]
  · subst readme
    exact .inr ⟨_, _, rfl, rfl⟩
  · rw [withReadme, withReadme, Disk.entry?_put_other _ readme, Disk.entry?_put_other _ readme]
    exact .inl rfl

/-- The files of the source folder hold the same whatever the file holds. -/
theorem sameContents_withReadme {text other : String} {tracked : List FilePath}
    (sources : ∀ path ∈ tracked, (⟨"/crate/src"⟩ : FilePath).components <+: path.components) :
    (withReadme text).SameContents (withReadme other) crateOptions.projectDir tracked := by
  rintro path inside ⟨top, mem, front⟩ content otherContent read otherRead
  have crate : crateOptions.projectDir.IsAnchored := by decide
  have folder : (⟨"/crate/src"⟩ : FilePath).IsAnchored := by decide
  have below := folder.inside_of_prefix (crate.normal_of_inside inside) ((sources top mem).trans front)
  obtain ⟨place, placed, leads⟩ := Disk.exists_place_of_inside ["src", "crate"] below
  obtain ⟨location, found⟩ := Disk.readFile_eq_ok_iff.1 read
  obtain ⟨otherLocation, otherFound⟩ := Disk.readFile_eq_ok_iff.1 otherRead
  rw [leads _ (isPlainAt_withReadme _).2, Disk.standing_eq_some_iff] at found otherFound
  obtain rfl := Option.some.inj (found.1.symm.trans otherFound.1)
  have apart : location ≠ ["readme.md", "crate"] := by
    rintro rfl
    exact absurd (placed _ found.1).suffix (by decide)
  have stands := found.2
  rw [withReadme, Disk.entry?_put_other _ apart] at stands
  have otherStands := otherFound.2
  rw [withReadme, Disk.entry?_put_other _ apart, stands] at otherStands
  cases otherStands
  rfl

/-- Another text in that file does not change what a build gives. -/
theorem run_givesSame_of_edits_withReadme : ∃ first second after otherAfter,
    (run crateOptions ⟨"/out"⟩ .never).run (withReadme "old") = (.ok first, after) ∧
      (run crateOptions ⟨"/out"⟩ .never).run (withReadme "new") = (.ok second, otherAfter) ∧
      first.outcome.GivesSame second.outcome ∧ first.tracked = second.tracked ∧
      first.written.length = 3 := by
  have checked : succeedsWith crateOptions ⟨"/out"⟩ (withReadme "old") fun build _ =>
      build.written.length = 3 ∧
        ∀ path ∈ build.tracked, (⟨"/crate/src"⟩ : FilePath).components <+: path.components ∧
          (withReadme "old").exists? path = true ∧ (withReadme "new").exists? path = true := by
    decide +kernel
  have otherChecked : succeedsWith crateOptions ⟨"/out"⟩ (withReadme "new") fun build _ =>
      ∀ path ∈ build.tracked,
        (withReadme "old").exists? path = true ∧ (withReadme "new").exists? path = true := by
    decide +kernel
  obtain ⟨first, after, ran, holds⟩ := exists_of_succeedsWith checked
  obtain ⟨second, otherAfter, otherRan, otherHolds⟩ := exists_of_succeedsWith otherChecked
  obtain ⟨written, tracked⟩ := of_decide_eq_true holds
  have otherTracked := of_decide_eq_true otherHolds
  obtain ⟨same, -, outside⟩ := run_givesSame_of_edits (by decide) ⟨by decide +kernel, by decide⟩
    ⟨by decide +kernel, by decide⟩ (storedState_of_absent (by decide +kernel))
    (storedState_of_absent (by decide +kernel)) (sameKinds_withReadme "old" "new") ran otherRan
    (sameContents_withReadme fun path mem => (tracked path mem).1)
  refine ⟨first, second, after, otherAfter, ran, otherRan, same, outside fun path mem _ => ?_, written⟩
  rcases List.mem_append.1 mem with one | other
  · exact (tracked path one).2
  · exact otherTracked path other

/-! ### What stands outside of the crate -/

/-- Two builds of a crate that holds the same entries on two disks, into an empty folder next to it. The
files that the first build tracks read the same. -/
structure SameCrate (one other : Disk) (first second : Build) : Prop where
  legal : one.Legal
  otherLegal : other.Legal
  entries : ∀ location, ["crate"] <:+ location → other.entry? location = one.entry? location
  fresh : one.LeadsTo ⟨"/out"⟩ ["out"] ∧ one.namesIn ["out"] = []
  otherFresh : other.LeadsTo ⟨"/out"⟩ ["out"] ∧ other.namesIn ["out"] = []
  ran : ∃ after, (run crateOptions ⟨"/out"⟩ .never).run one = (.ok first, after)
  otherRan : ∃ after, (run crateOptions ⟨"/out"⟩ .never).run other = (.ok second, after)
  contents : ∀ path, crateOptions.projectDir.Inside path → path.IsCoveredBy first.tracked →
    ∀ content, other.readFile path = .ok content ↔ one.readFile path = .ok content

/-- A crate with a type whose resources are looked for outside of the crate. -/
def withOutsideFolder : Disk where
  entries := [(["crate"], .folder), (["src", "crate"], .folder),
    (["lib.rs", "src", "crate"],
      .file "#[embedded_resource_properties(path = \"/../ext\")]\npub struct Notes;\n".toUTF8),
    (["out"], .folder)]
  distinct := by decide
  working := []

/-- A crate whose source folder is a link that leads out of it. -/
def withLinkedSources : Disk where
  entries := [(["crate"], .folder), (["src", "crate"], .link ⟨"/ext"⟩), (["out"], .folder)]
  distinct := by decide
  working := []

/-- The same crate, with a source where the link leads. -/
def withOutsideSource : Disk :=
  (withLinkedSources.put ["ext"] .folder).put ["lib.rs", "ext"]
    (.file "#[embedded_resource_properties]\npub struct Notes;\n".toUTF8)

/-- The folder of the declaration is tracked where it stands. -/
theorem exists_sameCrate_withOutsideFolder : ∃ first second,
    SameCrate withOutsideFolder (withOutsideFolder.put ["ext"] .folder) first second ∧
      first.tracked ≠ second.tracked := by
  have checked : succeedsWith crateOptions ⟨"/out"⟩ withOutsideFolder fun build _ =>
      build.tracked.length = 1 := by
    decide +kernel
  have otherChecked : succeedsWith crateOptions ⟨"/out"⟩ (withOutsideFolder.put ["ext"] .folder)
      fun build _ => build.tracked.length = 2 := by
    decide +kernel
  obtain ⟨first, after, ran, tracked⟩ := exists_of_succeedsWith checked
  obtain ⟨second, otherAfter, otherRan, otherTracked⟩ := exists_of_succeedsWith otherChecked
  have plain : withOutsideFolder.IsPlainAt ⟨"/crate"⟩ ["crate"] := by decide +kernel
  have otherPlain : (withOutsideFolder.put ["ext"] .folder).IsPlainAt ⟨"/crate"⟩ ["crate"] := by
    decide +kernel
  have entries : ∀ location, ["crate"] <:+ location →
      Disk.entry? (withOutsideFolder.put ["ext"] .folder) location =
        withOutsideFolder.entry? location := by
    intro location below
    refine Disk.entry?_put_other _ ?_ _
    rintro rfl
    exact absurd below (by decide)
  refine ⟨first, second, ⟨⟨by decide +kernel, by decide⟩, ⟨by decide +kernel, by decide⟩, entries,
    ⟨by decide +kernel, rfl⟩, ⟨by decide +kernel, rfl⟩, ⟨after, ran⟩, ⟨otherAfter, otherRan⟩, ?_⟩, ?_⟩
  · intro path inside _ content
    obtain ⟨place, below, leads⟩ := Disk.exists_place_of_inside ["crate"] inside
    rw [Disk.readFile_eq_ok_iff, Disk.readFile_eq_ok_iff, leads _ plain, leads _ otherPlain]
    refine exists_congr fun location => ?_
    rw [Disk.standing_eq_some_iff, Disk.standing_eq_some_iff]
    exact and_congr_right fun same => by rw [entries location (below location same).suffix]
  · intro same
    rw [decide_eq_true_iff] at tracked otherTracked
    rw [same, otherTracked] at tracked
    cases tracked

/-- The sources that the link leads to are read where they stand. -/
theorem exists_sameCrate_withLinkedSources : ∃ first second,
    SameCrate withLinkedSources withOutsideSource first second ∧
      first.outcome.artifacts.length = 2 ∧ second.outcome.artifacts.length = 3 ∧
        first.outcome.searchPaths.length = 0 ∧ second.outcome.searchPaths.length = 1 := by
  have checked : succeedsWith crateOptions ⟨"/out"⟩ withLinkedSources fun build _ =>
      build.tracked.isEmpty = true ∧ build.outcome.artifacts.length = 2 ∧
        build.outcome.searchPaths.length = 0 := by
    decide +kernel
  have otherChecked : succeedsWith crateOptions ⟨"/out"⟩ withOutsideSource fun build _ =>
      build.outcome.artifacts.length = 3 ∧ build.outcome.searchPaths.length = 1 := by
    decide +kernel
  obtain ⟨first, after, ran, holds⟩ := exists_of_succeedsWith checked
  obtain ⟨second, otherAfter, otherRan, otherHolds⟩ := exists_of_succeedsWith otherChecked
  obtain ⟨tracked, artifacts, searchPaths⟩ := of_decide_eq_true holds
  obtain ⟨otherArtifacts, otherSearchPaths⟩ := of_decide_eq_true otherHolds
  refine ⟨first, second, ⟨⟨by decide +kernel, by decide⟩, ⟨by decide +kernel, by decide⟩, ?_,
    ⟨by decide +kernel, rfl⟩, ⟨by decide +kernel, rfl⟩, ⟨after, ran⟩, ⟨otherAfter, otherRan⟩, ?_⟩,
    artifacts, otherArtifacts, searchPaths, otherSearchPaths⟩
  · intro location below
    rw [withOutsideSource, Disk.entry?_put_other, Disk.entry?_put_other]
    · rintro rfl
      exact absurd below (by decide)
    · rintro rfl
      exact absurd below (by decide)
  · rintro path - ⟨top, mem, -⟩
    rw [List.isEmpty_iff.1 tracked] at mem
    cases mem

/-- What stands outside of the crate has a say in what a build gives: a folder there is tracked only where
it stands, and a link of the crate may lead to it. -/
theorem not_run_givesSame_of_edits : crateOptions.projectDir.IsAnchored ∧
    (∃ first second, SameCrate withOutsideFolder (withOutsideFolder.put ["ext"] .folder) first second ∧
      first.tracked ≠ second.tracked) ∧
    (∃ first second, SameCrate withLinkedSources withOutsideSource first second ∧
      first.outcome.artifacts ≠ second.outcome.artifacts ∧
        first.outcome.searchPaths ≠ second.outcome.searchPaths) := by
  refine ⟨by decide, exists_sameCrate_withOutsideFolder, ?_⟩
  obtain ⟨first, second, same, artifacts, otherArtifacts, searchPaths, otherSearchPaths⟩ :=
    exists_sameCrate_withLinkedSources
  refine ⟨first, second, same, fun equal => ?_, fun equal => ?_⟩
  · rw [equal, otherArtifacts] at artifacts
    cases artifacts
  · rw [equal, otherSearchPaths] at searchPaths
    cases searchPaths

end Build

end ResourceAccessors
