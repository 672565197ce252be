import ResourceAccessors.Project.Files
import ResourceAccessors.Proofs.Generation.Ownership
import ResourceAccessors.Proofs.Generation.Selection
import ResourceAccessors.Proofs.Project.Walk

/-!
# The files that are read suffice

Of the files that the rules of a crate let pass, only those are read that a declaration may select. A
pass over the files that are read gives what a pass over all of them gives, but for files with names that
are not text: a declaration that looks for files without an extension would take them, and they are not
read.
-/

namespace ResourceAccessors

/-! ### Warnings -/

namespace Warned

instance : LawfulMonad Warned :=
  LawfulMonad.mk' Warned
    (fun first => congrArg (Warned.mk first.value) (List.append_nil _))
    (fun _ _ => congrArg (Warned.mk _) (List.nil_append _))
    (fun _ _ _ => congrArg (Warned.mk _) (List.append_assoc _ _ _))

/-- The values of a step that is made for every item. -/
theorem value_mapM {α β : Type} (step : α → Warned β) (items : List α) :
    (items.mapM step).value = items.map fun item => (step item).value := by
  induction items with
  | nil => rfl
  | cons first rest ih =>
    rw [List.mapM_cons, value_bind, value_bind, value_pure, ih, List.map_cons]

end Warned

namespace Project

open Generation

/-! ### Files that the rules let pass -/

/-- The paths that the rules of a crate let pass, in their order. -/
def offeredPaths (disk : Disk) (root : FilePath) (config : Config) :
    Except Failure (List FilePath) := do
  let root := root.normal
  let excluded ← excludeRules config.excluded
  let paths ← filesOf disk ⟨root, (ignoreRules disk root config).value, excluded⟩
  let offered ← config.offered.mapM glob
  return paths.filter fun path => offered.isEmpty || matchesAny offered root path

/-- The files that the rules of a crate let pass, whatever their size. -/
def offeredFiles (disk : Disk) (root : FilePath) (config : Config) :
    Except Failure (List Resource.File) := do
  (← offeredPaths disk root config).mapM (readFile disk)

/-- Whether a declaration in some sources may select the file at a path. -/
def isSelectable (root : FilePath) (sources : List SourceFile) (path : FilePath) : Bool :=
  (selectionsOf root sources).value.any (·.covers path)

/-- A file with a name that is not text, in a folder where a declaration of some sources looks for files
without an extension. -/
def IsPassedOver (root : FilePath) (sources : List SourceFile) (path : FilePath) : Prop :=
  path.textName? = none ∧ ∃ source ∈ sources, ∃ site ∈ source.sites,
    site.arguments.extension = "" ∧ (path.parent? == some (site.searchPath root)) = true

instance (root : FilePath) (sources : List SourceFile) (path : FilePath) :
    Decidable (IsPassedOver root sources path) :=
  inferInstanceAs (Decidable (path.textName? = none ∧ ∃ source ∈ sources, ∃ site ∈ source.sites,
    site.arguments.extension = "" ∧ (path.parent? == some (site.searchPath root)) = true))

/-- What a pass reads of a project, with some files in place of its own. -/
def inputWith (project : Project) (options : BuildOptions) (files : List Resource.File) : Input :=
  ⟨options, project.sources, files, project.embedded⟩

section Collect

variable {disk : Disk} {root : FilePath} {config : Config} {project : Warned Project}

/-- What the declarations of some sources select. -/
theorem value_selectionsOf (root : FilePath) (sources : List SourceFile) :
    (selectionsOf root sources).value = (sources.flatMap SourceFile.sites).map fun site =>
      ⟨site.searchPath root, site.arguments.extension⟩ := by
  rw [selectionsOf, Warned.value_bind, Warned.value_pure, Warned.value_mapM, List.flatMap_def]
  rfl

/-- The files of a project are the selectable ones among the offered paths. -/
theorem exists_offeredPaths (collected : collect disk root config = .ok project) :
    ∃ paths, offeredPaths disk root config = .ok paths ∧
      (paths.filter (isSelectable root.normal project.value.sources)).mapM
        (readResource disk config.maxFileSize) = .ok project.value.files := by
  obtain ⟨excluded, compiled, collected⟩ := Step.exists_of_bind_eq_ok collected
  obtain ⟨paths, walked, collected⟩ := Step.exists_of_bind_eq_ok collected
  obtain ⟨offered, offering, collected⟩ := Step.exists_of_bind_eq_ok collected
  obtain ⟨embedded, -, collected⟩ := Step.exists_of_bind_eq_ok collected
  obtain ⟨sources, -, collected⟩ := Step.exists_of_bind_eq_ok collected
  obtain ⟨files, read, collected⟩ := Step.exists_of_bind_eq_ok collected
  cases collected
  refine ⟨_, ?_, read⟩
  simp only [offeredPaths, compiled, walked, offering, bind, Except.bind]
  rfl

/-- The offered paths lie below the folder of the crate, and their files can be read. -/
theorem isBelow_of_mem_offeredPaths (legal : disk.Legal) {paths : List FilePath}
    (offered : offeredPaths disk root config = .ok paths) :
    ∀ path ∈ paths, path.IsBelow root.normalComponents ∧
      ∃ content, disk.readFile path = .ok content := by
  obtain ⟨excluded, -, offered⟩ := Step.exists_of_bind_eq_ok offered
  obtain ⟨found, walked, offered⟩ := Step.exists_of_bind_eq_ok offered
  obtain ⟨globs, -, offered⟩ := Step.exists_of_bind_eq_ok offered
  cases offered
  intro path mem
  have shape := FilePath.kept_of_wellFormed (FilePath.wellFormed_components root)
  exact isBelow_of_mem_filesOf legal shape rfl walked path (List.mem_filter.1 mem).1

/-- Where files can be read, those that are read are the selectable ones among all. -/
theorem exists_all_of_mapM_readResource {limit : Nat} {paths : List FilePath}
    {keeps : FilePath → Bool} {files : List Resource.File}
    (readable : ∀ path ∈ paths, path.normal = path ∧ ∃ content, disk.readFile path = .ok content)
    (read : (paths.filter keeps).mapM (readResource disk limit) = .ok files) :
    ∃ all, paths.mapM (readFile disk) = .ok all ∧ all.map Resource.File.path = paths ∧
      files = all.filter fun file => keeps file.path := by
  induction paths generalizing files with
  | nil =>
    cases read
    exact ⟨[], rfl, rfl, rfl⟩
  | cons first rest ih =>
    obtain ⟨normal, content, holds⟩ := readable first List.mem_cons_self
    have rests := fun path mem => readable path (List.mem_cons_of_mem first mem)
    have path : (Resource.File.ofBytes first content).path = first := normal
    have one : readFile disk first = .ok (.ofBytes first content) := by
      rw [readFile, holds]
      rfl
    by_cases selected : keeps first = true
    · rw [List.filter_cons_of_pos selected, List.mapM_cons] at read
      obtain ⟨file, fileRead, read⟩ := Step.exists_of_bind_eq_ok read
      obtain ⟨others, othersRead, read⟩ := Step.exists_of_bind_eq_ok read
      cases read
      have same : file = .ofBytes first content := by
        simp only [readResource, holds, Except.mapError, bind, Except.bind] at fileRead
        split at fileRead
        · cases fileRead
        · exact (Except.ok.inj fileRead).symm
      obtain ⟨all, allRead, paths, rfl⟩ := ih rests othersRead
      refine ⟨.ofBytes first content :: all, ?_, ?_, ?_⟩
      · rw [List.mapM_cons, one, allRead]
        rfl
      · rw [List.map_cons, path, paths]
      · rw [List.filter_cons_of_pos (by rw [path]; exact selected), same]
    · rw [List.filter_cons_of_neg selected] at read
      obtain ⟨all, allRead, paths, rfl⟩ := ih rests read
      refine ⟨.ofBytes first content :: all, ?_, ?_, ?_⟩
      · rw [List.mapM_cons, one, allRead]
        rfl
      · rw [List.map_cons, path, paths]
      · rw [List.filter_cons_of_neg (by rw [path]; exact selected)]

/-- A selection covers the files that lie directly in its folder, have a name that is text and have its
extension. -/
theorem Selection.covers_iff {selection : Selection} {path : FilePath} :
    selection.covers path = true ↔ ∃ name,
      path.components = selection.folder.components ++ [.name name] ∧
        FilePath.isTextName name = true ∧ FileName.extension name = selection.extension := by
  rw [Selection.covers, Bool.and_eq_true_iff, FilePath.parent?_beq_iff]
  constructor
  · rintro ⟨⟨last, -, components⟩, ending⟩
    rw [FilePath.textName?, FilePath.fileName?, components, List.getLast?_concat] at ending
    cases last with
    | name name =>
      by_cases isText : FilePath.isTextName name = true
      · rw [Option.filter_some_pos isText] at ending
        exact ⟨name, components, isText, by simpa using ending⟩
      · rw [Option.filter_some_neg (by simpa using isText)] at ending
        cases ending
    | root | current | parent => cases ending
  · rintro ⟨name, components, isText, ending⟩
    refine ⟨⟨.name name, by simp, components⟩, ?_⟩
    rw [FilePath.textName?, FilePath.fileName?, components, List.getLast?_concat,
      Option.filter_some_pos isText]
    simpa using ending

/-- A file is selectable when it lies directly in the resource folder of a declaration, has a name that is
text and has the extension. -/
theorem isSelectable_iff {sources : List SourceFile} {path : FilePath} :
    isSelectable root sources path = true ↔ ∃ source ∈ sources, ∃ site ∈ source.sites, ∃ name,
      path.components = (site.searchPath root).components ++ [.name name] ∧
        FilePath.isTextName name = true ∧ FileName.extension name = site.arguments.extension := by
  rw [isSelectable, value_selectionsOf, List.any_map, List.any_eq_true]
  simp only [Function.comp_apply, Selection.covers_iff, List.mem_flatMap]
  constructor
  · rintro ⟨site, ⟨source, mem, siteMem⟩, covers⟩
    exact ⟨source, mem, site, siteMem, covers⟩
  · rintro ⟨source, mem, site, siteMem, covers⟩
    exact ⟨site, ⟨source, mem, siteMem⟩, covers⟩

/-- A file that a declaration selects is selectable, or it is passed over. -/
theorem isSelectable_of_matchesSearch {sources : List SourceFile} {source : SourceFile}
    {site : Declaration.Site} (sourceMem : source ∈ sources) (siteMem : site ∈ source.sites)
    {file : Resource.File} {projectDir : FilePath} (same : projectDir.normal = root.normal)
    (selected : file.matchesSearch (site.searchPath projectDir) site.arguments.extension = true)
    (notPassedOver : ¬ IsPassedOver root sources file.path) :
    isSelectable root.normal sources file.path = true := by
  obtain ⟨folder, extension⟩ := Bool.and_eq_true_iff.1 selected
  rw [← Declaration.Site.searchPath_normal, same, Declaration.Site.searchPath_normal] at folder
  have ending := beq_iff_eq.1 extension
  rw [Resource.File.fileName] at ending
  cases named : file.path.textName? with
  | none =>
    rw [named, Option.getD_none] at ending
    exact absurd ⟨named, source, sourceMem, site, siteMem, ending.symm, folder⟩ notPassedOver
  | some name =>
    rw [named, Option.getD_some] at ending
    rw [isSelectable, value_selectionsOf, List.any_map, List.any_eq_true]
    refine ⟨site, List.mem_flatMap.2 ⟨source, sourceMem, siteMem⟩, ?_⟩
    rw [Function.comp_apply, Selection.covers, Declaration.Site.searchPath_normal, folder, named,
      Option.map_some, ending]
    exact beq_self_eq_true _

/-- A selectable file is not passed over. -/
theorem not_isPassedOver_of_isSelectable {sources : List SourceFile} {path : FilePath}
    (selectable : isSelectable root.normal sources path = true) :
    ¬ IsPassedOver root sources path := by
  obtain ⟨_, _, _, _, name, components, isText, -⟩ := isSelectable_iff.1 selectable
  rintro ⟨unnamed, -⟩
  rw [FilePath.textName?, FilePath.fileName?, components, List.getLast?_concat,
    Option.filter_some_pos isText] at unnamed
  cases unnamed

end Collect

/-- A first pass over the files that are read of a crate gives what a pass over all files gives that
its rules let pass, without those that are passed over. -/
theorem offeredFiles_givesSame {disk : Disk} (legal : disk.Legal) {root : FilePath}
    {config : Config} {project : Warned Project}
    (collected : collect disk root config = .ok project) :
    ∃ all, offeredFiles disk root config = .ok all ∧
      ∀ options : BuildOptions, (options.projectDir == root) = true → ∃ outcome allOutcome,
        Generator.new.run (project.value.inputWith options project.value.files) .never =
          (.ok outcome, ⟨outcome.state⟩) ∧
        Generator.new.run (project.value.inputWith options (all.filter fun file =>
            ¬ IsPassedOver root project.value.sources file.path)) .never =
          (.ok allOutcome, ⟨allOutcome.state⟩) ∧
        outcome.GivesSame allOutcome := by
  obtain ⟨paths, offered, read⟩ := exists_offeredPaths collected
  have below := isBelow_of_mem_offeredPaths legal offered
  have shape := FilePath.kept_of_wellFormed (FilePath.wellFormed_components root)
  obtain ⟨all, allRead, samePaths, selectable⟩ :=
    exists_all_of_mapM_readResource
      (fun path mem => ⟨(below path mem).1.normal_eq shape, (below path mem).2⟩) read
  refine ⟨all, ?_, ?_⟩
  · rw [offeredFiles, offered]
    exact allRead
  · intro options same
    have normal : options.projectDir.normal = root.normal := by
      rw [FilePath.beq_iff_components] at same
      rw [FilePath.normal, FilePath.normal, FilePath.normalComponents, FilePath.normalComponents,
        same]
    obtain ⟨outcome, ran⟩ := Generator.run_never .new
      (project.value.inputWith options project.value.files)
    let others := all.filter fun file => ¬ IsPassedOver root project.value.sources file.path
    obtain ⟨allOutcome, allRan⟩ := Generator.run_never .new (project.value.inputWith options others)
    refine ⟨outcome, allOutcome, ran, allRan, ?_⟩
    have alike : (project.value.inputWith options project.value.files).SameButFiles
        (project.value.inputWith options others) := ⟨rfl, rfl, rfl⟩
    have among : project.value.files = others.filter fun file =>
        isSelectable root.normal project.value.sources file.path := by
      rw [selectable, List.filter_filter]
      apply List.filter_congr
      intro file _
      rw [eq_comm, Bool.and_eq_left_iff_imp, decide_eq_true_iff]
      exact not_isPassedOver_of_isSelectable
    apply (Generator.steps_of_run ran).1.givesSame (Generator.steps_of_run allRan).1 alike
    intro source sourceMem site siteMem
    apply alike.plan_eq_of_filter among
    intro file mem selected
    apply isSelectable_of_matchesSearch sourceMem siteMem normal selected
    exact of_decide_eq_true (List.mem_filter.1 mem).2

/-- A crate with two declared types, one of which takes files without an extension. Two of its files have
names that are not text, and one is large. -/
def withUnreadNames : Disk where
  entries := [(["crate"], .folder), (["src", "crate"], .folder),
    (["lib.rs", "src", "crate"],
      .file ("#[embedded_resource_properties]\npub struct Notes;\n" ++
        "#[embedded_resource_properties(\"\")]\npub struct Plain;\n").toUTF8),
    (["Notes", "src", "crate"], .folder),
    (["first.txt", "Notes", "src", "crate"], .file "one".toUTF8),
    (["a\x00ÿ.txt", "Notes", "src", "crate"], .file "two".toUTF8),
    (["picture.bin", "Notes", "src", "crate"], .file "far too many bytes".toUTF8),
    (["Plain", "src", "crate"], .folder),
    (["b\x00ÿ", "Plain", "src", "crate"], .file "six".toUTF8)]
  distinct := by decide
  working := []

/-- A configuration that refuses files of more than a few bytes. -/
def onlySmallFiles : Config :=
  { Config.default with maxFileSize := 4 }

/-- Two results that are checked together are both there, and what was checked holds of them. -/
theorem exists_of_checked {ε δ α β : Type} {first : Except ε α} {second : Except δ β}
    {holds : α → β → Bool}
    (checked : (first.toOption.any fun a => second.toOption.any (holds a)) = true) :
    ∃ a b, first = .ok a ∧ second = .ok b ∧ holds a b = true := by
  cases first with
  | error cause => cases checked
  | ok a =>
    cases second with
    | error cause => cases checked
    | ok b => exact ⟨a, b, rfl, rfl, checked⟩

/-- One of the five files of the crate is read and one is passed over. -/
theorem exists_collect_withUnreadNames : ∃ project all,
    collect withUnreadNames ⟨"/crate/"⟩ onlySmallFiles = .ok project ∧
      offeredFiles withUnreadNames ⟨"/crate/"⟩ onlySmallFiles = .ok all ∧
      project.value.files.length = 1 ∧ all.length = 5 ∧
      (all.filter fun file =>
        ¬ IsPassedOver ⟨"/crate/"⟩ project.value.sources file.path).length = 4 := by
  have checked : ((collect withUnreadNames ⟨"/crate/"⟩ onlySmallFiles).toOption.any fun project =>
      (offeredFiles withUnreadNames ⟨"/crate/"⟩ onlySmallFiles).toOption.any fun all =>
        project.value.files.length = 1 ∧ all.length = 5 ∧
          (all.filter fun file =>
            ¬ IsPassedOver ⟨"/crate/"⟩ project.value.sources file.path).length = 4) = true := by
    decide +kernel
  obtain ⟨project, all, collected, offered, counted⟩ := exists_of_checked checked
  exact ⟨project, all, collected, offered, of_decide_eq_true counted⟩

/-- One of the five files of the crate is read and one is passed over, and a pass over the other four gives
the same. -/
theorem offeredFiles_givesSame_withUnreadNames :
    ∃ project all outcome allOutcome,
      collect withUnreadNames ⟨"/crate/"⟩ onlySmallFiles = .ok project ∧
      offeredFiles withUnreadNames ⟨"/crate/"⟩ onlySmallFiles = .ok all ∧
      project.value.files.length = 1 ∧ all.length = 5 ∧
      (all.filter fun file =>
        ¬ IsPassedOver ⟨"/crate/"⟩ project.value.sources file.path).length = 4 ∧
      Generator.new.run
        (project.value.inputWith ⟨false, ⟨"/crate"⟩, "Demo"⟩ project.value.files) .never =
          (.ok outcome, ⟨outcome.state⟩) ∧
      Generator.new.run (project.value.inputWith ⟨false, ⟨"/crate"⟩, "Demo"⟩ (all.filter fun file =>
          ¬ IsPassedOver ⟨"/crate/"⟩ project.value.sources file.path)) .never =
        (.ok allOutcome, ⟨allOutcome.state⟩) ∧
      outcome.GivesSame allOutcome := by
  have legal : withUnreadNames.Legal := ⟨by decide, by decide⟩
  obtain ⟨project, all, collected, offered, one, five, four⟩ := exists_collect_withUnreadNames
  obtain ⟨found, foundOffered, same⟩ := offeredFiles_givesSame legal collected
  obtain rfl : all = found := Except.ok.inj (offered.symm.trans foundOffered)
  obtain ⟨outcome, allOutcome, ran, allRan, gives⟩ := same ⟨false, ⟨"/crate"⟩, "Demo"⟩ (by decide)
  exact ⟨project, all, outcome, allOutcome, collected, offered, one, five, four, ran, allRan, gives⟩

/-- A crate with one declared type, which takes files without an extension. The only file in its folder has
a name that is not text. -/
def onlyUnreadName : Disk where
  entries := [(["crate"], .folder), (["src", "crate"], .folder),
    (["lib.rs", "src", "crate"],
      .file "#[embedded_resource_properties(\"\")]\npub struct Notes;\n".toUTF8),
    (["Notes", "src", "crate"], .folder),
    (["a\x00ÿ.txt", "Notes", "src", "crate"], .file "one".toUTF8)]
  distinct := by decide
  working := []

/-- The file is not read of the crate, but a pass over all files embeds it. -/
theorem not_givesSame_onlyUnreadName :
    onlyUnreadName.Legal ∧ ∃ project all outcome allOutcome,
      collect onlyUnreadName ⟨"/crate"⟩ Config.default = .ok project ∧
      offeredFiles onlyUnreadName ⟨"/crate"⟩ Config.default = .ok all ∧
      Generator.new.run
        (project.value.inputWith ⟨false, ⟨"/crate"⟩, "Demo"⟩ project.value.files) .never =
          (.ok outcome, ⟨outcome.state⟩) ∧
      Generator.new.run (project.value.inputWith ⟨false, ⟨"/crate"⟩, "Demo"⟩ all) .never =
        (.ok allOutcome, ⟨allOutcome.state⟩) ∧
      outcome.embedded = [] ∧ allOutcome.embedded ≠ [] ∧ ¬ outcome.GivesSame allOutcome := by
  have checked : ((collect onlyUnreadName ⟨"/crate"⟩ Config.default).toOption.any fun project =>
      (offeredFiles onlyUnreadName ⟨"/crate"⟩ Config.default).toOption.any fun all =>
        project.value.files.length = 0 ∧ project.value.embedded.isNone ∧
          ∃ site ∈ (project.value.inputWith ⟨false, ⟨"/crate"⟩, "Demo"⟩ all).declared,
            ∃ file ∈ all,
              file.matchesSearch (site.searchPath ⟨"/crate"⟩) site.arguments.extension = true) = true := by
    decide +kernel
  obtain ⟨project, all, collected, offered, seen⟩ := exists_of_checked checked
  obtain ⟨noFiles, everything, site, declared, file, mem, selected⟩ := of_decide_eq_true seen
  obtain ⟨outcome, ran⟩ := Generator.run_never .new
    (project.value.inputWith ⟨false, ⟨"/crate"⟩, "Demo"⟩ project.value.files)
  obtain ⟨allOutcome, allRan⟩ := Generator.run_never .new
    (project.value.inputWith ⟨false, ⟨"/crate"⟩, "Demo"⟩ all)
  have nothing : outcome.embedded = [] := (Generator.steps_of_run ran).1.embedded_eq_nil
    State.sound_empty (Option.isNone_iff_eq_none.1 everything) (List.eq_nil_of_length_eq_zero noFiles)
  have something : allOutcome.embedded ≠ [] :=
    (Generator.steps_of_run allRan).1.embedded_ne_nil State.sound_empty
      (Option.isNone_iff_eq_none.1 everything) declared mem selected
  exact ⟨⟨by decide, by decide⟩, project, all, outcome, allOutcome, collected, offered, ran, allRan,
    nothing, something, fun same => something (same.embedded ▸ nothing)⟩

end Project

end ResourceAccessors
