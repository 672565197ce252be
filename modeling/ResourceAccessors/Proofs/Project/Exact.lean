import ResourceAccessors.Proofs.Disk.Rearranged
import ResourceAccessors.Proofs.Project.Kinds
import ResourceAccessors.Proofs.Project.Walked
import ResourceAccessors.Proofs.Project.Ways

/-!
# What a project holds

The sources, the resources and the embedded files of a project, each said without the walk that finds them,
and the resource that is named when one is too large. The order in which folders list their entries does
not matter for any of them.
-/

namespace ResourceAccessors.Project

open FilePath (Component)
open Generation (SourceFile)
open Pattern (Glob IgnoreRules)

/-! ### What belongs to a project -/

/-- A list of normal paths in strictly ascending order that holds all paths that belong to it. -/
structure Lists (paths : List FilePath) (belongs : FilePath → Prop) : Prop where
  mem_iff : ∀ path, path ∈ paths ↔ belongs path
  ascending : paths.Pairwise fun left right => compare left right = .lt
  normal : ∀ path ∈ paths, path.normal = path

/-- A walked text with the ending of source files that has a module below some source folder, where it
does not start a program next to a library. -/
structure IsSource (disk : Disk) (filter : Filter) (sourceRoots : List FilePath) (path : FilePath) :
    Prop where
  walked : IsWalked disk filter path
  named : ∃ stem, stem ≠ "" ∧ path.fileName? = some (stem ++ ".rs")
  placed : ∃ sourceRoot ∈ sourceRoots, (Declaration.modulePath? sourceRoot path).isSome = true ∧
    ¬ ((path == sourceRoot.child "main.rs") = true ∧ disk.isFile (sourceRoot.child "lib.rs") = true)
  text : ∃ content, disk.readFile path = .ok content ∧ (Text.decode? content).isSome = true

/-- A source with the module that it defines and its text. -/
structure IsSourceFile (disk : Disk) (filter : Filter) (sourceRoots : List FilePath) (source : SourceFile) :
    Prop where
  walked : IsWalked disk filter source.path
  defines : sourceModule? disk sourceRoots source.path = some source.modulePath
  text : ∃ content, disk.readFile source.path = .ok content ∧ Text.decode? content = some source.text

/-- A walked file that matches one of the globs for resources, if there are any. -/
def IsOffered (disk : Disk) (filter : Filter) (offered : List Glob) (path : FilePath) : Prop :=
  IsWalked disk filter path ∧
    (offered = [] ∨ ∃ glob ∈ offered, glob.isMatch (relativeText filter.root path) = true)

/-- An offered file that matches one of the globs for embedded files. -/
def IsEmbedded (disk : Disk) (filter : Filter) (offered embedded : List Glob) (path : FilePath) : Prop :=
  IsOffered disk filter offered path ∧
    ∃ glob ∈ embedded, glob.isMatch (relativeText filter.root path) = true

/-- An offered file that lies directly in the resource folder of a declaration in the sources and has its
extension. Its name is text. -/
def IsSelected (disk : Disk) (filter : Filter) (sourceRoots : List FilePath) (offered : List Glob)
    (path : FilePath) : Prop :=
  IsOffered disk filter offered path ∧
    ∃ source, IsSourceFile disk filter sourceRoots source ∧ ∃ site ∈ source.sites, ∃ name,
      path.components = (site.searchPath filter.root).components ++ [.name name] ∧
        FilePath.isTextName name = true ∧ FileName.extension name = site.arguments.extension

/-- A project that holds what belongs to it, and nothing else. -/
structure IsExact (disk : Disk) (filter : Filter) (sourceRoots : List FilePath)
    (offered embedded : List Glob) (project : Project) : Prop where
  folders : project.sourceRoots = sourceRoots
  sources : ∀ source, source ∈ project.sources ↔ IsSourceFile disk filter sourceRoots source
  sourcePaths : Lists (project.sources.map SourceFile.path) (IsSource disk filter sourceRoots)
  files : ∀ file, file ∈ project.files ↔ IsSelected disk filter sourceRoots offered file.path ∧
    ∃ content, disk.readFile file.path = .ok content ∧ file.text = Text.decode? content
  filePaths : Lists (project.files.map Resource.File.path) (IsSelected disk filter sourceRoots offered)
  noEmbedded : embedded = [] → project.embedded = none
  embedded : embedded ≠ [] → ∃ paths, project.embedded = some paths ∧
    Lists paths (IsEmbedded disk filter offered embedded)

/-- The first selected file in the order of paths that is larger than a limit. -/
structure IsFirstTooLarge (disk : Disk) (filter : Filter) (sourceRoots : List FilePath)
    (offered : List Glob) (limit : Nat) (path : FilePath) (size : Nat) : Prop where
  selected : IsSelected disk filter sourceRoots offered path
  holds : ∃ content, disk.readFile path = .ok content ∧ content.size = size
  tooLarge : limit < size
  first : ∀ other content, IsSelected disk filter sourceRoots offered other →
    disk.readFile other = .ok content → limit < content.size → other = path ∨ compare path other = .lt

/-- What belongs to a list can be said in another way. -/
theorem Lists.congr {paths : List FilePath} {belongs other : FilePath → Prop} (lists : Lists paths belongs)
    (same : ∀ path, belongs path ↔ other path) : Lists paths other :=
  ⟨fun path => (lists.mem_iff path).trans (same path), lists.ascending, lists.normal⟩

/-- Some of the paths of a list are a list of what is kept. -/
theorem Lists.filter {paths : List FilePath} {belongs : FilePath → Prop} (lists : Lists paths belongs)
    (keeps : FilePath → Bool) : Lists (paths.filter keeps) fun path => belongs path ∧ keeps path = true where
  mem_iff path := by rw [List.mem_filter, lists.mem_iff]
  ascending := lists.ascending.filter keeps
  normal path mem := lists.normal path (List.mem_of_mem_filter mem)

section Parts

variable {disk : Disk} {filter : Filter} {root path : FilePath} {config : Config}
  {sourceRoots paths : List FilePath} {offered embedded : List Glob}

/-! ### Sources -/

/-- A source has a name that is more than its ending. -/
theorem isSourceName_iff {name : String} :
    isSourceName name = true ↔ ∃ stem, stem ≠ "" ∧ name = stem ++ ".rs" := by
  have split : ∀ front : List Char, (front ++ ['.', 'r', 's']).dropLast.dropLast.dropLast = front := by
    intro front
    simp
  rw [isSourceName, Declaration.sourceStem?]
  by_cases ending : ['.', 'r', 's'].isSuffixOf name.toList = true
  · obtain ⟨front, whole⟩ := List.isSuffixOf_iff_suffix.1 ending
    have named : name = String.ofList front ++ ".rs" := by
      rw [← String.toList_inj, String.toList_append, String.toList_ofList]
      exact whole.symm
    rw [if_pos ending, ← whole, split]
    constructor
    · intro some
      exact ⟨String.ofList front, by simpa using some, named⟩
    · rintro ⟨stem, some, other⟩
      rw [named, String.append_left_inj] at other
      simpa [other] using some
  · rw [if_neg ending]
    constructor
    · intro absurd
      cases absurd
    · rintro ⟨stem, -, rfl⟩
      refine absurd (List.isSuffixOf_iff_suffix.2 ⟨stem.toList, ?_⟩) ending
      rw [String.toList_append]
      rfl

/-- A file has a module where one of the source folders has one for it. -/
theorem isSome_sourceModule?_iff : (sourceModule? disk sourceRoots path).isSome = true ↔
    (∃ stem, stem ≠ "" ∧ path.fileName? = some (stem ++ ".rs")) ∧
      ∃ sourceRoot ∈ sourceRoots, (Declaration.modulePath? sourceRoot path).isSome = true ∧
        ¬ ((path == sourceRoot.child "main.rs") = true ∧
          disk.isFile (sourceRoot.child "lib.rs") = true) := by
  have named : path.fileName?.any isSourceName = true ↔
      ∃ stem, stem ≠ "" ∧ path.fileName? = some (stem ++ ".rs") := by
    rw [Option.any_eq_true]
    simp only [isSourceName_iff]
    constructor
    · rintro ⟨_, found, stem, nonempty, rfl⟩
      exact ⟨stem, nonempty, found⟩
    · rintro ⟨stem, nonempty, found⟩
      exact ⟨_, found, stem, nonempty, rfl⟩
  rw [sourceModule?, ← named]
  split
  next source =>
    simp only [source, true_and, List.isSome_findSome?, List.any_eq_true]
    refine exists_congr fun sourceRoot => and_congr_right fun _ => ?_
    rw [← Bool.and_eq_true_iff, ← isProgramOf]
    by_cases program : isProgramOf disk sourceRoot path = true
    · simp [program]
    · rw [if_neg program, and_iff_left program]
  next noSource => simp [noSource]

/-- A walked file is a source where the reader finds one. -/
theorem isSource_iff : IsSource disk filter sourceRoots path ↔
    IsWalked disk filter path ∧ (sourceAt? disk sourceRoots path).isSome = true := by
  rw [Option.isSome_iff_exists]
  constructor
  · rintro ⟨walked, named, placed, content, held, decoded⟩
    obtain ⟨modulePath, defined⟩ :=
      Option.isSome_iff_exists.1 (isSome_sourceModule?_iff.2 ⟨named, placed⟩)
    obtain ⟨text, decoded⟩ := Option.isSome_iff_exists.1 decoded
    exact ⟨walked, ⟨path, modulePath, text⟩,
      sourceAt?_eq_some_iff.2 ⟨rfl, defined, content, held, decoded⟩⟩
  · rintro ⟨walked, source, found⟩
    obtain ⟨-, defined, content, held, decoded⟩ := sourceAt?_eq_some_iff.1 found
    obtain ⟨named, placed⟩ := isSome_sourceModule?_iff.1 (by rw [defined]; rfl)
    exact ⟨walked, named, placed, content, held, by rw [decoded]; rfl⟩

/-- The sources among the walked files are the source files of the project. -/
theorem mem_sourcesAmong_iff (lists : Lists paths (IsWalked disk filter)) {source : SourceFile} :
    source ∈ sourcesAmong disk root config paths ↔
      IsSourceFile disk filter (sourceRootsOf root.normal config) source := by
  rw [sourcesAmong, List.mem_filterMap]
  constructor
  · rintro ⟨path, mem, found⟩
    obtain ⟨rfl, defines, text⟩ := sourceAt?_eq_some_iff.1 found
    exact ⟨(lists.mem_iff _).1 mem, defines, text⟩
  · rintro ⟨walked, defines, text⟩
    exact ⟨source.path, (lists.mem_iff _).2 walked, sourceAt?_eq_some_iff.2 ⟨rfl, defines, text⟩⟩

/-- The paths of the sources are those at which there is a source. -/
theorem map_path_sourcesAmong : (sourcesAmong disk root config paths).map SourceFile.path =
    paths.filter fun path => (sourceAt? disk (sourceRootsOf root.normal config) path).isSome := by
  rw [sourcesAmong]
  induction paths with
  | nil => rfl
  | cons path rest ih =>
    rw [List.filterMap_cons, List.filter_cons]
    cases found : sourceAt? disk (sourceRootsOf root.normal config) path with
    | none => exact ih
    | some source =>
      rw [← (sourceAt?_eq_some_iff.1 found).1]
      exact congrArg (source.path :: ·) ih

/-! ### Resources -/

/-- The offered files are those that match the globs for resources. -/
theorem lists_candidatesOf (lists : Lists paths (IsWalked disk filter)) :
    Lists (candidatesOf offered filter.root paths) (IsOffered disk filter offered) := by
  refine (lists.filter _).congr fun path => and_congr_right fun _ => ?_
  rw [Bool.or_eq_true, List.isEmpty_iff, matchesAny, List.any_eq_true]

/-- The embedded files are the offered ones that match the globs for embedded files. -/
theorem lists_embedded (lists : Lists paths (IsWalked disk filter)) :
    Lists ((candidatesOf offered filter.root paths).filter (matchesAny embedded filter.root))
      (IsEmbedded disk filter offered embedded) := by
  refine ((lists_candidatesOf lists).filter _).congr fun path => and_congr_right fun _ => ?_
  rw [matchesAny, List.any_eq_true]

/-- The selectable files are the offered ones that a declaration in the sources selects. -/
theorem lists_selectableAmong (config : Config) (offered : List Glob)
    (lists : Lists paths (IsWalked disk filter)) (top : filter.root = root.normal) :
    Lists (selectableAmong disk root config offered paths)
      (IsSelected disk filter (sourceRootsOf root.normal config) offered) := by
  rw [selectableAmong, ← top]
  refine ((lists_candidatesOf lists).filter _).congr fun path => and_congr_right fun _ => ?_
  simp only [isSelectable_iff, mem_sourcesAmong_iff lists, top]

/-- Resources that are read are not too large, and hold the text of their files. -/
theorem exists_of_mapM_readResource {limit : Nat} {files : List Resource.File}
    (readable : ∀ path ∈ paths, path.normal = path ∧ ∃ content, disk.readFile path = .ok content)
    (read : paths.mapM (readResource disk limit) = .ok files) :
    files.map Resource.File.path = paths ∧ ∀ file ∈ files, ∃ content,
      disk.readFile file.path = .ok content ∧ content.size ≤ limit ∧ file.text = Text.decode? content := by
  induction paths generalizing files with
  | nil =>
    cases read
    exact ⟨rfl, by simp⟩
  | cons path rest ih =>
    obtain ⟨⟨normal, content, held⟩, later⟩ := List.forall_mem_cons.1 readable
    rw [List.mapM_cons, readResource_eq held] at read
    obtain ⟨file, fileRead, read⟩ := Generation.Step.exists_of_bind_eq_ok read
    obtain ⟨others, othersRead, read⟩ := Generation.Step.exists_of_bind_eq_ok read
    cases read
    obtain ⟨othersPaths, othersHeld⟩ := ih later othersRead
    split at fileRead
    next => cases fileRead
    next fits =>
      cases fileRead
      have place : (Resource.File.ofBytes path content).path = path := normal
      refine ⟨by rw [List.map_cons, place, othersPaths], List.forall_mem_cons.2 ⟨?_, othersHeld⟩⟩
      exact ⟨content, by rw [place, held], Nat.le_of_not_lt fits, rfl⟩

end Parts

/-! ### The project -/

section Collect

variable {disk other : Disk} {filter : Filter} {root : FilePath} {config : Config} {excluded : IgnoreRules}
  {offered embedded : List Glob} {paths : List FilePath}

/-- The files that are found are those that a walk comes to. -/
theorem lists_filesOf (legal : disk.Legal)
    (walked : filesOf disk (filterOf disk root config excluded) = .ok paths) :
    Lists paths (IsWalked disk (filterOf disk root config excluded)) := by
  have shape := FilePath.kept_of_wellFormed (FilePath.wellFormed_components root)
  constructor
  case mem_iff =>
    intro path
    rw [mem_filesOf_iff legal shape rfl walked, reached_iff_isWalked shape rfl legal]
  case ascending => exact pairwise_filesOf walked
  case normal =>
    intro path mem
    exact (isBelow_of_mem_filesOf legal shape rfl walked path mem).1.normal_eq shape

section Read

variable {disk : Disk} {filter : Filter} {root : FilePath} {config : Config} {offered embedded : List Glob}
  {paths : List FilePath} {files : List Resource.File}
  (lists : Lists paths (IsWalked disk filter)) (top : filter.root = root.normal)
  (readable : ∀ path ∈ paths, ∃ content, disk.readFile path = .ok content)
  (read : (selectableAmong disk root config offered paths).mapM (readResource disk config.maxFileSize) =
    .ok files)

include lists top readable read

/-- The resources that are read are the selected files, none of which is too large. -/
theorem exists_of_read : files.map Resource.File.path = selectableAmong disk root config offered paths ∧
    ∀ file ∈ files, ∃ content, disk.readFile file.path = .ok content ∧
      content.size ≤ config.maxFileSize ∧ file.text = Text.decode? content :=
  exists_of_mapM_readResource
    (fun path mem => ⟨(lists_selectableAmong config offered lists top).normal path mem,
      readable_of_mem_selectableAmong readable path mem⟩) read

/-- Each selected file is read. -/
theorem exists_file_of_read {path : FilePath}
    (selects : IsSelected disk filter (sourceRootsOf root.normal config) offered path) :
    ∃ file ∈ files, file.path = path := by
  rw [← (lists_selectableAmong config offered lists top).mem_iff,
    ← (exists_of_read lists top readable read).1] at selects
  exact List.mem_map.1 selects

/-- The resources are the selected files with their texts. -/
theorem mem_files_iff_of_read {file : Resource.File} : file ∈ files ↔
    IsSelected disk filter (sourceRootsOf root.normal config) offered file.path ∧
      ∃ content, disk.readFile file.path = .ok content ∧ file.text = Text.decode? content := by
  obtain ⟨filePaths, held⟩ := exists_of_read lists top readable read
  constructor
  · intro mem
    obtain ⟨content, holds, -, text⟩ := held file mem
    have among := List.mem_map_of_mem (f := Resource.File.path) mem
    rw [filePaths, (lists_selectableAmong config offered lists top).mem_iff] at among
    exact ⟨among, content, holds, text⟩
  · rintro ⟨selects, content, holds, text⟩
    obtain ⟨found, mem, place⟩ := exists_file_of_read lists top readable read selects
    obtain ⟨bytes, foundHolds, -, foundText⟩ := held found mem
    rw [place, holds] at foundHolds
    cases foundHolds
    have same : found = file := congrArg₂ Resource.File.mk place (foundText.trans text.symm)
    exact same ▸ mem

/-- A project with the resources that are read holds what belongs to it. -/
theorem isExact_of_read : IsExact disk filter (sourceRootsOf root.normal config) offered embedded
    ⟨sourceRootsOf root.normal config, sourcesAmong disk root config paths, files,
      if embedded.isEmpty then none
        else some ((candidatesOf offered root.normal paths).filter (matchesAny embedded root.normal))⟩ := by
  constructor
  case folders => rfl
  case sources => exact fun source => mem_sourcesAmong_iff lists
  case sourcePaths =>
    rw [map_path_sourcesAmong]
    exact (lists.filter _).congr fun path => isSource_iff.symm
  case files => exact fun file => mem_files_iff_of_read lists top readable read
  case filePaths =>
    rw [(exists_of_read lists top readable read).1]
    exact lists_selectableAmong config offered lists top
  case noEmbedded =>
    rintro rfl
    rfl
  case embedded =>
    intro nonempty
    have notEmpty : ¬ embedded.isEmpty = true := by simpa using nonempty
    rw [if_neg notEmpty, ← top]
    exact ⟨_, rfl, lists_embedded lists⟩

end Read

section Parts

variable (excluding : excludeRules config.excluded = .ok excluded)
  (walked : filesOf disk (filterOf disk root config excluded) = .ok paths)
  (offering : config.offered.mapM glob = .ok offered) (embedding : config.embedded.mapM glob = .ok embedded)
  (legal : disk.Legal)

include excluding walked offering embedding legal

/-- A project that is collected holds what belongs to it, and no selected file is too large. -/
theorem isExact_of_collect {project : Warned Project} (collected : collect disk root config = .ok project) :
    IsExact disk (filterOf disk root config excluded) (sourceRootsOf root.normal config) offered embedded
      project.value ∧
    ∀ path content, IsSelected disk (filterOf disk root config excluded) (sourceRootsOf root.normal config)
      offered path → disk.readFile path = .ok content → content.size ≤ config.maxFileSize := by
  have lists := lists_filesOf legal walked
  have readable := readable_of_mem_filesOf legal walked
  obtain ⟨warnings, outcome⟩ := exists_collect_eq excluding walked offering embedding readable
  rw [outcome] at collected
  cases read : (selectableAmong disk root config offered paths).mapM
      (readResource disk config.maxFileSize) with
  | error cause =>
    rw [read] at collected
    cases collected
  | ok files =>
    rw [read] at collected
    cases collected
    refine ⟨isExact_of_read lists rfl readable read, ?_⟩
    intro path content selects holds
    obtain ⟨file, mem, rfl⟩ := exists_file_of_read lists rfl readable read selects
    obtain ⟨bytes, fileHolds, fits, -⟩ := (exists_of_read lists rfl readable read).2 file mem
    rw [holds] at fileHolds
    cases fileHolds
    exact fits

/-- What is wrong with a project whose files are found is its first resource that is too large. -/
theorem exists_of_collect_eq_error {cause : Failure} (failed : collect disk root config = .error cause) :
    ∃ path size, IsFirstTooLarge disk (filterOf disk root config excluded)
      (sourceRootsOf root.normal config) offered config.maxFileSize path size ∧
        cause = .fileTooLarge path.shown size config.maxFileSize := by
  have lists := lists_filesOf legal walked
  have selected := lists_selectableAmong config offered lists rfl
  have readable := readable_of_mem_filesOf legal walked
  obtain ⟨warnings, outcome⟩ := exists_collect_eq excluding walked offering embedding readable
  rw [outcome] at failed
  cases read : (selectableAmong disk root config offered paths).mapM
      (readResource disk config.maxFileSize) with
  | ok files =>
    rw [read] at failed
    cases failed
  | error found =>
    rw [read] at failed
    obtain rfl := Except.error.inj failed
    obtain ⟨before, path, after, content, split, fine, holds, tooLarge, rfl⟩ :=
      exists_of_mapM_readResource_eq_error (readable_of_mem_selectableAmong readable) read
    have mem : path ∈ selectableAmong disk root config offered paths := by simp [split]
    refine ⟨path, content.size, ⟨(selected.mem_iff path).1 mem, ⟨content, holds, rfl⟩, tooLarge, ?_⟩, rfl⟩
    intro other bytes selects otherHolds otherTooLarge
    have ascending := selected.ascending
    rw [← selected.mem_iff, split] at selects
    rw [split, List.pairwise_append, List.pairwise_cons] at ascending
    rcases List.mem_append.1 selects with earlier | here
    · obtain ⟨file, made⟩ := fine other earlier
      rw [readResource_eq otherHolds, if_pos otherTooLarge] at made
      cases made
    · rcases List.mem_cons.1 here with same | later
      · exact .inl same
      · exact .inr (ascending.2.1.1 other later)

end Parts

/-! ### The order of the entries -/

section Rearranged

variable (same : disk.Rearranges other)

include same

/-- The rules of the ignore file are the same. -/
theorem ignoreRules_rearranged : ignoreRules other = ignoreRules disk := by
  funext root config
  rw [ignoreRules, ignoreRules, same.exists?_eq, same.readFile_eq]

/-- The same paths start a program. -/
theorem isProgramOf_rearranged (sourceRoot path : FilePath) :
    isProgramOf other sourceRoot path = isProgramOf disk sourceRoot path := by
  rw [isProgramOf, isProgramOf, same.isFile_eq]

/-- The same sources are read. -/
theorem readSources_rearranged : readSources other = readSources disk := by
  funext sourceRoots paths
  refine readSources_congr (fun path _ => ?_) fun path _ _ => by rw [same.readFile_eq]
  simp only [sourceModule?, isProgramOf_rearranged same]

/-- The same resources are read. -/
theorem readResource_rearranged : readResource other = readResource disk := by
  funext limit path
  rw [readResource, readResource, same.readFile_eq]

/-- The same ways lead to the same folders. -/
theorem Way.rearranged {start : FilePath} {names : List String} {location : Disk.Location}
    (way : Way disk filter start names location) : Way other filter start names location := by
  induction way with
  | here leads => exact .here (by rw [same.find?_eq, leads])
  | into leads named kept onward ih =>
    refine .into (by rw [same.find?_eq, leads]) (same.mem_namesIn_iff.2 named) ?_ ih
    rw [Filter.skips, same.isFolder_eq, holdsCrate, same.isFile_eq]
    exact kept

/-- Two ways to one folder are two ways there. -/
theorem ReachesTwice.rearranged (twice : ReachesTwice disk filter) : ReachesTwice other filter := by
  obtain ⟨first, second, location, differ, way, again⟩ := twice
  exact ⟨first, second, location, differ, way.rearranged same, again.rearranged same⟩

/-- The same files are found. -/
theorem filesOf_rearranged (legal : disk.Legal) (tree : disk.IsTree)
    (walked : filesOf disk (filterOf disk root config excluded) = .ok paths) :
    filesOf other (filterOf disk root config excluded) = .ok paths := by
  have never : ¬ ReachesTwice other (filterOf disk root config excluded) := by
    intro twice
    exact (filesOf_isOk_iff tree).1 ⟨paths, walked⟩ (twice.rearranged same.symm)
  obtain ⟨otherPaths, otherWalked⟩ := (filesOf_isOk_iff (same.isTree tree)).2 never
  have kinds : disk.SameKinds other (filterOf disk root config excluded).root :=
    ⟨fun _ => by rw [same.exists?_eq], fun _ => by rw [same.isFile_eq], fun _ => by rw [same.isFolder_eq]⟩
  have shape := FilePath.kept_of_wellFormed (FilePath.wellFormed_components root)
  rw [otherWalked, filesOf_eq_of_sameKinds kinds legal (same.legal legal) shape rfl walked otherWalked]

/-- The project is the same, and so is what is wrong with it. -/
theorem collect_rearranged (excluding : excludeRules config.excluded = .ok excluded) (legal : disk.Legal)
    (tree : disk.IsTree) (walked : filesOf disk (filterOf disk root config excluded) = .ok paths) :
    collect other root config = collect disk root config := by
  have otherWalked := filesOf_rearranged same legal tree walked
  rw [filterOf] at walked otherWalked
  simp only [collect, excluding, ignoreRules_rearranged same, walked, otherWalked,
    readSources_rearranged same, readResource_rearranged same, bind, Except.bind]

end Rearranged

/-- When no two ways lead to one folder, a project holds exactly what belongs to it, whatever order folders
list their entries in, unless a resource is too large: the first of those is named. -/
theorem collect_exact (legal : disk.Legal) (tree : disk.IsTree)
    (excluding : excludeRules config.excluded = .ok excluded)
    (offering : config.offered.mapM glob = .ok offered) (embedding : config.embedded.mapM glob = .ok embedded)
    (never : ¬ ReachesTwice disk (filterOf disk root config excluded)) :
    let filter := filterOf disk root config excluded
    let sourceRoots := sourceRootsOf root.normal config
    (∃ paths, filesOf disk filter = .ok paths ∧ Lists paths (IsWalked disk filter)) ∧
    ((∀ path content, IsSelected disk filter sourceRoots offered path →
        disk.readFile path = .ok content → content.size ≤ config.maxFileSize) →
      ∃ project, collect disk root config = .ok project ∧
        IsExact disk filter sourceRoots offered embedded project.value) ∧
    ((∃ path content, IsSelected disk filter sourceRoots offered path ∧
        disk.readFile path = .ok content ∧ config.maxFileSize < content.size) →
      ∃ path size, collect disk root config = .error (.fileTooLarge path.shown size config.maxFileSize) ∧
        IsFirstTooLarge disk filter sourceRoots offered config.maxFileSize path size) ∧
    ∀ other, disk.Rearranges other → collect other root config = collect disk root config := by
  obtain ⟨paths, walked⟩ := (filesOf_isOk_iff tree).2 never
  refine ⟨⟨paths, walked, lists_filesOf legal walked⟩, ?_⟩
  cases collected : collect disk root config with
  | ok project =>
    obtain ⟨exact, fits⟩ := isExact_of_collect excluding walked offering embedding legal collected
    refine ⟨fun _ => ⟨project, rfl, exact⟩, ?_, ?_⟩
    · rintro ⟨path, content, selects, holds, tooLarge⟩
      exact absurd tooLarge (Nat.not_lt.2 (fits path content selects holds))
    · exact fun other same => (collect_rearranged same excluding legal tree walked).trans collected
  | error cause =>
    obtain ⟨path, size, first, rfl⟩ :=
      exists_of_collect_eq_error excluding walked offering embedding legal collected
    refine ⟨?_, fun _ => ⟨path, size, rfl, first⟩, ?_⟩
    · intro fits
      obtain ⟨content, holds, rfl⟩ := first.holds
      exact absurd first.tooLarge (Nat.not_lt.2 (fits path content first.selected holds))
    · exact fun other same => (collect_rearranged same excluding legal tree walked).trans collected

/-- The crate with a larger file and with names that are not text is collected exactly. -/
theorem collect_exact_withUnreadNames :
    ¬ ReachesTwice withUnreadNames (filterOf withUnreadNames ⟨"/crate/"⟩ onlySmallFiles []) ∧
    ∃ project, collect withUnreadNames ⟨"/crate/"⟩ onlySmallFiles = .ok project ∧
      IsExact withUnreadNames (filterOf withUnreadNames ⟨"/crate/"⟩ onlySmallFiles [])
        (sourceRootsOf (⟨"/crate/"⟩ : FilePath).normal onlySmallFiles) [] [] project.value := by
  have legal : withUnreadNames.Legal := ⟨by decide, by decide⟩
  have tree : withUnreadNames.IsTree := by decide
  have found :
      (filesOf withUnreadNames (filterOf withUnreadNames ⟨"/crate/"⟩ onlySmallFiles [])).isOk = true := by
    decide +kernel
  obtain ⟨_, _, read, -⟩ := exists_collect_withUnreadNames
  have never :
      ¬ ReachesTwice withUnreadNames (filterOf withUnreadNames ⟨"/crate/"⟩ onlySmallFiles []) := by
    rw [← filesOf_isOk_iff tree]
    cases walked : filesOf withUnreadNames (filterOf withUnreadNames ⟨"/crate/"⟩ onlySmallFiles []) with
    | ok paths => exact ⟨paths, rfl⟩
    | error cause =>
      rw [walked] at found
      cases found
  obtain ⟨-, collected, refused, -⟩ := collect_exact legal tree rfl rfl rfl never
  refine ⟨never, collected fun path content selects holds => Nat.le_of_not_lt fun tooLarge => ?_⟩
  obtain ⟨_, _, failed, -⟩ := refused ⟨path, content, selects, holds, tooLarge⟩
  rw [failed] at read
  cases read

/-- A crate with a hidden folder whose name is not text, a resource whose name is not text, and a file with a
name that is only the ending of source files. -/
def withOddNames : Disk where
  entries := [(["crate"], .folder), (["src", "crate"], .folder),
    (["lib.rs", "src", "crate"],
      .file "#[embedded_resource_properties]\npub struct Notes;\n".toUTF8),
    ([".rs", "src", "crate"], .file "".toUTF8),
    (["Notes", "src", "crate"], .folder),
    (["a\x00ÿ.txt", "Notes", "src", "crate"], .file "one".toUTF8),
    ([".\x00ÿ", "crate"], .folder), (["b.txt", ".\x00ÿ", "crate"], .file "two".toUTF8)]
  distinct := by decide
  working := []

/-- The file in the hidden folder is walked, the resource is not read although it has the extension, and the
file that is only an ending is no source although there is a module for it. -/
theorem not_exact_withOddNames :
    withOddNames.Legal ∧ withOddNames.IsTree ∧
    ∃ paths project, filesOf withOddNames (filterOf withOddNames ⟨"/crate"⟩ Config.default []) = .ok paths ∧
      collect withOddNames ⟨"/crate"⟩ Config.default = .ok project ∧
      (isPrivateName ".\x00ÿ" = true ∧ "/crate/.\x00ÿ/b.txt" ∈ paths.map FilePath.text) ∧
      ((∃ site ∈ project.value.sources.flatMap SourceFile.sites, ∃ path ∈ paths,
        path.components = (site.searchPath ⟨"/crate"⟩).components ++ [.name "a\x00ÿ.txt"] ∧
          FileName.extension "a\x00ÿ.txt" = site.arguments.extension) ∧ project.value.files.length = 0) ∧
      "/crate/src/.rs" ∈ paths.map FilePath.text ∧
      Declaration.modulePath? ⟨"/crate/src"⟩ ⟨"/crate/src/.rs"⟩ = some [""] ∧
      "/crate/src/.rs" ∉ project.value.sources.map (·.path.text) := by
  have checked : ((filesOf withOddNames
      (filterOf withOddNames ⟨"/crate"⟩ Config.default [])).toOption.any fun paths =>
        (collect withOddNames ⟨"/crate"⟩ Config.default).toOption.any fun project =>
          "/crate/.\x00ÿ/b.txt" ∈ paths.map FilePath.text ∧
          ((∃ site ∈ project.value.sources.flatMap SourceFile.sites, ∃ path ∈ paths,
            path.components = (site.searchPath ⟨"/crate"⟩).components ++ [.name "a\x00ÿ.txt"] ∧
              FileName.extension "a\x00ÿ.txt" = site.arguments.extension) ∧
            project.value.files.length = 0) ∧
          "/crate/src/.rs" ∈ paths.map FilePath.text ∧
          "/crate/src/.rs" ∉ project.value.sources.map (·.path.text)) = true := by
    decide +kernel
  obtain ⟨paths, project, walked, collected, seen⟩ := exists_of_checked checked
  obtain ⟨hidden, unread, found, noSource⟩ := of_decide_eq_true seen
  exact ⟨⟨by decide, by decide⟩, by decide, paths, project, walked, collected, ⟨by decide, hidden⟩,
    unread, found, by decide +kernel, noSource⟩

end Collect

end ResourceAccessors.Project
