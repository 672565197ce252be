import ResourceAccessors.Proofs.Project.Kinds

/-!
# Projects with a new file

A file is created in a project, with the folders on the way to it. Other files may come, go and change as
long as they are no sources and no crate starts with them. When the new file is walked and is no source
itself, the project has the same sources.
-/

namespace ResourceAccessors

open FilePath (IsEntryName Component)

/-- What becomes of a path when a file is created. -/
inductive Disk.Gained (before after : Disk) (sourceRoots : List FilePath) (file path : FilePath) : Prop
  | same (same : after.find? path = before.find? path)
  | folder (none : before.find? path = none) {location}
      (made : after.find? path = some (location, .folder))
  | file (none : before.find? path = none) {location content}
      (created : after.find? path = some (location, .file content))
      (spelled : path.components = file.components)
  /-- A file that is neither the created one nor in a source folder. -/
  | beside (noFolder : before.isFolder path = false) (stays : after.isFolder path = false)
      (apart : ∀ sourceRoot ∈ sourceRoots, ¬ sourceRoot.components <+: path.components)
      (named : path.fileName? ≠ some "Cargo.toml")

/-- What becomes of a path depends on the components of the created file only. -/
theorem Disk.Gained.congr {before after : Disk} {sourceRoots : List FilePath}
    {file other path : FilePath} (gained : before.Gained after sourceRoots file path)
    (same : file.components = other.components) : before.Gained after sourceRoots other path := by
  cases gained with
  | same same => exact .same same
  | folder none made => exact .folder none made
  | file none created spelled => exact .file none created (spelled.trans same)
  | beside noFolder stays apart named => exact .beside noFolder stays apart named

/-- A path that leads somewhere has a text. -/
theorem Disk.text_ne_of_find? {disk : Disk} {path : FilePath} {found : Disk.Location × Disk.Entry}
    (leads : disk.find? path = some found) : path.text ≠ "" := by
  intro empty
  rw [Disk.find?, Disk.resolve, Disk.resolveFrom, empty] at leads
  cases leads

namespace Project

section Gained

variable {before after : Disk} {filter : Filter} {sourceRoots : List FilePath}
  {file start found path : FilePath} {kept : List Component}

/-- Where a crate started one still starts. -/
theorem holdsCrate_of_gained
    (gained : before.Gained after sourceRoots file (path.child "Cargo.toml"))
    (holds : holdsCrate before path = true) : holdsCrate after path = true := by
  obtain ⟨content, read⟩ := Disk.isFile_iff.1 holds
  obtain ⟨location, stood⟩ := Disk.readFile_eq_ok_iff.1 read
  cases gained with
  | same same =>
    rw [holdsCrate, Disk.isFile, same]
    exact holds
  | folder none =>
    rw [stood] at none
    cases none
  | file none =>
    rw [stood] at none
    cases none
  | beside noFolder stays apart named =>
    exact absurd (path.fileName?_child (by decide)) named

/-- A new crate starts with the created file. -/
theorem spelled_of_holdsCrate
    (gained : before.Gained after sourceRoots file (path.child "Cargo.toml"))
    (holds : holdsCrate after path = true) (none : holdsCrate before path = false) :
    (path.child "Cargo.toml").components = file.components := by
  cases gained with
  | same same =>
    rw [holdsCrate, Disk.isFile, same] at holds
    rw [holdsCrate, Disk.isFile, holds] at none
    cases none
  | folder _ made =>
    rw [holdsCrate, Disk.isFile, made] at holds
    cases holds
  | file _ _ spelled => exact spelled
  | beside _ _ _ named => exact absurd (path.fileName?_child (by decide)) named

/-- A folder that was there is the same one. -/
theorem find?_eq_of_isFolder (gained : before.Gained after sourceRoots file path)
    (folder : before.isFolder path = true) : after.find? path = before.find? path := by
  obtain ⟨location, leads⟩ := Disk.leadsTo_of_isFolder folder
  have stood := leads.opens.find? leads.written
  cases gained with
  | same same => exact same
  | folder none =>
    rw [stood] at none
    cases none
  | file none =>
    rw [stood] at none
    cases none
  | beside noFolder =>
    rw [folder] at noFolder
    cases noFolder

/-- A file in a source folder that is not the created one is the same on both disks. -/
theorem find?_eq_of_source (gained : before.Gained after sourceRoots file path)
    (source : ∃ sourceRoot ∈ sourceRoots, sourceRoot.components <+: path.components)
    (differs : path.components ≠ file.components)
    (isFile : before.isFile path = true ∨ after.isFile path = true) :
    after.find? path = before.find? path := by
  cases gained with
  | same same => exact same
  | folder none made =>
    rcases isFile with earlier | later
    · rw [Disk.isFile, none] at earlier
      cases earlier
    · rw [Disk.isFile, made] at later
      cases later
  | file _ _ spelled => exact absurd spelled differs
  | beside _ _ apart =>
    obtain ⟨sourceRoot, mem, front⟩ := source
    exact absurd front (apart sourceRoot mem)

/-! ### What is reached -/

/-- No crate starts in a folder that is not passed over. -/
theorem holdsCrate_eq_false {disk : Disk} (kept : filter.skips disk path = false)
    (folder : disk.isFolder path = true) : holdsCrate disk path = false := by
  rw [Filter.skips, if_pos folder, Bool.or_eq_false_iff] at kept
  exact kept.2

/-- Whether an entry is passed over depends on what its path leads to and on whether a crate starts there. -/
theorem skips_congr {one other : Disk} (same : other.find? path = one.find? path)
    (holds : holdsCrate other path = holdsCrate one path) :
    filter.skips other path = filter.skips one path := by
  rw [Filter.skips, Filter.skips, Disk.isFolder, Disk.isFolder, same, holds]

/-- A file in a source folder is passed over as before. -/
theorem skips_eq_of_source {location : Disk.Location} {content : ByteArray}
    (same : after.find? path = before.find? path)
    (leads : before.find? path = some (location, .file content)) :
    filter.skips after path = filter.skips before path := by
  have notFolder : before.isFolder path = false ∧ after.isFolder path = false := by
    rw [Disk.isFolder, Disk.isFolder, same, leads]
    exact ⟨rfl, rfl⟩
  rw [Filter.skips, Filter.skips, notFolder.1, notFolder.2]
  rfl

section Reaches

variable (gained : ∀ {path}, filter.root.Inside path → before.Gained after sourceRoots file path)
  (source : ∃ sourceRoot ∈ sourceRoots, sourceRoot.components <+: found.components)
  (differs : found.components ≠ file.components)

include gained source differs

/-- A source that is reached afterwards was reached before. -/
theorem Reaches.of_after (reaches : Reaches after filter start found) (legal : after.Legal)
    (inside : filter.root.Inside start) : Reaches before filter start found := by
  induction reaches with
  | @file path location content kept leads =>
    have isFile : after.isFile path = true := by rw [Disk.isFile, leads]
    have same := find?_eq_of_source (gained inside) source differs (.inr isFile)
    have earlier := same.symm.trans leads
    rw [skips_eq_of_source same earlier] at kept
    exact .file kept earlier
  | @into path location name found kept leads named onward ih =>
    have isName := legal.namesIn named
    have onwardBefore := ih source differs (.child inside isName)
    obtain ⟨folder, opens, -⟩ := exists_listed_of_exists_child isName onwardBefore.exists?
    have isFolder : before.isFolder path = true := by
      rw [Disk.isFolder, opens.find? (Disk.text_ne_of_find? leads)]
    have isFolderAfter : after.isFolder path = true := by rw [Disk.isFolder, leads]
    have noCrate := holdsCrate_eq_false kept isFolderAfter
    have noCrateBefore : holdsCrate before path = false := by
      by_contra holds
      rw [Bool.not_eq_false] at holds
      rw [holdsCrate_of_gained (gained (.child inside (by decide))) holds] at noCrate
      cases noCrate
    rw [skips_congr (find?_eq_of_isFolder (gained inside) isFolder)
      (noCrate.trans noCrateBefore.symm)] at kept
    exact onwardBefore.enter isName kept isFolder

/-- A source that was reached is reached afterwards, unless a new crate starts on the way. -/
theorem Reaches.of_before (reaches : Reaches before filter start found) (legal : before.Legal)
    (shape : FilePath.Kept kept) (top : filter.root = FilePath.ofComponents kept.reverse)
    (below : start.IsBelow kept.reverse)
    (entered : ∀ {path}, path.IsBelow kept.reverse →
      (path.child "Cargo.toml").components = file.components → filter.skips after path = false) :
    Reaches after filter start found := by
  have inside : ∀ {path : FilePath}, path.IsBelow kept.reverse → filter.root.Inside path := by
    intro path below
    rw [top]
    exact (below.under shape).inside
  induction reaches with
  | @file path location content kept leads =>
    have isFile : before.isFile path = true := by rw [Disk.isFile, leads]
    have same := find?_eq_of_source (gained (inside below)) source differs (.inl isFile)
    rw [← skips_eq_of_source same leads] at kept
    exact .file kept (same.trans leads)
  | @into path location name found kept leads named onward ih =>
    have isName := legal.namesIn named
    have onwardAfter := ih source differs (below.child shape isName)
    have isFolder : before.isFolder path = true := by rw [Disk.isFolder, leads]
    have same := find?_eq_of_isFolder (gained (inside below)) isFolder
    have isFolderAfter : after.isFolder path = true := by rw [Disk.isFolder, same, leads]
    have noCrate := holdsCrate_eq_false kept isFolder
    have noCrateAfter : holdsCrate after path = false := by
      by_contra holds
      rw [Bool.not_eq_false] at holds
      have spelled :=
        spelled_of_holdsCrate (gained (.child (inside below) (by decide))) holds noCrate
      rw [holdsCrate_eq_false (entered below spelled) isFolderAfter] at holds
      cases holds
    rw [← skips_congr same (noCrateAfter.trans noCrate.symm)] at kept
    exact onwardAfter.enter isName kept isFolderAfter

end Reaches

/-- What is reached from another path is an entry of a folder that is not passed over. -/
theorem Reaches.exists_folder {disk : Disk} (reaches : Reaches disk filter start found)
    (legal : disk.Legal) (shape : FilePath.Kept kept) (below : start.IsBelow kept.reverse) :
    found = start ∨ ∃ folder name, folder.IsBelow kept.reverse ∧ IsEntryName name ∧
      found = folder.child name ∧ filter.skips disk folder = false := by
  induction reaches with
  | file => exact .inl rfl
  | @into path location name found notSkipped leads named onward ih =>
    have isName := legal.namesIn named
    rcases ih (below.child shape isName) with here | deeper
    · exact .inr ⟨path, name, below, isName, here, notSkipped⟩
    · exact .inr deeper

/-- The folder of a file that is reached is not passed over. -/
theorem Reached.skips_folder {disk : Disk} {name : String} (reached : Reached disk filter file)
    (legal : disk.Legal) (shape : FilePath.Kept kept)
    (top : filter.root = FilePath.ofComponents kept.reverse) (below : path.IsBelow kept.reverse)
    (isName : IsEntryName name) (spelled : (path.child name).components = file.components) :
    filter.skips disk path = false := by
  obtain ⟨location, first, -, named, reaches⟩ := reached
  have firstName := legal.namesIn named
  have start : (filter.root.child first).IsBelow kept.reverse := by
    rw [top]
    exact shape.isBelow_child firstName
  obtain ⟨names, legalNames, nonempty, rfl⟩ := below
  have components := shape.components_below legalNames
  rcases reaches.exists_folder legal shape start with rfl | ⟨folder, last, below, lastName, rfl, notSkipped⟩
  · rw [FilePath.components_child _ isName, FilePath.components_child _ firstName, components, top,
      FilePath.components_ofComponents shape.wellFormed_reverse] at spelled
    have short := congrArg List.length (List.append_inj' spelled rfl).1
    rw [List.length_append, List.length_map, Nat.add_eq_left, List.length_eq_zero_iff] at short
    exact absurd short nonempty
  · obtain ⟨others, legalOthers, -, rfl⟩ := below
    rw [FilePath.components_child _ isName, FilePath.components_child _ lastName, components,
      shape.components_below legalOthers] at spelled
    rw [(List.append_inj' spelled rfl).1]
    exact notSkipped

section Reached

variable (gained : ∀ {path}, filter.root.Inside path → before.Gained after sourceRoots file path)
  (source : ∃ sourceRoot ∈ sourceRoots, sourceRoot.components <+: found.components)
  (differs : found.components ≠ file.components)

include gained source differs

/-- What is reached after the addition was reached before. -/
theorem Reached.of_after (reached : Reached after filter found) (legal : after.Legal) :
    Reached before filter found := by
  obtain ⟨location, name, leads, named, reaches⟩ := reached
  have isName := legal.namesIn named
  have onward := reaches.of_after gained source differs legal (.child .here isName)
  obtain ⟨folder, opens, listed⟩ := exists_listed_of_exists_child isName onward.exists?
  exact ⟨folder, name, opens.find? (Disk.text_ne_of_find? leads), listed, onward⟩

/-- A source that was reached is reached when the created file is. -/
theorem Reached.of_before (reached : Reached before filter found) (legal : before.Legal)
    (legalAfter : after.Legal) (shape : FilePath.Kept kept)
    (top : filter.root = FilePath.ofComponents kept.reverse)
    (created : Reached after filter file) : Reached after filter found := by
  obtain ⟨location, name, leads, named, reaches⟩ := reached
  have isName := legal.namesIn named
  have start : (filter.root.child name).IsBelow kept.reverse := by
    rw [top]
    exact shape.isBelow_child isName
  have onward := reaches.of_before gained source differs legal shape top start
    fun below spelled => created.skips_folder legalAfter shape top below (by decide) spelled
  obtain ⟨folder, opens, listed⟩ := exists_listed_of_exists_child isName onward.exists?
  exact ⟨folder, name, opens.find? (Disk.text_ne_of_find? leads), listed, onward⟩

end Reached

/-! ### Sources -/

/-- Only those files matter for the sources that are sources. -/
theorem readSources_filter {disk : Disk} {sourceRoots paths : List FilePath} {keeps : FilePath → Bool}
    (modules : ∀ path ∈ paths, keeps path = false → sourceModule? disk sourceRoots path = none) :
    readSources disk sourceRoots (paths.filter keeps) = readSources disk sourceRoots paths := by
  induction paths with
  | nil => rfl
  | cons path rest ih =>
    obtain ⟨here, later⟩ := List.forall_mem_cons.1 modules
    cases kept : keeps path with
    | true => rw [List.filter_cons_of_pos kept, readSources, readSources, ih later]
    | false =>
      rw [List.filter_cons_of_neg (by rw [kept]; exact Bool.false_ne_true), readSources, here kept,
        ih later]

/-- A library at the top of a source folder is a source. -/
theorem sourceModule?_ne_none_of_library {disk : Disk} {sourceRoots : List FilePath}
    {sourceRoot base : FilePath} (mem : sourceRoot ∈ sourceRoots)
    (same : base.components = sourceRoot.components)
    (spelled : (base.child "lib.rs").components = path.components) :
    sourceModule? disk sourceRoots path ≠ none := by
  have library : IsEntryName "lib.rs" := by decide
  have components : path.components = sourceRoot.components ++ [.name "lib.rs"] := by
    rw [← spelled, base.components_child library, same]
  have name : path.fileName? = some "lib.rs" := by
    rw [FilePath.fileName?, components, List.getLast?_concat]
  have noProgram : isProgramOf disk sourceRoot path = false := by
    have other : (path == sourceRoot.child "main.rs") = false := by
      rw [Bool.eq_false_iff, Ne, FilePath.beq_iff_components, components,
        sourceRoot.components_child (by decide)]
      simp
    rw [isProgramOf, other, Bool.false_and]
  have relative : path.relativeTo? sourceRoot = some [.name "lib.rs"] := by
    rw [FilePath.relativeTo?, components, if_pos (by simp), List.drop_left]
  have module : Declaration.modulePath? sourceRoot path = some [] := by
    rw [Declaration.modulePath?, relative]
    rfl
  rw [sourceModule?, name]
  have source : isSourceName "lib.rs" = true := by decide
  rw [Option.any_some, if_pos source, Ne, List.findSome?_eq_none_iff]
  intro none
  have absurd := none sourceRoot mem
  rw [noProgram, if_neg Bool.false_ne_true, module] at absurd
  cases absurd

/-- The first result among some items is the same when each of them gives the same. -/
theorem findSome?_congr {α β : Type} {items : List α} {one other : α → Option β}
    (same : ∀ item ∈ items, one item = other item) : items.findSome? one = items.findSome? other := by
  induction items with
  | nil => rfl
  | cons first rest ih =>
    obtain ⟨here, later⟩ := List.forall_mem_cons.1 same
    rw [List.findSome?_cons, List.findSome?_cons, here, ih later]

/-- The same paths are sources of the same modules, unless the created file is a source. -/
theorem sourceModule?_eq_of_gained {root : FilePath}
    (gained : ∀ {path}, root.Inside path → before.Gained after sourceRoots file path)
    (noSource : sourceModule? after sourceRoots file = none) (under : root.Under path) :
    sourceModule? after sourceRoots path = sourceModule? before sourceRoots path := by
  have library : IsEntryName "lib.rs" := by decide
  rw [sourceModule?, sourceModule?]
  congr 1
  refine findSome?_congr fun sourceRoot mem => ?_
  rw [isProgramOf_congr under]
  intro base inside same
  cases gained (.child inside library) with
  | same same => rw [Disk.isFile, Disk.isFile, same]
  | folder none made => rw [Disk.isFile, Disk.isFile, none, made]
  | file _ _ spelled =>
    exact absurd noSource (sourceModule?_ne_none_of_library mem same spelled)
  | beside _ _ apart =>
    refine absurd ?_ (apart sourceRoot mem)
    rw [base.components_child library, same]
    exact List.prefix_append _ _

end Gained

section Projects

variable {before after : Disk} {root file : FilePath} {config : Config}
  {project afterProject : Project} {excluded afterExcluded : Pattern.IgnoreRules}
  {paths afterPaths : List FilePath} {offered embedded afterOffered afterEmbedded : List Pattern.Glob}

/-- A project has the same sources after a file was created that is walked and is no source. -/
theorem Collects.sources_eq_of_gained
    (collects : Collects before root config project excluded paths offered embedded)
    (afterCollects : Collects after root config afterProject afterExcluded afterPaths afterOffered
      afterEmbedded)
    (gained : ∀ {path}, root.normal.Inside path →
      before.Gained after (sourceRootsOf root.normal config) file path)
    (legal : before.Legal) (legalAfter : after.Legal)
    (rules : (ignoreRules after root.normal config).value =
      (ignoreRules before root.normal config).value)
    (created : file ∈ afterPaths)
    (noSource : sourceModule? after (sourceRootsOf root.normal config) file = none) :
    afterProject.sources = project.sources := by
  obtain ⟨rfl, -, -⟩ := collects.globs_eq afterCollects
  have shape := FilePath.kept_of_wellFormed (FilePath.wellFormed_components root)
  have walked := collects.walked
  have afterWalked := afterCollects.walked
  rw [rules] at afterWalked
  have reached : ∀ path, path ∈ paths ↔ Reached before _ path := fun _ =>
    mem_filesOf_iff legal shape rfl walked
  have afterReached : ∀ path, path ∈ afterPaths ↔ Reached after _ path := fun _ =>
    mem_filesOf_iff legalAfter shape rfl afterWalked
  let isSource (path : FilePath) : Bool :=
    (sourceModule? after (sourceRootsOf root.normal config) path).isSome
  have normal : ∀ path ∈ paths, path.normal = path := fun path mem => collects.normal legal mem
  have fileNormal := afterCollects.normal legalAfter created
  have modules : ∀ path ∈ paths, sourceModule? after (sourceRootsOf root.normal config) path =
      sourceModule? before (sourceRootsOf root.normal config) path := fun path mem =>
    sourceModule?_eq_of_gained gained noSource ((collects.isBelow legal mem).1.under shape)
  -- a source lies in a source folder, and is not the created file
  have front : ∀ path, isSource path = true → ∃ sourceRoot ∈ sourceRootsOf root.normal config,
      sourceRoot.components <+: path.components := by
    intro path source
    obtain ⟨modulePath, defined⟩ := Option.isSome_iff_exists.1 source
    exact exists_prefix_of_sourceModule? defined
  have differs : ∀ path, path.normal = path → isSource path = true →
      path.components ≠ file.components := by
    intro path normal source spelled
    rw [← FilePath.plain_of_normal normal, FilePath.plain, spelled, ← FilePath.plain,
      FilePath.plain_of_normal fileNormal] at source
    simp [isSource, noSource] at source
  have same : afterPaths.filter isSource = paths.filter isSource := by
    apply FilePath.eq_of_pairwise_of_mem_iff ((pairwise_filesOf afterWalked).filter _)
      ((pairwise_filesOf walked).filter _)
    intro path
    rw [List.mem_filter, List.mem_filter, reached, afterReached, and_congr_left_iff]
    intro source
    constructor
    · intro later
      have normal := (later.isBelow legalAfter shape rfl).normal_eq shape
      exact later.of_after gained (front path source) (differs path normal source) legalAfter
    · intro earlier
      have normal := (earlier.isBelow legal shape rfl).normal_eq shape
      exact earlier.of_before gained (front path source) (differs path normal source) legal legalAfter
        shape rfl ((afterReached file).1 created)
  have read : readSources after (sourceRootsOf root.normal config) afterPaths =
      readSources before (sourceRootsOf root.normal config) paths := by
    have none : ∀ path, isSource path = false →
        sourceModule? after (sourceRootsOf root.normal config) path = none := by
      intro path other
      simpa [isSource] using other
    rw [← readSources_filter fun path _ => none path, same, readSources_filter fun path _ => none path]
    refine readSources_congr modules fun path mem source => ?_
    rw [← modules path mem] at source
    obtain ⟨below, content, held⟩ := collects.isBelow legal mem
    have inside : root.normal.Inside path := (below.under shape).inside
    have unchanged := find?_eq_of_source (gained inside) (front path source)
      (differs path (normal path mem) source) (.inl (Disk.isFile_iff.2 ⟨content, held⟩))
    obtain ⟨location, stood⟩ := Disk.readFile_eq_ok_iff.1 held
    rw [held]
    exact Disk.readFile_eq_ok_iff.2 ⟨location, unchanged.trans stood⟩
  obtain ⟨sources, readBefore, value⟩ := collects.sources
  obtain ⟨afterSources, readAfter, afterValue⟩ := afterCollects.sources
  rw [read, readBefore] at readAfter
  rw [← afterValue, ← value, Except.ok.inj readAfter]

end Projects

end Project

end ResourceAccessors
