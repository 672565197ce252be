import ResourceAccessors.Proofs.Project.Sources
import ResourceAccessors.Proofs.Project.Reached
import ResourceAccessors.Proofs.Project.Reread

/-!
# Projects with the same tree

Where the same paths lead to files and to folders, a project has the same files, and its sources are the
same when those files have the same content that are read as sources.
-/

namespace ResourceAccessors

open FilePath (IsEntryName Component)

/-- At and below a folder the same paths lead to files and to folders, whatever the files hold. -/
structure Disk.SameKinds (one other : Disk) (root : FilePath) : Prop where
  exists? : ∀ {path}, root.Inside path → other.exists? path = one.exists? path
  isFile : ∀ {path}, root.Inside path → other.isFile path = one.isFile path
  isFolder : ∀ {path}, root.Inside path → other.isFolder path = one.isFolder path

/-- Having the same kinds goes both ways. -/
theorem Disk.SameKinds.symm {one other : Disk} {root : FilePath} (same : one.SameKinds other root) :
    other.SameKinds one root :=
  ⟨fun inside => (same.exists? inside).symm, fun inside => (same.isFile inside).symm,
    fun inside => (same.isFolder inside).symm⟩

namespace Project

section Kinds

variable {one other : Disk} {root start found path : FilePath} {filter : Filter}

/-- The same paths are passed over. -/
theorem skips_eq_of_sameKinds (same : one.SameKinds other root) (inside : root.Inside path) :
    filter.skips other path = filter.skips one path := by
  have crate : holdsCrate other path = holdsCrate one path := same.isFile (.child inside (by decide))
  rw [Filter.skips, Filter.skips, same.isFolder inside, crate]

/-- The same files are reached. -/
theorem Reaches.of_sameKinds (reaches : Reaches one filter start found)
    (same : one.SameKinds other root) (legal : one.Legal) (inside : root.Inside start) :
    Reaches other filter start found := by
  induction reaches with
  | @file path location content kept leads =>
    rw [← skips_eq_of_sameKinds same inside] at kept
    have file : one.isFile path = true := by rw [Disk.isFile, leads]
    rw [← same.isFile inside] at file
    obtain ⟨content, read⟩ := Disk.isFile_iff.1 file
    obtain ⟨location, leads⟩ := Disk.readFile_eq_ok_iff.1 read
    exact .file kept leads
  | @into path location name found kept leads named onward ih =>
    have isName := legal.namesIn named
    rw [← skips_eq_of_sameKinds same inside] at kept
    have folder : one.isFolder path = true := by rw [Disk.isFolder, leads]
    rw [← same.isFolder inside] at folder
    exact (ih (.child inside isName)).enter isName kept folder

/-- The same files are reached from the folder of the crate. -/
theorem Reached.of_sameKinds (reached : Reached one filter found)
    (same : one.SameKinds other filter.root) (legal : one.Legal) : Reached other filter found := by
  obtain ⟨location, name, leads, named, reaches⟩ := reached
  have isName := legal.namesIn named
  have onward := reaches.of_sameKinds same legal (.child .here isName)
  have folder : one.isFolder filter.root = true := by rw [Disk.isFolder, leads]
  rw [← same.isFolder .here] at folder
  obtain ⟨place, leadsTo⟩ := Disk.leadsTo_of_isFolder folder
  obtain ⟨listing, opens, listed⟩ := exists_listed_of_exists_child isName onward.exists?
  exact ⟨listing, name, opens.find? leadsTo.written, listed, onward⟩

/-- The same files are collected. -/
theorem filesOf_eq_of_sameKinds {kept : List Component} (same : one.SameKinds other filter.root)
    (legal : one.Legal) (otherLegal : other.Legal) (shape : FilePath.Kept kept)
    (top : filter.root = FilePath.ofComponents kept.reverse) {paths otherPaths : List FilePath}
    (collected : filesOf one filter = .ok paths)
    (otherCollected : filesOf other filter = .ok otherPaths) : otherPaths = paths := by
  apply FilePath.eq_of_pairwise_of_mem_iff (pairwise_filesOf otherCollected)
    (pairwise_filesOf collected)
  intro path
  rw [mem_filesOf_iff otherLegal shape top otherCollected, mem_filesOf_iff legal shape top collected]
  exact ⟨fun reached => reached.of_sameKinds same.symm otherLegal,
    fun reached => reached.of_sameKinds same legal⟩

/-- The same files are sources. -/
theorem sourceModule?_eq_of_sameKinds (same : one.SameKinds other root) (under : root.Under path)
    (sourceRoots : List FilePath) :
    sourceModule? other sourceRoots path = sourceModule? one sourceRoots path := by
  simp only [sourceModule?,
    isProgramOf_congr under fun inside _ => same.isFile (.child inside (by decide))]

end Kinds

/-! ### Contents -/

section Contents

variable {one other : Disk} {sourceRoots paths : List FilePath}

/-- Sources are the same when those files read the same that are sources. -/
theorem readSources_congr
    (modules : ∀ path ∈ paths, sourceModule? other sourceRoots path = sourceModule? one sourceRoots path)
    (contents : ∀ path ∈ paths, (sourceModule? one sourceRoots path).isSome = true →
      other.readFile path = one.readFile path) :
    readSources other sourceRoots paths = readSources one sourceRoots paths := by
  induction paths with
  | nil => rfl
  | cons path rest ih =>
    obtain ⟨sameModule, restModules⟩ := List.forall_mem_cons.1 modules
    obtain ⟨sameContent, restContents⟩ := List.forall_mem_cons.1 contents
    rw [readSources, readSources, sameModule, ih restModules restContents]
    split
    next => rfl
    next modulePath defined =>
      rw [readFile, readFile, sameContent (by rw [defined]; rfl)]

/-- The resources that pass a test of their paths are the same when those files read the same. -/
theorem filter_files_congr {limit : Nat} {files otherFiles : List Resource.File}
    {passes : FilePath → Bool} (normal : ∀ path ∈ paths, path.normal = path)
    (contents : ∀ path ∈ paths, passes path = true → other.readFile path = one.readFile path)
    (read : paths.mapM (readResource one limit) = .ok files)
    (otherRead : paths.mapM (readResource other limit) = .ok otherFiles) :
    (otherFiles.filter fun file => passes file.path) = files.filter fun file => passes file.path := by
  have placed : ∀ {disk : Disk} {path : FilePath} {file : Resource.File}, path.normal = path →
      readResource disk limit path = .ok file → file.path = path := by
    intro disk path file normal read
    obtain ⟨text, rfl⟩ := exists_make_of_readResource read
    exact normal
  induction paths generalizing files otherFiles with
  | nil =>
    cases read
    cases otherRead
    rfl
  | cons path rest ih =>
    obtain ⟨normalHere, normalRest⟩ := List.forall_mem_cons.1 normal
    obtain ⟨sameHere, sameRest⟩ := List.forall_mem_cons.1 contents
    rw [List.mapM_cons] at read otherRead
    obtain ⟨file, fileRead, read⟩ := Generation.Step.exists_of_bind_eq_ok read
    obtain ⟨others, othersRead, read⟩ := Generation.Step.exists_of_bind_eq_ok read
    obtain ⟨otherFile, otherFileRead, otherRead⟩ := Generation.Step.exists_of_bind_eq_ok otherRead
    obtain ⟨otherOthers, otherOthersRead, otherRead⟩ :=
      Generation.Step.exists_of_bind_eq_ok otherRead
    cases read
    cases otherRead
    have later := ih normalRest sameRest othersRead otherOthersRead
    have here := placed normalHere fileRead
    have otherHere := placed normalHere otherFileRead
    by_cases passing : passes path = true
    · have same : readResource other limit path = readResource one limit path := by
        rw [readResource, readResource, sameHere passing]
      rw [otherFileRead, fileRead] at same
      rw [Except.ok.inj same, List.filter_cons, List.filter_cons, later]
    · rw [List.filter_cons_of_neg (by rw [otherHere]; exact passing),
        List.filter_cons_of_neg (by rw [here]; exact passing), later]

end Contents

/-! ### Projects -/

section Projects

variable {one other : Disk} {root : FilePath} {config : Config} {project otherProject : Project}
  {excluded otherExcluded : Pattern.IgnoreRules} {paths otherPaths : List FilePath}
  {offered embedded otherOffered otherEmbedded : List Pattern.Glob}

/-- The globs of two projects with one configuration are the same. -/
theorem Collects.globs_eq (collects : Collects one root config project excluded paths offered embedded)
    (otherCollects : Collects other root config otherProject otherExcluded otherPaths otherOffered
      otherEmbedded) :
    otherExcluded = excluded ∧ otherOffered = offered ∧ otherEmbedded = embedded :=
  ⟨Except.ok.inj (otherCollects.excluding.symm.trans collects.excluding),
    Except.ok.inj (otherCollects.offering.symm.trans collects.offering),
    Except.ok.inj (otherCollects.embedding.symm.trans collects.embedding)⟩

/-- The same files are walked where the rules of the ignore file are the same. -/
theorem Collects.paths_eq (collects : Collects one root config project excluded paths offered embedded)
    (otherCollects : Collects other root config otherProject otherExcluded otherPaths otherOffered
      otherEmbedded) (kinds : one.SameKinds other root.normal) (legal : one.Legal)
    (otherLegal : other.Legal)
    (rules : (ignoreRules other root.normal config).value = (ignoreRules one root.normal config).value) :
    otherPaths = paths := by
  obtain ⟨rfl, -, -⟩ := collects.globs_eq otherCollects
  have otherWalked := otherCollects.walked
  rw [rules] at otherWalked
  exact filesOf_eq_of_sameKinds kinds legal otherLegal
    (FilePath.kept_of_wellFormed (FilePath.wellFormed_components root)) rfl collects.walked otherWalked

/-- Two projects with the same files have the same sources when these read the same. -/
theorem Collects.sources_eq (collects : Collects one root config project excluded paths offered embedded)
    (otherCollects : Collects other root config otherProject otherExcluded paths otherOffered
      otherEmbedded) (kinds : one.SameKinds other root.normal) (legal : one.Legal)
    (contents : ∀ path ∈ paths,
      (sourceModule? one (sourceRootsOf root.normal config) path).isSome = true →
        other.readFile path = one.readFile path) : otherProject.sources = project.sources := by
  have shape := FilePath.kept_of_wellFormed (FilePath.wellFormed_components root)
  obtain ⟨read, readSources, value⟩ := collects.sources
  obtain ⟨otherRead, otherReadSources, otherValue⟩ := otherCollects.sources
  rw [readSources_congr (fun path mem => sourceModule?_eq_of_sameKinds kinds
    ((collects.isBelow legal mem).1.under shape) _) contents, readSources] at otherReadSources
  rw [← otherValue, ← value, Except.ok.inj otherReadSources]

end Projects

end Project

end ResourceAccessors
