import ResourceAccessors.Project.Files
import ResourceAccessors.Proofs.Declaration.Names
import ResourceAccessors.Proofs.Project.Prefilter
import ResourceAccessors.Proofs.Project.Walk

/-!
# The sources of a crate and the parts of a project

A source file that is found in a crate lies below one of the source folders, and the names on the way
to it are those of its module. None of them holds a slash, and so neither does what its declarations
are shown as.

A project is collected from the files that were walked, the globs of its configuration, its
sources, and the resources that its declarations may select.
-/

namespace ResourceAccessors

open Syntax (Plain)

/-! ### Roots -/

namespace FilePath

/-- A root is never taken back. -/
theorem root_mem_foldOnto {kept : List Component} (component : Component)
    (rooted : Component.root ∈ kept) : Component.root ∈ component.foldOnto kept := by
  cases component with
  | root => exact List.mem_cons_self
  | current => exact rooted
  | name text => exact List.mem_cons_of_mem _ rooted
  | parent =>
    cases kept with
    | nil => cases rooted
    | cons last before =>
      cases last with
      | name text => exact (List.mem_cons.1 rooted).resolve_left (by simp)
      | root => exact List.mem_cons_self
      | current => exact List.mem_cons_of_mem _ rooted
      | parent => exact List.mem_cons_of_mem _ rooted

/-- A root is not folded away. -/
theorem root_mem_foldl {kept : List Component} (components : List Component)
    (rooted : Component.root ∈ kept) :
    Component.root ∈ components.foldl Component.foldOnto kept := by
  induction components generalizing kept with
  | nil => exact rooted
  | cons first rest ih => exact ih (root_mem_foldOnto first rooted)

/-- A path that starts at the root is normally written from the root. -/
theorem root_mem_normalComponents_of_isAbsolute {path : FilePath}
    (absolute : path.isAbsolute = true) : Component.root ∈ path.normalComponents := by
  have start : ∃ rest, path.components = .root :: rest := by
    rw [components, absolute]
    exact ⟨_, rfl⟩
  obtain ⟨rest, components⟩ := start
  rw [normalComponents, components, List.mem_reverse]
  exact root_mem_foldl rest List.mem_cons_self

/-- What is joined to a path from the root is a path from the root. -/
theorem root_mem_normalComponents_join {base : FilePath}
    (rooted : Component.root ∈ base.normalComponents) (added : FilePath) :
    Component.root ∈ (base.join added).normalComponents := by
  by_cases absolute : added.isAbsolute = true
  · rw [join, if_pos absolute]
    exact root_mem_normalComponents_of_isAbsolute absolute
  · rw [normalComponents, List.mem_reverse, foldl_components_join (by simpa using absolute)]
    rw [normalComponents, List.mem_reverse] at rooted
    exact root_mem_foldl _ rooted

/-- A path below a normal folder starts at the root only when the folder does. -/
theorem IsBelow.root_mem {kept : List Component} {path : FilePath}
    (below : path.IsBelow kept.reverse) (shape : Kept kept)
    (rooted : Component.root ∈ path.components) : Component.root ∈ kept.reverse := by
  obtain ⟨names, legal, -, rfl⟩ := below
  rw [shape.components_below legal] at rooted
  rcases List.mem_append.1 rooted with folder | named
  · exact folder
  · obtain ⟨name, -, absurd⟩ := List.mem_map.1 named
    cases absurd

end FilePath

namespace Project

/-! ### Sources -/

section Sources

variable {disk : Disk} {root : FilePath} {config : Config}

/-- Every source is one of the given files, with the module that it defines. -/
theorem sourceModule?_of_mem_readSources {sourceRoots paths : List FilePath}
    {sources : Warned (List Generation.SourceFile)}
    (read : readSources disk sourceRoots paths = .ok sources) : ∀ source ∈ sources.value,
      source.path ∈ paths ∧ sourceModule? disk sourceRoots source.path = some source.modulePath := by
  have further : ∀ (path : FilePath) {rest : List FilePath} {others : List Generation.SourceFile},
      (∀ source ∈ others, source.path ∈ rest ∧
        sourceModule? disk sourceRoots source.path = some source.modulePath) →
      ∀ source ∈ others, source.path ∈ path :: rest ∧
        sourceModule? disk sourceRoots source.path = some source.modulePath :=
    fun path rest others all source mem => ⟨List.mem_cons_of_mem _ (all source mem).1, (all source mem).2⟩
  induction paths generalizing sources with
  | nil =>
    cases read
    intro source mem
    cases mem
  | cons path rest ih =>
    rw [readSources] at read
    split at read
    next => exact further path (ih read)
    next modulePath defined =>
      obtain ⟨file, -, read⟩ := Generation.Step.exists_of_bind_eq_ok read
      obtain ⟨others, readRest, read⟩ := Generation.Step.exists_of_bind_eq_ok read
      have known := further path (ih readRest)
      cases read
      intro source mem
      cases text : file.text with
      | none =>
        rw [text] at mem
        exact known source mem
      | some text' =>
        rw [text] at mem
        rcases List.mem_cons.1 mem with rfl | later
        · exact ⟨List.mem_cons_self, defined⟩
        · exact known source later

/-- The modules of the sources of a crate have plain names. -/
theorem plain_of_mem_modulePath (legal : disk.Legal) {project : Warned Project}
    (collected : collect disk root config = .ok project) :
    ∀ source ∈ project.value.sources, ∀ name ∈ source.modulePath, Plain name := by
  obtain ⟨excluded, -, collected⟩ := Generation.Step.exists_of_bind_eq_ok collected
  obtain ⟨paths, walked, collected⟩ := Generation.Step.exists_of_bind_eq_ok collected
  obtain ⟨offered, -, collected⟩ := Generation.Step.exists_of_bind_eq_ok collected
  obtain ⟨embedded, -, collected⟩ := Generation.Step.exists_of_bind_eq_ok collected
  obtain ⟨sources, read, collected⟩ := Generation.Step.exists_of_bind_eq_ok collected
  obtain ⟨files, -, collected⟩ := Generation.Step.exists_of_bind_eq_ok collected
  cases collected
  intro source mem
  obtain ⟨among, defined⟩ := sourceModule?_of_mem_readSources read source mem
  have shape := FilePath.kept_of_wellFormed (FilePath.wellFormed_components root)
  have below := (isBelow_of_mem_filesOf legal shape rfl walked source.path among).1
  rw [sourceModule?] at defined
  split at defined
  next =>
    obtain ⟨sourceRoot, configured, found⟩ := List.exists_of_findSome?_eq_some defined
    obtain ⟨folder, -, rfl⟩ := List.mem_map.1 configured
    split at found
    next => cases found
    next =>
      apply Declaration.plain_of_mem_modulePath? found
      intro rooted none
      have crate : FilePath.Component.root ∈ root.normal.normalComponents := by
        rw [FilePath.normalComponents, FilePath.components_normal, FilePath.normalComponents,
          shape.foldl_reverse]
        exact below.root_mem shape rooted
      have start := FilePath.root_mem_normalComponents_join crate folder
      rw [FilePath.components_normal] at none
      rw [none] at start
      cases start
  next => cases defined

end Sources

open Pattern (Glob IgnoreRules)

/-! ### The parts of a project -/

/-- The files among some paths that are offered as resources. -/
def candidatesOf (offered : List Glob) (root : FilePath) (paths : List FilePath) : List FilePath :=
  paths.filter fun path => offered.isEmpty || matchesAny offered root path

/-- The parts that a project was collected from. -/
structure Collects (disk : Disk) (root : FilePath) (config : Config) (project : Project)
    (excluded : IgnoreRules) (paths : List FilePath) (offered embedded : List Glob) : Prop where
  excluding : excludeRules config.excluded = .ok excluded
  walked : filesOf disk ⟨root.normal, (ignoreRules disk root.normal config).value, excluded⟩ =
    .ok paths
  offering : config.offered.mapM glob = .ok offered
  embedding : config.embedded.mapM glob = .ok embedded
  sourceRoots : project.sourceRoots = sourceRootsOf root.normal config
  sources : ∃ read, readSources disk (sourceRootsOf root.normal config) paths = .ok read ∧
    read.value = project.sources
  files : ((candidatesOf offered root.normal paths).filter
      (isSelectable root.normal project.sources)).mapM (readResource disk config.maxFileSize) =
    .ok project.files
  embedded : project.embedded = if embedded.isEmpty then none
    else some ((candidatesOf offered root.normal paths).filter (matchesAny embedded root.normal))

/-- A project that is collected has such parts. -/
theorem exists_collects {disk : Disk} {root : FilePath} {config : Config} {project : Warned Project}
    (collected : collect disk root config = .ok project) : ∃ excluded paths offered embedded,
      Collects disk root config project.value excluded paths offered embedded := by
  obtain ⟨excluded, excluding, collected⟩ := Generation.Step.exists_of_bind_eq_ok collected
  obtain ⟨paths, walked, collected⟩ := Generation.Step.exists_of_bind_eq_ok collected
  obtain ⟨offered, offering, collected⟩ := Generation.Step.exists_of_bind_eq_ok collected
  obtain ⟨embedded, embedding, collected⟩ := Generation.Step.exists_of_bind_eq_ok collected
  obtain ⟨sources, read, collected⟩ := Generation.Step.exists_of_bind_eq_ok collected
  obtain ⟨files, filesRead, collected⟩ := Generation.Step.exists_of_bind_eq_ok collected
  cases collected
  exact ⟨excluded, paths, offered, embedded, excluding, walked, offering, embedding, rfl,
    ⟨sources, read, rfl⟩, filesRead, rfl⟩

section Parts

variable {disk : Disk} {root path : FilePath} {config : Config} {project : Project}
  {excluded : IgnoreRules} {paths : List FilePath} {offered embedded : List Glob}

/-- The files that were walked lie below the folder of the crate. -/
theorem Collects.isBelow (collects : Collects disk root config project excluded paths offered embedded)
    (legal : disk.Legal) (mem : path ∈ paths) :
    path.IsBelow root.normalComponents ∧ ∃ content, disk.readFile path = .ok content :=
  isBelow_of_mem_filesOf legal (FilePath.kept_of_wellFormed (FilePath.wellFormed_components root)) rfl
    collects.walked path mem

/-- The files that were walked are written as their own normal forms. -/
theorem Collects.normal (collects : Collects disk root config project excluded paths offered embedded)
    (legal : disk.Legal) (mem : path ∈ paths) : path.normal = path :=
  (collects.isBelow legal mem).1.normal_eq
    (FilePath.kept_of_wellFormed (FilePath.wellFormed_components root))

/-- Each result of a step that succeeds for all items is that of an item. -/
theorem exists_of_mem_mapM {α β ε : Type} {step : α → Except ε β} {items : List α} {results : List β}
    (made : items.mapM step = .ok results) {result : β} (mem : result ∈ results) :
    ∃ item ∈ items, step item = .ok result := by
  induction items generalizing results with
  | nil =>
    cases made
    cases mem
  | cons first rest ih =>
    rw [List.mapM_cons] at made
    obtain ⟨one, here, made⟩ := Generation.Step.exists_of_bind_eq_ok made
    obtain ⟨others, later, made⟩ := Generation.Step.exists_of_bind_eq_ok made
    cases made
    rcases List.mem_cons.1 mem with rfl | among
    · exact ⟨first, List.mem_cons_self, here⟩
    · obtain ⟨item, itemMem, given⟩ := ih later among
      exact ⟨item, List.mem_cons_of_mem _ itemMem, given⟩

/-- A resource is made from a content at its path. -/
theorem exists_make_of_readResource {limit : Nat} {file : Resource.File}
    (read : readResource disk limit path = .ok file) : ∃ text, file = .make path text := by
  obtain ⟨content, -, read⟩ := Generation.Step.exists_of_bind_eq_ok read
  split at read
  next => cases read
  next =>
    cases read
    exact ⟨_, rfl⟩

/-- The resources of a project are walked files. -/
theorem Collects.path_mem (collects : Collects disk root config project excluded paths offered embedded)
    (legal : disk.Legal) {file : Resource.File} (mem : file ∈ project.files) : file.path ∈ paths := by
  obtain ⟨path, pathMem, read⟩ := exists_of_mem_mapM collects.files mem
  have among := List.mem_of_mem_filter (List.mem_of_mem_filter pathMem)
  obtain ⟨text, rfl⟩ := exists_make_of_readResource read
  rw [Resource.File.make, collects.normal legal among]
  exact among

end Parts

/-- A source lies below one of the source folders. -/
theorem exists_append_of_sourceModule? {disk : Disk} {sourceRoots : List FilePath} {path : FilePath}
    {modulePath : List String} (defined : sourceModule? disk sourceRoots path = some modulePath) :
    ∃ sourceRoot ∈ sourceRoots, ∃ rest, rest ≠ [] ∧ path.components = sourceRoot.components ++ rest := by
  rw [sourceModule?] at defined
  split at defined
  next =>
    obtain ⟨sourceRoot, mem, found⟩ := List.exists_of_findSome?_eq_some defined
    refine ⟨sourceRoot, mem, ?_⟩
    split at found
    next => cases found
    next =>
      obtain ⟨relative, below, found⟩ := Option.bind_eq_some_iff.1 found
      rw [FilePath.relativeTo?] at below
      split at below
      next front =>
        obtain ⟨rest, components⟩ := List.isPrefixOf_iff_prefix.1 front
        rw [← components, List.drop_left] at below
        obtain rfl := Option.some.inj below
        refine ⟨rest, ?_, components.symm⟩
        rintro rfl
        cases found
      next => cases below
  next => cases defined

/-- A source starts with the components of one of the source folders. -/
theorem exists_prefix_of_sourceModule? {disk : Disk} {sourceRoots : List FilePath} {path : FilePath}
    {modulePath : List String} (defined : sourceModule? disk sourceRoots path = some modulePath) :
    ∃ sourceRoot ∈ sourceRoots, sourceRoot.components <+: path.components := by
  obtain ⟨sourceRoot, mem, rest, -, components⟩ := exists_append_of_sourceModule? defined
  exact ⟨sourceRoot, mem, rest, components.symm⟩

end Project

end ResourceAccessors
