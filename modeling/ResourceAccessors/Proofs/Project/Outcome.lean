import ResourceAccessors.Proofs.Project.Sources

/-!
# What collecting a project comes to

Once the files of a crate are found and its patterns are understood, one thing only can be wrong with it: a
resource is too large. The first one that is too large is the one that is named.
-/

namespace ResourceAccessors.Project

open Generation (SourceFile)
open Pattern (Glob IgnoreRules)

/-- A step that is made for some items fails as it does for the first item for which it fails. -/
theorem mapM_eq_error_iff {α β ε : Type} {step : α → Except ε β} {items : List α} {cause : ε} :
    items.mapM step = .error cause ↔ ∃ before item after, items = before ++ item :: after ∧
      (∀ earlier ∈ before, ∃ result, step earlier = .ok result) ∧ step item = .error cause := by
  induction items with
  | nil => simp [pure, Except.pure]
  | cons first rest ih =>
    rw [List.mapM_cons]
    cases made : step first with
    | error found =>
      constructor
      · intro failed
        obtain rfl := Except.error.inj failed
        exact ⟨[], first, rest, rfl, by simp, made⟩
      · rintro ⟨before, item, after, items, fine, failed⟩
        rcases List.cons_eq_append_iff.1 items with ⟨rfl, same⟩ | ⟨others, rfl, rfl⟩
        · cases same
          rw [made] at failed
          rw [Except.error.inj failed]
          rfl
        · obtain ⟨result, absurd⟩ := fine first List.mem_cons_self
          rw [made] at absurd
          cases absurd
    | ok result =>
      have later : (do return result :: (← rest.mapM step)) = Except.error cause ↔
          rest.mapM step = .error cause := by
        cases rest.mapM step with
        | error found => rfl
        | ok others => exact ⟨nofun, nofun⟩
      refine later.trans (ih.trans ?_)
      constructor
      · rintro ⟨before, item, after, rfl, fine, failed⟩
        exact ⟨first :: before, item, after, rfl, List.forall_mem_cons.2 ⟨⟨result, made⟩, fine⟩, failed⟩
      · rintro ⟨before, item, after, items, fine, failed⟩
        rcases List.cons_eq_append_iff.1 items with ⟨rfl, same⟩ | ⟨others, rfl, rfl⟩
        · cases same
          rw [made] at failed
          cases failed
        · exact ⟨others, item, after, rfl, (List.forall_mem_cons.1 fine).2, failed⟩

/-! ### Sources -/

/-- The source at a path: a text that defines a module. -/
def sourceAt? (disk : Disk) (sourceRoots : List FilePath) (path : FilePath) : Option SourceFile := do
  let modulePath ← sourceModule? disk sourceRoots path
  let content ← (disk.readFile path).toOption
  let text ← Text.decode? content
  return ⟨path, modulePath, text⟩

section Outcome

variable {disk : Disk} {root path : FilePath} {config : Config} {sourceRoots paths : List FilePath}

/-- A source is found where the path has a module and the file holds a text. -/
theorem sourceAt?_eq_some_iff {source : SourceFile} : sourceAt? disk sourceRoots path = some source ↔
    source.path = path ∧ sourceModule? disk sourceRoots path = some source.modulePath ∧
      ∃ content, disk.readFile path = .ok content ∧ Text.decode? content = some source.text := by
  simp only [sourceAt?, Option.bind_eq_bind, Option.bind_eq_some_iff, Option.pure_def, Option.some.injEq]
  constructor
  · rintro ⟨modulePath, defined, content, read, text, decoded, rfl⟩
    cases held : disk.readFile path with
    | error cause =>
      rw [held] at read
      cases read
    | ok bytes =>
      rw [held] at read
      cases read
      exact ⟨rfl, defined, content, rfl, decoded⟩
  · rintro ⟨rfl, defined, content, held, decoded⟩
    exact ⟨source.modulePath, defined, content, by rw [held]; rfl, source.text, decoded, rfl⟩

/-- Where files can be read, their sources are. -/
theorem exists_readSources (sourceRoots : List FilePath)
    (readable : ∀ path ∈ paths, ∃ content, disk.readFile path = .ok content) :
    ∃ sources, readSources disk sourceRoots paths = .ok sources ∧
      sources.value = paths.filterMap (sourceAt? disk sourceRoots) := by
  induction paths with
  | nil => exact ⟨pure [], rfl, rfl⟩
  | cons path rest ih =>
    obtain ⟨⟨content, held⟩, later⟩ := List.forall_mem_cons.1 readable
    obtain ⟨sources, read, value⟩ := ih later
    rw [readSources, List.filterMap_cons]
    split
    next none =>
      have noSource : sourceAt? disk sourceRoots path = Option.none := by rw [sourceAt?, none]; rfl
      exact ⟨sources, read, by rw [noSource, value]⟩
    next modulePath defined =>
      have here : readFile disk path = .ok (.ofBytes path content) := by
        rw [readFile, held]
        rfl
      have source : sourceAt? disk sourceRoots path =
          (Text.decode? content).map fun text => ⟨path, modulePath, text⟩ := by
        simp only [sourceAt?, defined, held, Except.toOption, Option.bind_eq_bind, Option.bind_some,
          Option.pure_def, Option.map_eq_bind, Function.comp_def]
      rw [here, read, source]
      refine ⟨_, rfl, ?_⟩
      dsimp only [Resource.File.ofBytes, Resource.File.make]
      cases Text.decode? content with
      | none => exact value
      | some text =>
        rw [← value]
        rfl

/-! ### Resources -/

/-- A resource that can be read is refused when it is too large. -/
theorem readResource_eq {limit : Nat} {content : ByteArray} (held : disk.readFile path = .ok content) :
    readResource disk limit path = if limit < content.size
      then .error (.fileTooLarge path.shown content.size limit) else .ok (.ofBytes path content) := by
  rw [readResource, held]
  rfl

/-- Resources that can be read are refused for the first one that is too large. -/
theorem exists_of_mapM_readResource_eq_error {limit : Nat} {cause : Failure}
    (readable : ∀ path ∈ paths, ∃ content, disk.readFile path = .ok content)
    (failed : paths.mapM (readResource disk limit) = .error cause) :
    ∃ before path after content, paths = before ++ path :: after ∧
      (∀ earlier ∈ before, ∃ file, readResource disk limit earlier = .ok file) ∧
      disk.readFile path = .ok content ∧ limit < content.size ∧
      cause = .fileTooLarge path.shown content.size limit := by
  obtain ⟨before, path, after, split, fine, bad⟩ := mapM_eq_error_iff.1 failed
  obtain ⟨content, held⟩ := readable path (by simp [split])
  rw [readResource_eq held] at bad
  split at bad
  next tooLarge =>
    cases bad
    exact ⟨before, path, after, content, split, fine, held, tooLarge, rfl⟩
  next => cases bad

/-! ### The whole project -/

/-- What decides which entries of a crate are passed over. -/
def filterOf (disk : Disk) (root : FilePath) (config : Config) (excluded : IgnoreRules) : Filter :=
  ⟨root.normal, (ignoreRules disk root.normal config).value, excluded⟩

/-- The sources among the files of a crate. -/
def sourcesAmong (disk : Disk) (root : FilePath) (config : Config) (paths : List FilePath) :
    List SourceFile :=
  paths.filterMap (sourceAt? disk (sourceRootsOf root.normal config))

/-- The files of a crate that a declaration may select. -/
def selectableAmong (disk : Disk) (root : FilePath) (config : Config) (offered : List Glob)
    (paths : List FilePath) : List FilePath :=
  (candidatesOf offered root.normal paths).filter
    (isSelectable root.normal (sourcesAmong disk root config paths))

variable {excluded : IgnoreRules} {offered embedded : List Glob}

/-- What can be read of the walked files can be read of the selectable ones. -/
theorem readable_of_mem_selectableAmong
    (readable : ∀ path ∈ paths, ∃ content, disk.readFile path = .ok content) :
    ∀ path ∈ selectableAmong disk root config offered paths, ∃ content,
      disk.readFile path = .ok content :=
  fun path mem => readable path (List.mem_of_mem_filter (List.mem_of_mem_filter mem))

/-- Once its files are found and its patterns are understood, a project is collected when its resources can
be read. -/
theorem exists_collect_eq (excluding : excludeRules config.excluded = .ok excluded)
    (walked : filesOf disk (filterOf disk root config excluded) = .ok paths)
    (offering : config.offered.mapM glob = .ok offered)
    (embedding : config.embedded.mapM glob = .ok embedded)
    (readable : ∀ path ∈ paths, ∃ content, disk.readFile path = .ok content) :
    ∃ warnings, collect disk root config =
      ((selectableAmong disk root config offered paths).mapM
        (readResource disk config.maxFileSize)).map fun files =>
          ⟨⟨sourceRootsOf root.normal config, sourcesAmong disk root config paths, files,
            if embedded.isEmpty then none
              else some ((candidatesOf offered root.normal paths).filter
                (matchesAny embedded root.normal))⟩, warnings⟩ := by
  obtain ⟨sources, read, value⟩ := exists_readSources (sourceRootsOf root.normal config) readable
  let project (files : List Resource.File) : Warned Project := do
    let _ ← ignoreRules disk root.normal config
    let sources ← sources
    let _ ← selectionsOf root.normal sources
    return ⟨sourceRootsOf root.normal config, sources, files, if embedded.isEmpty then none
      else some ((candidatesOf offered root.normal paths).filter (matchesAny embedded root.normal))⟩
  have collected : collect disk root config =
      ((candidatesOf offered root.normal paths).filter (isSelectable root.normal sources.value)).mapM
        (readResource disk config.maxFileSize) >>= fun files => .ok (project files) := by
    rw [filterOf] at walked
    simp only [collect, excluding, walked, offering, embedding, read, bind, Except.bind]
    rfl
  rw [collected, selectableAmong, sourcesAmong, ← value]
  cases ((candidatesOf offered root.normal paths).filter (isSelectable root.normal sources.value)).mapM
    (readResource disk config.maxFileSize) with
  | error cause => exact ⟨[], rfl⟩
  | ok files => exact ⟨(project files).warnings, rfl⟩

end Outcome

end ResourceAccessors.Project
