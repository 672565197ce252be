import ResourceAccessors.Proofs.Project.Rewalk
import ResourceAccessors.Proofs.Project.Walk

/-!
# What a walk reaches

A walk that succeeds finds exactly the files that are reached from the folder of the crate through folders
that are not passed over. The order in which folders list their entries does not matter for this.
-/

namespace ResourceAccessors

open FilePath (IsEntryName Component)

namespace Project

/-- A file that is reached from a path, directly or through folders, when nothing on the way is passed
over. -/
inductive Reaches (disk : Disk) (filter : Filter) : (start : FilePath) → (found : FilePath) → Prop
  | file {path location content} (kept : filter.skips disk path = false)
      (leads : disk.find? path = some (location, .file content)) : Reaches disk filter path path
  | into {path location name found} (kept : filter.skips disk path = false)
      (leads : disk.find? path = some (location, .folder)) (named : name ∈ disk.namesIn location)
      (onward : Reaches disk filter (path.child name) found) : Reaches disk filter path found

/-- A file that is reached from the folder of the crate. -/
def Reached (disk : Disk) (filter : Filter) (found : FilePath) : Prop :=
  ∃ location name, disk.find? filter.root = some (location, .folder) ∧
    name ∈ disk.namesIn location ∧ Reaches disk filter (filter.root.child name) found

section Reaches

variable {disk : Disk} {filter : Filter} {start found path : FilePath} {name : String}

/-- What starts a way leads somewhere. -/
theorem Reaches.exists? (reaches : Reaches disk filter start found) : disk.exists? start = true := by
  rw [Disk.exists?]
  cases reaches with
  | file kept leads => rw [leads]; rfl
  | into kept leads named onward => rw [leads]; rfl

/-- A path with a name at its end that leads somewhere goes through a folder that lists the name. -/
theorem exists_listed_of_exists_child (legal : IsEntryName name)
    (leads : disk.exists? (path.child name) = true) :
    ∃ folder, disk.Opens path folder ∧ name ∈ disk.namesIn folder := by
  obtain ⟨⟨location, entry⟩, found⟩ := Option.isSome_iff_exists.1 leads
  obtain ⟨folder, opens, -, link | rfl⟩ := Disk.exists_opens_of_find?_child legal found
  · obtain ⟨target, -, stands, -⟩ := link
    exact ⟨folder, opens, Disk.mem_namesIn_iff.2 (by rw [stands]; rfl)⟩
  · refine ⟨folder, opens, Disk.mem_namesIn_iff.2 ?_⟩
    rw [(Disk.find?_eq_some_iff.1 found).2]
    rfl

/-- A way goes on from a folder to what has a name in it. -/
theorem Reaches.enter (onward : Reaches disk filter (path.child name) found)
    (legal : IsEntryName name) (kept : filter.skips disk path = false)
    (folder : disk.isFolder path = true) : Reaches disk filter path found := by
  obtain ⟨location, opens, named⟩ := exists_listed_of_exists_child legal onward.exists?
  obtain ⟨place, leads⟩ := Disk.leadsTo_of_isFolder folder
  exact .into kept (opens.find? leads.written) named onward

end Reaches

/-! ### The walk -/

section Walk

variable {disk : Disk} {filter : Filter} {kept : List Component} {path : FilePath}

/-- What is reached from the first of some paths or from the others. -/
theorem exists_reaches_cons {first : FilePath} {pending : List FilePath} {holds : FilePath → Prop} :
    (∃ start ∈ first :: pending, ∃ reached, Reaches disk filter start reached ∧ holds reached) ↔
      (∃ reached, Reaches disk filter first reached ∧ holds reached) ∨
        ∃ start ∈ pending, ∃ reached, Reaches disk filter start reached ∧ holds reached := by
  simp

/-- What is reached from a folder is reached from its entries. -/
theorem exists_reaches_folder {folder : FilePath} {location : Disk.Location}
    {holds : FilePath → Prop} (kept : filter.skips disk folder = false)
    (leads : disk.find? folder = some (location, .folder)) :
    (∃ reached, Reaches disk filter folder reached ∧ holds reached) ↔
      ∃ start ∈ (disk.namesIn location).map folder.child,
        ∃ reached, Reaches disk filter start reached ∧ holds reached := by
  constructor
  · rintro ⟨reached, reaches, held⟩
    cases reaches with
    | file _ file =>
      rw [leads] at file
      cases file
    | into _ found named onward =>
      rw [leads] at found
      cases found
      exact ⟨_, List.mem_map_of_mem named, reached, onward, held⟩
  · rintro ⟨start, mem, reached, onward, held⟩
    obtain ⟨name, named, rfl⟩ := List.mem_map.1 mem
    exact ⟨reached, .into kept leads named onward, held⟩

/-- Nothing is reached from a path that is passed over, or that leads neither to a file nor to a
folder. -/
theorem not_exists_reaches {first : FilePath} {holds : FilePath → Prop}
    (barred : filter.skips disk first = false → ∀ location entry,
      disk.find? first = some (location, entry) → ∃ target, entry = .link target) :
    ¬ ∃ reached, Reaches disk filter first reached ∧ holds reached := by
  rintro ⟨reached, reaches, -⟩
  cases reaches with
  | file kept leads =>
    obtain ⟨target, absurd⟩ := barred kept _ _ leads
    cases absurd
  | into kept leads named onward =>
    obtain ⟨target, absurd⟩ := barred kept _ _ leads
    cases absurd

/-- A walk that succeeds finds the normal forms of what is reached from its paths. -/
theorem mem_walk_iff {unvisited : List Disk.Location} {pending found : List FilePath}
    (walked : walk disk filter unvisited pending = .ok found) : path ∈ found ↔
      ∃ start ∈ pending, ∃ reached, Reaches disk filter start reached ∧ path = reached.normal := by
  fun_induction walk disk filter unvisited pending generalizing found with
  | case1 unvisited =>
    cases walked
    simp
  | case2 unvisited first pending skipped ih =>
    rw [ih walked, exists_reaches_cons, or_iff_right (not_exists_reaches ?_)]
    intro kept
    rw [skipped] at kept
    cases kept
  | case3 unvisited first pending kept location content leads ih =>
    obtain ⟨others, walkedRest, whole⟩ := Generation.Step.exists_of_bind_eq_ok walked
    cases whole
    rw [List.mem_cons, ih walkedRest, exists_reaches_cons]
    refine or_congr_left ⟨fun here => ⟨first, .file (by simpa using kept) leads, here⟩, ?_⟩
    rintro ⟨reached, reaches, rfl⟩
    cases reaches with
    | file => rfl
    | into _ folder =>
      rw [leads] at folder
      cases folder
  | case4 unvisited first pending kept location leads member ih =>
    rw [ih walked, exists_reaches_cons, exists_reaches_folder (by simpa using kept) leads]
    simp only [List.mem_append, or_and_right, exists_or]
  | case5 => cases walked
  | case6 unvisited first pending kept notFile notFolder ih =>
    rw [ih walked, exists_reaches_cons, or_iff_right (not_exists_reaches ?_)]
    intro _ location entry leads
    cases entry with
    | file content => exact absurd leads (notFile _ _)
    | folder => exact absurd leads (notFolder _)
    | link target => exact ⟨target, rfl⟩

/-- What is reached from below a normal folder lies below it. -/
theorem Reaches.isBelow {start found : FilePath} (reaches : Reaches disk filter start found)
    (legal : disk.Legal) (shape : FilePath.Kept kept) (below : start.IsBelow kept.reverse) :
    found.IsBelow kept.reverse := by
  induction reaches with
  | file _ _ => exact below
  | into _ _ named _ ih => exact ih (below.child shape (legal.namesIn named))

/-- A file that is reached from a normal folder lies below it. -/
theorem Reached.isBelow (reached : Reached disk filter path) (legal : disk.Legal)
    (shape : FilePath.Kept kept) (top : filter.root = FilePath.ofComponents kept.reverse) :
    path.IsBelow kept.reverse := by
  obtain ⟨location, name, -, named, reaches⟩ := reached
  apply reaches.isBelow legal shape
  rw [top]
  exact shape.isBelow_child (legal.namesIn named)

/-- The files of a crate are those that are reached from its folder. -/
theorem mem_filesOf_iff (legal : disk.Legal) (shape : FilePath.Kept kept)
    (top : filter.root = FilePath.ofComponents kept.reverse) {paths : List FilePath}
    (collected : filesOf disk filter = .ok paths) : path ∈ paths ↔ Reached disk filter path := by
  rw [filesOf] at collected
  split at collected
  next location leads =>
    obtain ⟨found, walked, whole⟩ := Generation.Step.exists_of_bind_eq_ok collected
    cases whole
    have start : ∀ path ∈ (disk.namesIn location).map filter.root.child,
        path.IsBelow kept.reverse := by
      intro path mem
      obtain ⟨name, named, rfl⟩ := List.mem_map.1 mem
      rw [top]
      exact shape.isBelow_child (legal.namesIn named)
    have plains : ∀ path ∈ found, path.plain = path := fun path mem =>
      FilePath.plain_of_normal ((isBelow_of_mem_walk legal shape walked start path mem).1.normal_eq shape)
    rw [FilePath.mem_ascending_iff plains, mem_walk_iff walked]
    constructor
    · rintro ⟨start', mem, reached, reaches, rfl⟩
      rw [(reaches.isBelow legal shape (start _ mem)).normal_eq shape]
      obtain ⟨name, named, rfl⟩ := List.mem_map.1 mem
      exact ⟨location, name, leads, named, reaches⟩
    · intro reached
      have normal := (reached.isBelow legal shape top).normal_eq shape
      obtain ⟨place, name, found, named, reaches⟩ := reached
      rw [leads] at found
      cases found
      exact ⟨_, List.mem_map_of_mem named, path, reaches, normal.symm⟩
  next notFolder =>
    cases collected
    constructor
    · intro absurd
      cases absurd
    · rintro ⟨location, name, leads, -⟩
      exact absurd leads (notFolder location)

/-- The files of a crate are in strictly ascending order. -/
theorem pairwise_filesOf {paths : List FilePath} (collected : filesOf disk filter = .ok paths) :
    paths.Pairwise fun left right => compare left right = .lt := by
  rw [filesOf] at collected
  split at collected
  next =>
    obtain ⟨found, -, whole⟩ := Generation.Step.exists_of_bind_eq_ok collected
    cases whole
    exact FilePath.pairwise_ascending found
  next =>
    cases collected
    exact .nil

end Walk

end Project

end ResourceAccessors
