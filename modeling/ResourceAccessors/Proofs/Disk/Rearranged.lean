import ResourceAccessors.Proofs.Disk.Around
import ResourceAccessors.Proofs.Disk.Names

/-!
# Disks in another order

Where the entries of a disk are listed in another order, folders list their entries in another order, and
all paths lead to the same.
-/

namespace ResourceAccessors.Disk

/-- Two disks with the same entries, listed in any order. -/
structure Rearranges (one other : Disk) : Prop where
  entries : other.entries.Perm one.entries
  working : other.working = one.working

section Rearranged

variable {one other : Disk}

/-- Listing the same entries in another order goes both ways. -/
theorem Rearranges.symm (same : one.Rearranges other) : other.Rearranges one :=
  ⟨same.entries.symm, same.working.symm⟩

/-- What is among the entries stands at its location. -/
theorem entry?_eq_of_mem {disk : Disk} {location : Location} {entry : Entry} (below : location ≠ [])
    (mem : (location, entry) ∈ disk.entries) : disk.entry? location = some entry := by
  obtain ⟨before, after, entries⟩ := List.append_of_mem mem
  have distinct := disk.distinct
  rw [entries, List.map_append, List.nodup_append] at distinct
  have found : disk.entries.lookup location = some entry := by
    refine List.lookup_eq_some_iff.2 ⟨before, after, entries, ?_⟩
    intro other earlier
    have apart := distinct.2.2 other.1 (List.mem_map_of_mem earlier) location (by simp)
    simpa using Ne.symm apart
  cases location with
  | nil => exact absurd rfl below
  | cons name folder => exact found

/-- The same stands at each location. -/
theorem Rearranges.entry?_eq (same : one.Rearranges other) : other.entry? = one.entry? := by
  have given : ∀ {one other : Disk}, one.Rearranges other → ∀ {location entry},
      one.entry? location = some entry → other.entry? location = some entry := by
    intro one other same location entry stands
    cases location with
    | nil => exact stands
    | cons name folder =>
      have mem := mem_entries_of_stands (by simp) stands
      exact entry?_eq_of_mem (by simp) (same.entries.mem_iff.2 mem)
  funext location
  apply Option.ext
  exact fun entry => ⟨given same.symm, given same⟩

/-- Steps lead to the same location. -/
theorem Rearranges.follow_eq (same : one.Rearranges other) (links : Nat) (here : Location)
    (steps : List FilePath.Component) : other.follow links here steps = one.follow links here steps := by
  have stands := same.entry?_eq
  have folders : other.isFolderAt = one.isFolderAt := by
    funext location
    rw [isFolderAt, isFolderAt, stands]
  fun_induction Disk.follow one links here steps with
  | case1 => rw [Disk.follow]
  | case2 links here rest ih => rw [Disk.follow, ih]
  | case3 links here rest inside ih => rw [Disk.follow, folders, if_pos inside, ih]
  | case4 links here rest outside => rw [Disk.follow, folders, if_neg outside]
  | case5 links here rest inside ih => rw [Disk.follow, folders, if_pos inside, ih]
  | case6 links here rest outside => rw [Disk.follow, folders, if_neg outside]
  | case7 links here name rest outside => rw [Disk.follow, folders, if_pos outside]
  | case8 links here name rest inside long => rw [Disk.follow, folders, if_neg inside, if_pos long]
  | case9 links here name rest inside short none =>
    rw [Disk.follow, folders, if_neg inside, if_neg short, stands, none]
  | case10 here name rest inside short target link =>
    rw [Disk.follow, folders, if_neg inside, if_neg short, stands, link]
    rfl
  | case11 links here name rest inside short target link some empty =>
    rw [Disk.follow, folders, if_neg inside, if_neg short, stands, link]
    dsimp only
    rw [if_neg some, if_pos empty]
  | case12 links here name rest inside short target link some written ih =>
    rw [Disk.follow, folders, if_neg inside, if_neg short, stands, link]
    dsimp only
    rw [if_neg some, if_neg written, ih]
  | case13 links here name rest inside short content file ih =>
    rw [Disk.follow, folders, if_neg inside, if_neg short, stands, file]
    exact ih
  | case14 links here name rest inside short folder ih =>
    rw [Disk.follow, folders, if_neg inside, if_neg short, stands, folder]
    exact ih

/-- Paths lead to the same. -/
theorem Rearranges.resolve_eq (same : one.Rearranges other) : other.resolve = one.resolve := by
  funext path
  rw [resolve, resolve, resolveFrom, resolveFrom, same.working, same.follow_eq]

/-- Every path leads to the same. -/
theorem Rearranges.find?_eq (same : one.Rearranges other) : other.find? = one.find? := by
  funext path
  rw [find?, find?, same.resolve_eq, same.entry?_eq]

/-- Every file reads the same. -/
theorem Rearranges.readFile_eq (same : one.Rearranges other) : other.readFile = one.readFile := by
  funext path
  rw [readFile, readFile, same.resolve_eq, same.entry?_eq]

/-- The same paths lead somewhere. -/
theorem Rearranges.exists?_eq (same : one.Rearranges other) : other.exists? = one.exists? := by
  funext path
  rw [exists?, exists?, same.find?_eq]

/-- The same paths lead to files. -/
theorem Rearranges.isFile_eq (same : one.Rearranges other) : other.isFile = one.isFile := by
  funext path
  rw [isFile, isFile, same.find?_eq]

/-- The same paths lead to folders. -/
theorem Rearranges.isFolder_eq (same : one.Rearranges other) : other.isFolder = one.isFolder := by
  funext path
  rw [isFolder, isFolder, same.find?_eq]

/-- Folders list the same names. -/
theorem Rearranges.mem_namesIn_iff (same : one.Rearranges other) {location : Location} {name : String} :
    name ∈ other.namesIn location ↔ name ∈ one.namesIn location := by
  rw [Disk.mem_namesIn_iff, Disk.mem_namesIn_iff, same.entry?_eq]

/-- A rearranged disk is legal. -/
theorem Rearranges.legal (same : one.Rearranges other) (legal : one.Legal) : other.Legal :=
  ⟨fun entry mem => legal.entries entry (same.entries.mem_iff.1 mem), by
    rw [same.working]
    exact legal.working⟩

/-- A rearranged disk is a tree. -/
theorem Rearranges.isTree (same : one.Rearranges other) (tree : one.IsTree) : other.IsTree := by
  intro found mem
  rw [same.entry?_eq]
  exact tree found (same.entries.mem_iff.1 mem)

end Rearranged

end ResourceAccessors.Disk
