import Mathlib.Data.List.Induction
import ResourceAccessors.Proofs.Disk.Around
import ResourceAccessors.Proofs.FilePath.Below
import ResourceAccessors.Proofs.FilePath.FileName

/-!
# Front parts of paths

A path that leads somewhere leads through folders: each of its front parts leads to one. The paths that
start with the components of an anchored folder are those at and below it.
-/

namespace ResourceAccessors

open FilePath (IsEntryName Component)

namespace FilePath

/-- A path with components has a text. -/
theorem text_ne_of_components_ne {path : FilePath} (some : path.components ≠ []) : path.text ≠ "" := by
  intro empty
  apply some
  rw [components, isAbsolute, empty]
  rfl

/-- A path in its shortest spelling that has a text has components. -/
theorem components_ne_of_text_ne {path : FilePath} (plain : path.plain = path) (written : path.text ≠ "") :
    path.components ≠ [] := by
  intro none
  apply written
  rw [← plain, FilePath.plain, none]
  rfl

/-- The entry of a path at some names below an anchored folder is at one more name. -/
theorem IsAnchored.child_below {folder : FilePath} (anchored : folder.IsAnchored)
    {steps : List Component} (names : ∀ name ∈ steps, name.IsName) {name : String}
    (legal : IsEntryName name) :
    (folder.below steps).child name = folder.below (steps ++ [.name name]) := by
  rw [below, below, child_ofComponents (wellFormed_below anchored names) legal, List.append_assoc]

/-- The paths at and below an anchored folder are those at some names below it. -/
theorem IsAnchored.inside_iff {folder path : FilePath} (anchored : folder.IsAnchored) :
    folder.Inside path ↔ path.IsWithin folder := by
  constructor
  · intro inside
    induction inside with
    | here => exact ⟨[], by simp, anchored.below_nil.symm⟩
    | child inside legal ih =>
      obtain ⟨steps, names, rfl⟩ := ih
      refine ⟨_, ?_, anchored.child_below names legal⟩
      intro name mem
      rcases List.mem_append.1 mem with old | new
      · exact names name old
      · rw [List.mem_singleton.1 new]
        exact legal
  · rintro ⟨steps, names, rfl⟩
    induction steps using List.reverseRecOn with
    | nil =>
      rw [anchored.below_nil]
      exact .here
    | append_singleton before last ih =>
      have front : ∀ name ∈ before, name.IsName :=
        fun name mem => names name (List.mem_append_left _ mem)
      have isName := names last (by simp)
      cases last with
      | name text =>
        rw [← anchored.child_below front isName]
        exact .child (ih front) isName
      | _ => cases isName

/-- The paths at and below an anchored folder are written as their own normal forms. -/
theorem IsAnchored.normal_of_inside {folder path : FilePath} (anchored : folder.IsAnchored)
    (inside : folder.Inside path) : path.normal = path := by
  obtain ⟨steps, names, rfl⟩ := anchored.inside_iff.1 inside
  exact normal_below anchored names

/-- The paths at and below an anchored folder start with its components. -/
theorem IsAnchored.prefix_of_inside {folder path : FilePath} (anchored : folder.IsAnchored)
    (inside : folder.Inside path) : folder.components <+: path.components := by
  obtain ⟨steps, names, rfl⟩ := anchored.inside_iff.1 inside
  rw [components_below anchored names]
  exact List.prefix_append _ _

/-- The parent of a path at or below an anchored folder has components. -/
theorem IsAnchored.parent_components_ne {folder path parent : FilePath} (anchored : folder.IsAnchored)
    (inside : folder.Inside path) (found : path.parent? = some parent) : parent.components ≠ [] := by
  intro none
  obtain ⟨last, notRoot, components⟩ := exists_last_of_parent? found
  obtain ⟨names, folderComponents, -⟩ := anchored.components_eq
  have front := anchored.prefix_of_inside inside
  rw [components, none, folderComponents, List.nil_append] at front
  exact notRoot (List.cons_prefix_cons.1 front).1.symm

/-- A normal path that starts with the components of an anchored folder is at or below it. -/
theorem IsAnchored.inside_of_prefix {folder path : FilePath} (anchored : folder.IsAnchored)
    (normal : path.normal = path) (front : folder.components <+: path.components) :
    folder.Inside path := by
  cases apart : path == folder with
  | true =>
    rw [beq_iff_plain, plain_of_normal normal, plain_of_normal anchored.normal] at apart
    rw [apart]
    exact .here
  | false =>
    obtain ⟨steps, last, names, rfl⟩ := LiesBelow.exists_steps ⟨normal, front, apart⟩ anchored
    exact anchored.inside_iff.2 ⟨_, names, rfl⟩

end FilePath

namespace Disk

variable {disk : Disk} {path : FilePath}

/-- A path that leads somewhere goes through the folder that each front part of it leads to. -/
theorem exists_leadsTo_of_append {taken rest : List Component}
    (components : path.components = taken ++ rest) (some : taken ≠ []) (more : rest ≠ [])
    (leads : disk.exists? path = true) :
    ∃ folder, disk.LeadsTo (.ofComponents taken) folder := by
  obtain ⟨⟨location, entry⟩, found⟩ := Option.isSome_iff_exists.1 leads
  have wellFormed : FilePath.WellFormed taken :=
    (FilePath.wellFormed_components path).front ⟨rest, components.symm⟩
  have taken' := FilePath.components_ofComponents wellFormed
  have noRoot := root_not_mem_tail_steps path
  have followed := (find?_eq_some_iff.1 found).1
  rw [resolve, resolveFrom] at followed
  split at followed
  next => cases followed
  next written =>
    rw [FilePath.steps, components, List.append_assoc] at followed noRoot
    obtain ⟨left, middle, way, onward⟩ := exists_leads_of_follow_append followed (by simp [more]) noRoot
    refine ⟨middle, FilePath.text_ne_of_components_ne (by rw [taken']; exact some), ⟨left, ?_⟩, ?_⟩
    · rw [taken']
      exact way
    -- whatever comes next, it starts from a folder
    obtain ⟨first, others, rfl⟩ := List.exists_cons_of_ne_nil more
    rw [List.cons_append] at onward
    apply isFolderAt_iff.1
    by_contra notFolder
    have closed : disk.isFolderAt middle = false := by simpa using notFolder
    cases first with
    | root =>
      apply noRoot
      obtain ⟨front, before, rfl⟩ := List.exists_cons_of_ne_nil some
      simp
    | current => simp [follow, closed] at onward
    | parent => simp [follow, closed] at onward
    | name text => simp [follow, closed] at onward

/-- Each front part of a path that leads to a folder leads to one. -/
theorem LeadsTo.exists_of_prefix {folder : Location} {taken : List Component}
    (leads : disk.LeadsTo path folder) (plain : path.plain = path) (front : taken <+: path.components)
    (some : taken ≠ []) : ∃ above, disk.LeadsTo (.ofComponents taken) above := by
  obtain ⟨rest, components⟩ := front
  by_cases more : rest = []
  · rw [more, List.append_nil] at components
    rw [components, ← FilePath.plain, plain]
    exact ⟨folder, leads⟩
  · apply exists_leadsTo_of_append components.symm some more
    rw [exists?, leads.opens.find? leads.written]
    rfl

/-- Each front part of a path that leads somewhere does. -/
theorem exists?_of_prefix {taken : List Component} (front : taken <+: path.components)
    (some : taken ≠ []) (plain : path.plain = path) (leads : disk.exists? path = true) :
    disk.exists? (.ofComponents taken) = true := by
  obtain ⟨rest, components⟩ := front
  by_cases more : rest = []
  · rw [more, List.append_nil] at components
    rw [components, ← FilePath.plain, plain]
    exact leads
  · obtain ⟨folder, found⟩ := exists_leadsTo_of_append components.symm some more leads
    rw [exists?, found.opens.find? found.written]
    rfl

end Disk

end ResourceAccessors
