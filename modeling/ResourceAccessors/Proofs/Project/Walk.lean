import ResourceAccessors.Project.Walk
import ResourceAccessors.Proofs.Disk.Folder
import ResourceAccessors.Proofs.Disk.Names
import ResourceAccessors.Proofs.FilePath.Order
import ResourceAccessors.Proofs.Generation.Step

/-!
# What a walk finds

Every path that a walk of a project finds leads from the folder of the crate down through names of
entries. It is written as its own normal form, and the file that it leads to can be read.
-/

namespace ResourceAccessors

open FilePath (IsEntryName Component)

/-- A path that leads from the components of a folder down through names of entries. -/
def FilePath.IsBelow (top : List Component) (path : FilePath) : Prop :=
  ∃ names : List String, (∀ name ∈ names, IsEntryName name) ∧ names ≠ [] ∧
    path = FilePath.ofComponents (top ++ names.map Component.name)

namespace FilePath

section Below

variable {kept : List Component} {path : FilePath} {name : String}

/-- Names on top of what folding keeps have its shape. -/
theorem Kept.append_names (shape : Kept kept) {names : List String}
    (legal : ∀ name ∈ names, IsEntryName name) :
    Kept ((names.map Component.name).reverse ++ kept) := by
  induction names generalizing kept with
  | nil => exact shape
  | cons first rest ih =>
    have step := shape.name (legal first List.mem_cons_self)
    have below := ih step fun name mem => legal name (List.mem_cons_of_mem _ mem)
    simpa using below

/-- The components of a path below a normal folder are those of the folder and the names. -/
theorem Kept.components_below (shape : Kept kept) {names : List String}
    (legal : ∀ name ∈ names, IsEntryName name) :
    (ofComponents (kept.reverse ++ names.map Component.name)).components =
      kept.reverse ++ names.map Component.name := by
  have wellFormed := (shape.append_names legal).wellFormed_reverse
  rw [List.reverse_append, List.reverse_reverse] at wellFormed
  exact components_ofComponents wellFormed

/-- A path below a normal folder is its own normal form. -/
theorem IsBelow.normal_eq (below : IsBelow kept.reverse path) (shape : Kept kept) :
    path.normal = path := by
  obtain ⟨names, legal, -, rfl⟩ := below
  have whole := (shape.append_names legal).foldl_reverse
  rw [List.reverse_append, List.reverse_reverse] at whole
  rw [normal, normalComponents, shape.components_below legal, whole, List.reverse_append,
    List.reverse_reverse]

/-- An entry of the folder is below it. -/
theorem Kept.isBelow_child (shape : Kept kept) (legal : IsEntryName name) :
    IsBelow kept.reverse ((ofComponents kept.reverse).child name) := by
  refine ⟨[name], by simpa using legal, by simp, ?_⟩
  exact child_ofComponents shape.wellFormed_reverse legal

/-- An entry of a folder below is below too. -/
theorem IsBelow.child (below : IsBelow kept.reverse path) (shape : Kept kept)
    (legal : IsEntryName name) : IsBelow kept.reverse (path.child name) := by
  obtain ⟨names, all, -, rfl⟩ := below
  have wellFormed := (shape.append_names all).wellFormed_reverse
  rw [List.reverse_append, List.reverse_reverse] at wellFormed
  refine ⟨names ++ [name], ?_, by simp, ?_⟩
  · intro other mem
    rcases List.mem_append.1 mem with old | new
    · exact all other old
    · exact List.mem_singleton.1 new ▸ legal
  · rw [child_ofComponents wellFormed legal]
    simp

end Below

end FilePath

namespace Project

section Walk

variable {disk : Disk} {filter : Filter} {kept : List Component}

/-- Walking from paths below a normal folder finds files below it. -/
theorem isBelow_of_mem_walk (legal : disk.Legal) (shape : FilePath.Kept kept)
    {unvisited : List Disk.Location} {pending found : List FilePath}
    (walked : walk disk filter unvisited pending = .ok found)
    (start : ∀ path ∈ pending, path.IsBelow kept.reverse) :
    ∀ path ∈ found, path.IsBelow kept.reverse ∧ ∃ content, disk.readFile path = .ok content := by
  have later : ∀ {first : FilePath} {rest : List FilePath},
      (∀ path ∈ first :: rest, path.IsBelow kept.reverse) →
        ∀ path ∈ rest, path.IsBelow kept.reverse :=
    fun all path mem => all path (List.mem_cons_of_mem _ mem)
  fun_induction walk disk filter unvisited pending generalizing found with
  | case1 unvisited =>
    cases walked
    intro path mem
    cases mem
  | case2 unvisited path pending skipped ih => exact ih walked (later start)
  | case3 unvisited path pending walkedOn location content leads ih =>
    obtain ⟨others, walkedRest, whole⟩ := Generation.Step.exists_of_bind_eq_ok walked
    cases whole
    have below := start path List.mem_cons_self
    intro other mem
    rcases List.mem_cons.1 mem with rfl | among
    · rw [below.normal_eq shape]
      exact ⟨below, content, Disk.readFile_eq_ok_iff.2 ⟨location, leads⟩⟩
    · exact ih walkedRest (later start) other among
  | case4 unvisited path pending walkedOn location leads member ih =>
    apply ih walked
    intro other mem
    rcases List.mem_append.1 mem with inside | outside
    · obtain ⟨name, named, rfl⟩ := List.mem_map.1 inside
      exact (start path List.mem_cons_self).child shape (legal.namesIn named)
    · exact later start other outside
  | case5 => cases walked
  | case6 unvisited path pending walkedOn notFile notFolder ih => exact ih walked (later start)

/-- The files of a crate lie below its folder and can be read. -/
theorem isBelow_of_mem_filesOf (legal : disk.Legal) (shape : FilePath.Kept kept)
    (top : filter.root = FilePath.ofComponents kept.reverse) {paths : List FilePath}
    (collected : filesOf disk filter = .ok paths) :
    ∀ path ∈ paths, path.IsBelow kept.reverse ∧ ∃ content, disk.readFile path = .ok content := by
  rw [filesOf] at collected
  split at collected
  next location leads =>
    obtain ⟨found, walked, whole⟩ := Generation.Step.exists_of_bind_eq_ok collected
    cases whole
    have all := isBelow_of_mem_walk legal shape walked fun path mem => by
      obtain ⟨name, named, rfl⟩ := List.mem_map.1 mem
      rw [top]
      exact shape.isBelow_child (legal.namesIn named)
    exact fun path mem => all path (FilePath.mem_of_mem_ascending mem)
  next =>
    cases collected
    intro path mem
    cases mem

end Walk

end Project

end ResourceAccessors
