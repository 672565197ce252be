import Mathlib.Data.List.Basic
import ResourceAccessors.Proofs.FilePath.Join
import ResourceAccessors.Proofs.FilePath.Order

/-!
# Paths below a folder

A normal path below an absolute folder is written as the folder with the names on the way to it. What
is told of such paths in terms of the folder depends on these names only.
-/

namespace ResourceAccessors.FilePath

/-- A component that is the name of an entry. -/
def Component.IsName : Component → Prop
  | .name text => (Component.name text).IsStep
  | _ => False

/-- A name is a step. -/
theorem Component.IsName.isStep {component : Component} (name : component.IsName) :
    component.IsStep := by
  cases component with
  | name text => exact name
  | _ => cases name

/-- A folder that is given by a normal path from the root on. -/
structure IsAnchored (folder : FilePath) : Prop where
  absolute : folder.isAbsolute = true
  normal : folder.normal = folder

/-- The path at some steps below a folder. -/
def below (folder : FilePath) (steps : List Component) : FilePath :=
  ofComponents (folder.components ++ steps)

/-- The path is the folder or lies below it. -/
def IsWithin (path folder : FilePath) : Prop :=
  ∃ names : List Component, (∀ name ∈ names, name.IsName) ∧ path = folder.below names

/-- The path is normal and lies below the folder. -/
structure LiesBelow (path folder : FilePath) : Prop where
  normal : path.normal = path
  inside : folder.components <+: path.components
  apart : (path == folder) = false

/-- A path is normal when its normal form has its text. -/
theorem normal_eq_iff {path : FilePath} : path.normal = path ↔ path.normal.text = path.text :=
  ⟨congrArg FilePath.text, congrArg FilePath.mk⟩

instance (folder : FilePath) : Decidable folder.IsAnchored :=
  decidable_of_iff (folder.isAbsolute = true ∧ folder.normal.text = folder.text)
    ⟨fun ⟨absolute, normal⟩ => ⟨absolute, normal_eq_iff.2 normal⟩,
      fun ⟨absolute, normal⟩ => ⟨absolute, normal_eq_iff.1 normal⟩⟩

instance (path folder : FilePath) : Decidable (path.LiesBelow folder) :=
  decidable_of_iff (path.normal.text = path.text ∧ folder.components <+: path.components ∧
      (path == folder) = false)
    ⟨fun ⟨normal, inside, apart⟩ => ⟨normal_eq_iff.2 normal, inside, apart⟩,
      fun ⟨normal, inside, apart⟩ => ⟨normal_eq_iff.1 normal, inside, apart⟩⟩

/-! ### Anchored folders -/

/-- A path with the root among its components starts at the root. -/
theorem isAbsolute_of_root_mem {path : FilePath} (mem : .root ∈ path.components) :
    path.isAbsolute = true := by
  have never : ∀ parts : List (List Char), Component.root ∉ parts.filterMap Component.ofPiece? := by
    intro parts found
    obtain ⟨piece, -, stands⟩ := List.mem_filterMap.1 found
    rw [Component.ofPiece?] at stands
    split at stands
    · cases stands
    · split at stands <;> cases stands
  by_contra relative
  have notAbsolute : path.isAbsolute = false := by simpa using relative
  simp only [components, notAbsolute] at mem
  split at mem
  · contradiction
  · rcases List.mem_cons.1 mem with same | later
    · cases same
    · exact never _ later
  · exact never _ mem

/-- Folding a step onto names below the root leaves names below the root. -/
theorem exists_names_foldOnto {names : List Component} (all : ∀ name ∈ names, name.IsName)
    {step : Component} (isStep : step.IsStep) :
    ∃ kept : List Component, (∀ name ∈ kept, name.IsName) ∧
      step.foldOnto (names.reverse ++ [.root]) = kept.reverse ++ [.root] := by
  cases step with
  | root => cases isStep
  | current => cases isStep
  | name text =>
    refine ⟨names ++ [.name text], ?_, by simp [Component.foldOnto]⟩
    intro name mem
    rcases List.mem_append.1 mem with old | new
    · exact all name old
    · rw [List.mem_singleton.1 new]
      exact isStep
  | parent =>
    rcases List.eq_nil_or_concat' names with rfl | ⟨before, last, rfl⟩
    · exact ⟨[], by simp, rfl⟩
    · have isName := all last (by simp)
      cases last with
      | name text =>
        exact ⟨before, fun name mem => all name (by simp [mem]), by simp [Component.foldOnto]⟩
      | _ => cases isName

/-- The components of an anchored folder are the root and names. -/
theorem IsAnchored.components_eq {folder : FilePath} (anchored : folder.IsAnchored) :
    ∃ names, folder.components = .root :: names ∧ ∀ name ∈ names, name.IsName := by
  have folded : ∀ (steps names : List Component), (∀ step ∈ steps, step.IsStep) →
      (∀ name ∈ names, name.IsName) → ∃ kept : List Component, (∀ name ∈ kept, name.IsName) ∧
        steps.foldl Component.foldOnto (names.reverse ++ [.root]) = kept.reverse ++ [.root] := by
    intro steps
    induction steps with
    | nil => exact fun names _ all => ⟨names, all, rfl⟩
    | cons first rest inductionHypothesis =>
      intro names isStep all
      obtain ⟨kept, keptNames, same⟩ := exists_names_foldOnto all (isStep first List.mem_cons_self)
      rw [List.foldl_cons, same]
      exact inductionHypothesis kept (fun step mem => isStep step (List.mem_cons_of_mem _ mem))
        keptNames
  have start : ∃ rest, folder.components = .root :: rest := by
    rw [components, anchored.absolute]
    exact ⟨_, rfl⟩
  obtain ⟨rest, split⟩ := start
  have steps : ∀ step ∈ rest, step.IsStep := by
    have wellFormed := wellFormed_components folder
    rw [split] at wellFormed
    cases wellFormed with
    | rooted steps => exact steps
    | relative steps => exact absurd (steps .root List.mem_cons_self) id
  obtain ⟨names, all, same⟩ := folded rest [] steps (by simp)
  refine ⟨names, ?_, all⟩
  rw [← anchored.normal, components_normal, normalComponents, split, List.foldl_cons]
  have whole : rest.foldl Component.foldOnto [.root] = names.reverse ++ [.root] := same
  show (rest.foldl Component.foldOnto [.root]).reverse = _
  rw [whole]
  simp

/-- An anchored folder is the path without steps below it. -/
theorem IsAnchored.below_nil {folder : FilePath} (anchored : folder.IsAnchored) :
    folder.below [] = folder := by
  rw [below, List.append_nil]
  exact plain_of_normal anchored.normal

/-- Folding names keeps them all. -/
theorem foldl_names {names : List Component} (all : ∀ name ∈ names, name.IsName)
    (before : List Component) :
    names.foldl Component.foldOnto before = names.reverse ++ before := by
  induction names generalizing before with
  | nil => rfl
  | cons first rest inductionHypothesis =>
    have isName := all first List.mem_cons_self
    cases first with
    | name text =>
      rw [List.foldl_cons, inductionHypothesis fun name mem =>
        all name (List.mem_cons_of_mem _ mem)]
      simp [Component.foldOnto]
    | _ => cases isName

section Anchored

variable {folder : FilePath} (anchored : folder.IsAnchored) {steps : List Component}
  (names : ∀ name ∈ steps, name.IsName)

include anchored names

/-- The components of a path below a folder are well formed. -/
theorem wellFormed_below : WellFormed (folder.components ++ steps) := by
  obtain ⟨above, split, aboveNames⟩ := anchored.components_eq
  rw [split]
  refine .rooted fun component mem => ?_
  rcases List.mem_append.1 mem with old | new
  · exact (aboveNames component old).isStep
  · exact (names component new).isStep

/-- The components of a path below a folder are those of the folder and the steps. -/
theorem components_below : (folder.below steps).components = folder.components ++ steps :=
  components_ofComponents (wellFormed_below anchored names)

/-- Folding the components of a path below a folder keeps them all. -/
theorem foldl_components_below :
    (folder.below steps).components.foldl Component.foldOnto [] =
      (folder.components ++ steps).reverse := by
  obtain ⟨above, split, aboveNames⟩ := anchored.components_eq
  have all : ∀ name ∈ above ++ steps, name.IsName := by
    intro name mem
    exact (List.mem_append.1 mem).elim (aboveNames name) (names name)
  rw [components_below anchored names, split, List.cons_append, List.foldl_cons]
  show (above ++ steps).foldl Component.foldOnto [.root] = _
  rw [foldl_names all]
  simp

/-- A path below a folder is normal. -/
theorem normal_below : (folder.below steps).normal = folder.below steps := by
  rw [normal, normalComponents, foldl_components_below anchored names, List.reverse_reverse, below]

/-- Seen from the folder, a path below it is the steps. -/
theorem relativeTo?_below : (folder.below steps).relativeTo? folder = some steps := by
  rw [relativeTo?, components_below anchored names, if_pos, List.drop_left]
  exact List.isPrefixOf_iff_prefix.2 (List.prefix_append _ _)

/-- Paths below a folder are equal when the steps are. -/
theorem below_beq_iff {others : List Component} (otherNames : ∀ name ∈ others, name.IsName) :
    (folder.below steps == folder.below others) = true ↔ steps = others := by
  rw [beq_iff_components, components_below anchored names, components_below anchored otherNames,
    List.append_right_inj]

/-- Paths below a folder are in the order of the steps. -/
theorem compare_below {others : List Component} (otherNames : ∀ name ∈ others, name.IsName) :
    compare (folder.below steps) (folder.below others) = List.compareLex compare steps others := by
  have shared : ∀ front : List Component,
      List.compareLex compare (front ++ steps) (front ++ others) =
        List.compareLex compare steps others := by
    intro front
    induction front with
    | nil => rfl
    | cons first rest inductionHypothesis =>
      have same : compare first first = .eq := Std.ReflCmp.compare_self
      rw [List.cons_append, List.cons_append, List.compareLex_cons_cons, same,
        inductionHypothesis]
      rfl
  show List.compareLex compare _ _ = _
  rw [components_below anchored names, components_below anchored otherNames, shared]

end Anchored

section Last

variable {folder : FilePath} (anchored : folder.IsAnchored) {steps : List Component} {last : String}
  (names : ∀ name ∈ steps ++ [.name last], name.IsName)

include anchored names

/-- The parent of a path below a folder. -/
theorem parent?_below :
    (folder.below (steps ++ [.name last])).parent? = some (folder.below steps) := by
  rw [parent?, components_below anchored names, ← List.append_assoc, List.reverse_concat]
  show some (ofComponents (folder.components ++ steps).reverse.reverse) = _
  rw [List.reverse_reverse, below]

/-- The file name of a path below a folder. -/
theorem fileName?_below : (folder.below (steps ++ [.name last])).fileName? = some last := by
  rw [fileName?, components_below anchored names, ← List.append_assoc, List.getLast?_concat]

end Last

/-- The texts of the paths below a folder have one beginning. -/
theorem IsAnchored.exists_stem {folder : FilePath} (anchored : folder.IsAnchored) :
    ∃ stem, ∀ steps : List Component, steps ≠ [] →
      (folder.below steps).text = stem ++ "/" ++ "/".intercalate (steps.map Component.spelling) := by
  obtain ⟨names, split, -⟩ := anchored.components_eq
  by_cases top : names = []
  · refine ⟨"", fun steps _ => ?_⟩
    rw [below, split, top]
    rfl
  · refine ⟨"/" ++ "/".intercalate (names.map Component.spelling), fun steps some => ?_⟩
    rw [below, split]
    show "/" ++ "/".intercalate ((names ++ steps).map Component.spelling) = _
    rw [List.map_append, String.intercalate_append_of_ne_nil (by simpa using top)
      (by simpa using some)]
    simp only [String.append_assoc]

/-! ### Paths below a folder -/

/-- A path below a folder lies at some names below it, the last of which is its own. -/
theorem LiesBelow.exists_steps {path folder : FilePath} (liesBelow : path.LiesBelow folder)
    (anchored : folder.IsAnchored) : ∃ steps last,
      (∀ name ∈ steps ++ [.name last], name.IsName) ∧
        path = folder.below (steps ++ [.name last]) := by
  obtain ⟨above, aboveSplit, -⟩ := anchored.components_eq
  obtain ⟨steps, whole⟩ := liesBelow.inside
  have root : Component.root ∈ path.components := by
    rw [← whole, aboveSplit]
    exact List.mem_cons_self
  have pathAnchored : path.IsAnchored := ⟨isAbsolute_of_root_mem root, liesBelow.normal⟩
  obtain ⟨all, split, names⟩ := pathAnchored.components_eq
  have later : all = above ++ steps := by
    rw [← whole, aboveSplit, List.cons_append, List.cons.injEq] at split
    exact split.2.symm
  have plain : path = folder.below steps := by
    rw [below, whole, ← FilePath.plain, plain_of_normal liesBelow.normal]
  rcases List.eq_nil_or_concat' steps with rfl | ⟨before, last, rfl⟩
  · have same : (path == folder) = true := by
      rw [beq_iff_components, ← whole, List.append_nil]
    rw [liesBelow.apart] at same
    cases same
  · have isName := names last (by simp [later])
    cases last with
    | name text =>
      refine ⟨before, text, fun name mem => names name ?_, plain⟩
      rw [later]
      exact List.mem_append_right _ mem
    | _ => cases isName

end ResourceAccessors.FilePath
