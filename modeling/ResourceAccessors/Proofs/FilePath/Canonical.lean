import ResourceAccessors.Proofs.FilePath.Below

/-!
# The shape of normal paths

A path is its own normal form exactly when no `.` is among its components and every `..` stands in
front of all else. The normal form of a path starts at the root exactly when the path does, and below
a path the normal form can be taken before or after joining.
-/

namespace ResourceAccessors.FilePath

/-- No `.` is among the components, and what stands behind the leading `..` is no `..`. -/
structure IsCanonical (path : FilePath) : Prop where
  noDot : .current ∉ path.components
  leading : ∃ climbs rest, path.components = List.replicate climbs .parent ++ rest ∧ .parent ∉ rest

/-- The one canonical form of a path: it starts at the root exactly when the path does, and holds
`..` only when the path does not. -/
structure IsCanonicalFor (form path : FilePath) : Prop where
  canonical : form.IsCanonical
  relative : .parent ∈ form.components → path.isAbsolute = false
  absolute : form.isAbsolute = path.isAbsolute
  fixed : form.normal = form

/-! ### The root -/

/-- A path starts at the root exactly when the root is among its components. -/
theorem isAbsolute_iff_root_mem {path : FilePath} :
    path.isAbsolute = true ↔ .root ∈ path.components := by
  refine ⟨fun absolute => ?_, isAbsolute_of_root_mem⟩
  rw [components, absolute]
  exact List.mem_cons_self

/-- One more component neither brings nor takes the root, unless it is the root. -/
theorem root_mem_foldOnto_iff {kept : List Component} {component : Component} :
    .root ∈ component.foldOnto kept ↔ .root ∈ kept ∨ component = .root := by
  cases component with
  | root => simp [Component.foldOnto]
  | current => simp [Component.foldOnto]
  | name text => simp [Component.foldOnto]
  | parent =>
    cases kept with
    | nil => simp [Component.foldOnto]
    | cons last before => cases last <;> simp [Component.foldOnto]

/-- Folding keeps the root. -/
theorem root_mem_foldl_iff {steps kept : List Component} :
    .root ∈ steps.foldl Component.foldOnto kept ↔ .root ∈ kept ∨ .root ∈ steps := by
  induction steps generalizing kept with
  | nil => simp
  | cons first rest inductionHypothesis =>
    rw [List.foldl_cons, inductionHypothesis, root_mem_foldOnto_iff, List.mem_cons, or_assoc,
      eq_comm]

/-- The normal form starts at the root exactly when the path does. -/
@[simp]
theorem isAbsolute_normal (path : FilePath) : path.normal.isAbsolute = path.isAbsolute := by
  rw [Bool.eq_iff_iff, isAbsolute_iff_root_mem, isAbsolute_iff_root_mem, components_normal,
    normalComponents, List.mem_reverse, root_mem_foldl_iff]
  simp

/-! ### Leading `..` -/

/-- The components that folding keeps hold no `.`, and `..` only in front. -/
theorem Kept.leading {kept : List Component} (shape : Kept kept) :
    ∃ climbs rest, kept.reverse = List.replicate climbs .parent ++ rest ∧
      .parent ∉ rest ∧ .current ∉ rest := by
  induction shape with
  | root => exact ⟨0, [.root], rfl, by decide, by decide⟩
  | parents count => exact ⟨count, [], by simp, by simp, by simp⟩
  | @name kept text below step inductionHypothesis =>
    obtain ⟨climbs, rest, split, noParent, noDot⟩ := inductionHypothesis
    refine ⟨climbs, rest ++ [.name text], ?_, by simpa using noParent, by simpa using noDot⟩
    rw [List.reverse_cons, split, List.append_assoc]

/-- The normal form of a path is canonical. -/
theorem isCanonical_normal (path : FilePath) : path.normal.IsCanonical := by
  have shape := kept_of_wellFormed (wellFormed_components path)
  obtain ⟨climbs, rest, split, noParent, noDot⟩ := shape.leading
  have components : path.normal.components = List.replicate climbs .parent ++ rest := by
    rw [components_normal, normalComponents, split]
  refine ⟨?_, climbs, rest, components, noParent⟩
  rw [components, List.mem_append, List.mem_replicate]
  simpa using noDot

/-- A canonical path that starts at the root holds no `..`. -/
theorem IsCanonical.parent_not_mem {path : FilePath} (canonical : path.IsCanonical)
    (absolute : path.isAbsolute = true) : .parent ∉ path.components := by
  obtain ⟨climbs, rest, split, noParent⟩ := canonical.leading
  cases climbs with
  | zero =>
    rw [split]
    exact noParent
  | succ climbs =>
    -- The first component would be both the root and a `..`.
    rw [components, absolute, List.replicate_succ] at split
    cases split

/-! ### Canonical paths are fixed -/

/-- Steps other than `..` are names. -/
theorem isName_of_isStep {steps : List Component} (all : ∀ step ∈ steps, step.IsStep)
    (noParent : .parent ∉ steps) : ∀ step ∈ steps, step.IsName := by
  intro step mem
  have isStep := all step mem
  cases step with
  | name text => exact isStep
  | parent => exact absurd mem noParent
  | _ => cases isStep

/-- Folding keeps all components of a canonical path. -/
theorem IsCanonical.foldl_components {path : FilePath} (canonical : path.IsCanonical) :
    path.components.foldl Component.foldOnto [] = path.components.reverse := by
  obtain ⟨climbs, rest, split, noParent⟩ := canonical.leading
  have noDot := canonical.noDot
  have wellFormed := wellFormed_components path
  generalize path.components = all at split noDot wellFormed
  cases wellFormed with
  | @rooted steps isStep =>
    -- No `..` stands in front of the root, so none is left.
    have top : climbs = 0 := by
      cases climbs with
      | zero => rfl
      | succ climbs => cases split
    rw [top, List.replicate_zero, List.nil_append] at split
    have names := isName_of_isStep isStep fun mem =>
      noParent (split ▸ List.mem_cons_of_mem _ mem)
    rw [List.reverse_cons]
    exact foldl_names names [.root]
  | here isStep => exact absurd List.mem_cons_self noDot
  | relative isStep =>
    subst split
    have names := isName_of_isStep (fun step mem => isStep step (List.mem_append_right _ mem))
      noParent
    have climbed := foldl_replicate_parent climbs 0
    rw [List.replicate_zero, Nat.zero_add] at climbed
    rw [List.foldl_append, climbed, foldl_names names, List.reverse_append, List.reverse_replicate]

/-- A path is equal to its normal form exactly when it is canonical. -/
theorem normal_beq_iff_isCanonical {path : FilePath} :
    (path.normal == path) = true ↔ path.IsCanonical := by
  rw [beq_iff_components]
  constructor
  · intro same
    have canonical := isCanonical_normal path
    exact ⟨same ▸ canonical.noDot, same ▸ canonical.leading⟩
  · intro canonical
    rw [components_normal, normalComponents, canonical.foldl_components, List.reverse_reverse]

/-- Normal forms are canonical, and the normal form of a joined path is that of the path joined to the
normal form of its base. -/
theorem normal_isCanonicalFor_and_join (path added : FilePath) :
    path.normal.IsCanonicalFor path ∧
      (path.join added).normal = (path.normal.join added).normal := by
  have canonical := isCanonical_normal path
  refine ⟨⟨canonical, ?_, isAbsolute_normal path, normal_normal path⟩,
    (normal_join_normal path added).symm⟩
  intro climbs
  rw [← isAbsolute_normal, Bool.eq_false_iff]
  exact fun absolute => canonical.parent_not_mem absolute climbs

example : (FilePath.mk "a/.//../../b").normal.text = "../b" := by decide

end ResourceAccessors.FilePath
