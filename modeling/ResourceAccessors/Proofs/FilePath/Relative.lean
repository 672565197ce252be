import ResourceAccessors.Proofs.FilePath.Bytes
import ResourceAccessors.Proofs.FilePath.Join

/-!
# Paths seen from a folder

What is left of a path behind the components of a folder is again a list of components that a path can have.
Written with slashes between them these make a path, and behind the text of the folder they make the path
itself.
-/

namespace ResourceAccessors.FilePath

/-- Behind others, the components of a path are steps. -/
theorem WellFormed.isStep_of_append {front behind : List Component}
    (wellFormed : WellFormed (front ++ behind)) (some : front ≠ []) :
    ∀ component ∈ behind, component.IsStep := by
  obtain ⟨first, others, rfl⟩ := List.exists_cons_of_ne_nil some
  intro component mem
  have inside : component ∈ others ++ behind := List.mem_append_right others mem
  cases wellFormed with
  | rooted steps => exact steps component inside
  | here steps => exact steps component inside
  | relative steps => exact steps component (List.mem_cons_of_mem _ inside)

/-- What stands behind others in a path can be the components of a path. -/
theorem WellFormed.of_append {front behind : List Component}
    (wellFormed : WellFormed (front ++ behind)) : WellFormed behind := by
  by_cases none : front = []
  · simpa [none] using wellFormed
  · exact .relative (wellFormed.isStep_of_append none)

/-- What is left of a path behind the components of a folder. -/
theorem relativeTo?_eq_some_iff {path base : FilePath} {relative : List Component} :
    path.relativeTo? base = some relative ↔ path.components = base.components ++ relative := by
  rw [relativeTo?]
  split
  next starts =>
    obtain ⟨rest, split⟩ := List.isPrefixOf_iff_prefix.1 starts
    rw [← split, List.drop_left, Option.some.injEq, List.append_cancel_left_eq]
  next apart =>
    have never : path.components ≠ base.components ++ relative := by
      intro split
      rw [split] at apart
      exact apart (List.isPrefixOf_iff_prefix.2 (List.prefix_append _ _))
    simp [never]

/-- Nothing is left behind a path that is no front part. -/
theorem relativeTo?_eq_none_iff {path base : FilePath} :
    path.relativeTo? base = none ↔ ¬ base.components <+: path.components := by
  simp [relativeTo?, List.isPrefixOf_iff_prefix]

/-- Components that a path can have are read back when they are written with slashes between them, also
behind the root. -/
theorem components_intercalate_spelling {all : List Component} (wellFormed : WellFormed all) :
    (FilePath.mk ("/".intercalate (all.map Component.spelling))).components = all := by
  cases wellFormed with
  | @rooted rest steps =>
    cases rest with
    | nil => rfl
    | cons first others =>
      have chars : "/".intercalate ((Component.root :: first :: others).map Component.spelling) =
          String.ofList ('/' :: '/' :: List.intercalate ['/']
            ((first :: others).map fun step => step.spelling.toList)) := by
        rw [← String.toList_inj, String.toList_intercalate]
        simp [List.intercalate_cons_cons, Component.spelling, Function.comp_def]
      have root : Component.ofPiece? [] = none := rfl
      rw [chars, components_slash_cons, pieces, if_pos rfl, List.filterMap_cons, root,
        filterMap_pieces_spelling steps]
  | here steps => exact components_ofComponents_current steps
  | @relative _ steps =>
    have text : ofComponents all = ⟨"/".intercalate (all.map Component.spelling)⟩ := by
      cases all with
      | nil => rfl
      | cons first rest =>
        cases first with
        | root => exact absurd (steps .root List.mem_cons_self) id
        | _ => rfl
    rw [← text]
    exact components_ofComponents_steps steps

/-- The steps of a path are those of its pieces. -/
theorem filterMap_pieces_of_isStep {path : FilePath} (steps : ∀ component ∈ path.components, component.IsStep) :
    (pieces path.text.toList).filterMap Component.ofPiece? = path.components := by
  revert steps
  rw [components]
  split
  · exact fun steps => absurd (steps .root List.mem_cons_self) id
  · exact fun steps => absurd (steps .current List.mem_cons_self) id
  · exact fun _ => rfl

/-- A path from a folder, behind the text of the folder, is the path itself. -/
theorem components_append_relative {path base relative : FilePath}
    (split : path.components = base.components ++ relative.components) (some : base.text ≠ "") :
    (FilePath.mk (base.text ++ ("/" ++ relative.text))).components = path.components := by
  have chars : base.text ++ ("/" ++ relative.text) =
      String.ofList (base.text.toList ++ '/' :: relative.text.toList) := by
    simp
  have front : base.components ≠ [] := fun none => some (text_of_components_eq_nil none)
  have wellFormed := wellFormed_components path
  rw [split] at wellFormed
  rw [chars, components_append_slash (by simpa using some),
    filterMap_pieces_of_isStep (wellFormed.isStep_of_append front), split, String.ofList_toList]

/-! ### Paths that are text -/

/-- A path whose names are all text. -/
def IsText (path : FilePath) : Prop :=
  ∀ component ∈ path.components, isTextName component.spelling = true

instance (path : FilePath) : Decidable path.IsText :=
  inferInstanceAs (Decidable (∀ component ∈ path.components, isTextName component.spelling = true))

/-- Characters whose pieces between slashes have no mark have none either. -/
theorem unmarked_of_pieces {chars : List Char} (each : ∀ piece ∈ pieces chars, Unmarked piece) :
    Unmarked chars := by
  have slash : StandsApart '/' := by decide
  induction chars with
  | nil => exact .nil
  | cons first rest ih =>
    rw [pieces] at each
    split at each
    next isSlash =>
      subst isSlash
      refine List.isChain_cons.2 ⟨fun next _ => slash.isMark_front next, ih fun piece mem => ?_⟩
      exact each piece (List.mem_cons_of_mem _ mem)
    next =>
      obtain ⟨front, others, split⟩ := exists_pieces rest
      rw [split] at each ih
      have whole := each (first :: front) List.mem_cons_self
      refine List.isChain_cons.2 ⟨fun next starts => ?_, ih fun piece mem => ?_⟩
      · cases rest with
        | nil => cases starts
        | cons second behind =>
          obtain rfl : second = next := by simpa using starts
          by_cases isSlash : second = '/'
          · exact isSlash ▸ slash.isMark_back first
          · obtain ⟨inner, more, splitMore⟩ := exists_pieces behind
            rw [pieces, if_neg isSlash, splitMore] at split
            cases split
            exact (List.isChain_cons_cons.1 whole).1
      · rcases List.mem_cons.1 mem with rfl | later
        · exact whole.tail
        · exact each piece (List.mem_cons_of_mem _ later)

/-- What stands for a piece is written as the piece. -/
theorem spelling_of_ofPiece? {piece : List Char} {component : Component}
    (stands : Component.ofPiece? piece = some component) : component.spelling.toList = piece := by
  rw [Component.ofPiece?] at stands
  split at stands
  · cases stands
  · split at stands
    next parent =>
      cases stands
      exact parent.symm
    next =>
      cases stands
      exact String.toList_ofList

/-- A piece of a path stands for one of its components, or is empty or a dot. -/
theorem exists_component_of_mem_pieces {path : FilePath} {piece : List Char}
    (mem : piece ∈ pieces path.text.toList) :
    piece = [] ∨ piece = ['.'] ∨ ∃ component ∈ path.components, component.spelling.toList = piece := by
  cases stands : Component.ofPiece? piece with
  | none =>
    rw [Component.ofPiece?] at stands
    split at stands
    next dropped => exact dropped.imp_right .inl
    next => split at stands <;> cases stands
  | some component =>
    refine .inr (.inr ⟨component, ?_, spelling_of_ofPiece? stands⟩)
    have among := List.mem_filterMap.2 ⟨piece, mem, stands⟩
    rw [components]
    split
    next => exact List.mem_cons_of_mem _ among
    next rest _ pieces =>
      rw [pieces, List.filterMap_cons] at among
      exact List.mem_cons_of_mem _ among
    next => exact among

/-- A path that is text has no mark. -/
theorem IsText.unmarked {path : FilePath} (isText : path.IsText) : Unmarked path.text.toList := by
  apply unmarked_of_pieces
  intro piece mem
  rcases exists_component_of_mem_pieces mem with rfl | rfl | ⟨component, among, rfl⟩
  · exact .nil
  · exact .singleton _
  · exact isTextName_iff.1 (isText component among)

/-- A path that is text is shown as it is. -/
theorem IsText.shown_eq {path : FilePath} (isText : path.IsText) : path.shown = path.text :=
  shownText_eq_self isText.unmarked

end ResourceAccessors.FilePath
