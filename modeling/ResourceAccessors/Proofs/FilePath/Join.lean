import ResourceAccessors.FilePath.Order
import ResourceAccessors.Proofs.FilePath.Normal

/-!
# Joined paths

The components of a joined path follow from those of its parts. What is made of paths by joining,
normalizing and taking apart is therefore the same for every spelling of them.
-/

namespace ResourceAccessors.FilePath

/-! ### Joined texts -/

/-- A text has at least one piece. -/
theorem exists_pieces (chars : List Char) : ∃ first others, pieces chars = first :: others := by
  rw [pieces_eq_splitOn]
  exact List.exists_cons_of_ne_nil (List.splitOn_ne_nil '/' chars)

/-- The pieces of a text with a slash inside. -/
theorem pieces_append_slash (before after : List Char) :
    pieces (before ++ '/' :: after) = pieces before ++ pieces after := by
  induction before with
  | nil => rfl
  | cons c rest inductionHypothesis =>
    simp only [List.cons_append, pieces]
    by_cases slash : c = '/'
    · rw [if_pos slash, if_pos slash, inductionHypothesis]
      rfl
    · obtain ⟨first, others, split⟩ := exists_pieces rest
      rw [if_neg slash, if_neg slash, inductionHypothesis, split]
      rfl

/-- The components of a text that starts with a slash. -/
theorem components_slash_cons (after : List Char) :
    (FilePath.mk (String.ofList ('/' :: after))).components =
      .root :: (pieces after).filterMap Component.ofPiece? := by
  simp [components, isAbsolute, pieces, Component.ofPiece?]

/-- The components of a text with a slash inside: those in front of it and the steps behind it. -/
theorem components_append_slash {before : List Char} (nonempty : before ≠ [])
    (after : List Char) :
    (FilePath.mk (String.ofList (before ++ '/' :: after))).components =
      (FilePath.mk (String.ofList before)).components ++
        (pieces after).filterMap Component.ofPiece? := by
  obtain ⟨first, others, split⟩ := exists_pieces before
  have start : (before ++ '/' :: after).head? = before.head? := by
    obtain ⟨c, rest, chars⟩ := List.exists_cons_of_ne_nil nonempty
    rw [chars]
    rfl
  have steps : (first :: (others ++ pieces after)).filterMap Component.ofPiece? =
      (first :: others).filterMap Component.ofPiece? ++
        (pieces after).filterMap Component.ofPiece? := by
    rw [← List.cons_append, List.filterMap_append]
  simp only [components, isAbsolute, String.toList_ofList, start, pieces_append_slash, split,
    List.cons_append]
  cases before.head? == some '/' with
  | true => simpa using steps
  | false =>
    by_cases here : first = ['.']
    · simp [here]
    · simpa [here] using steps

/-- The components of a path below another one. -/
theorem components_join {base added : FilePath} (relative : added.isAbsolute = false)
    (nonempty : base.text ≠ "") :
    (base.join added).components =
      base.components ++ (pieces added.text.toList).filterMap Component.ofPiece? := by
  have chars : base.text.toList ≠ [] := fun empty => nonempty (String.toList_inj.1 empty)
  have whole : base = ⟨String.ofList base.text.toList⟩ := by rw [String.ofList_toList]
  rw [join, if_neg (by simp [relative])]
  split
  next closed =>
    have slash : base.text.toList.getLast? = some '/' := by simpa [nonempty] using closed
    obtain ⟨before, ends⟩ := List.getLast?_eq_some_iff.1 slash
    have text : base.text ++ added.text =
        String.ofList (before ++ '/' :: added.text.toList) := by
      rw [← String.toList_inj, String.toList_append, ends]
      simp
    rw [text, whole, ends]
    by_cases root : before = []
    · rw [root, List.nil_append, List.nil_append, components_slash_cons, components_slash_cons]
      rfl
    · rw [components_append_slash root, components_append_slash root]
      simp [pieces, Component.ofPiece?]
  next notClosed =>
    have text : base.text ++ "/" ++ added.text =
        String.ofList (base.text.toList ++ '/' :: added.text.toList) := by
      rw [← String.toList_inj]
      simp
    rw [text, components_append_slash chars, ← whole]

/-! ### Normal forms -/

/-- Folding a relative path folds its steps: a leading dot has no effect. -/
theorem foldl_components_of_relative {added : FilePath} (relative : added.isAbsolute = false)
    (kept : List Component) :
    added.components.foldl Component.foldOnto kept =
      ((pieces added.text.toList).filterMap Component.ofPiece?).foldl Component.foldOnto kept := by
  simp only [components, relative]
  split
  · contradiction
  next rest _ split =>
    rw [split]
    rfl
  next => rfl

/-- Folding a path below another one folds this one first. -/
theorem foldl_components_join {base added : FilePath} (relative : added.isAbsolute = false) :
    (base.join added).components.foldl Component.foldOnto [] =
      ((pieces added.text.toList).filterMap Component.ofPiece?).foldl Component.foldOnto
        (base.components.foldl Component.foldOnto []) := by
  by_cases empty : base.text = ""
  · have bare : base = ⟨""⟩ := by rw [← empty]
    have joined : base.join added = added := by
      rw [bare, join, if_neg (by simp [relative])]
      simp
    rw [joined, foldl_components_of_relative relative, bare]
    rfl
  · rw [components_join relative empty, List.foldl_append]

/-- The normal form of a joined path depends on what folding keeps of the base. -/
theorem normal_join_of_foldl {base other : FilePath}
    (same : base.components.foldl Component.foldOnto [] =
      other.components.foldl Component.foldOnto []) (added : FilePath) :
    (base.join added).normal = (other.join added).normal := by
  by_cases absolute : added.isAbsolute = true
  · rw [join, join, if_pos absolute, if_pos absolute]
  · have relative : added.isAbsolute = false := by simpa using absolute
    rw [normal, normal, normalComponents, normalComponents, foldl_components_join relative,
      foldl_components_join relative, same]

/-- The normal form of a joined path does not depend on how the base is written. -/
theorem normal_join_plain (base added : FilePath) :
    (base.plain.join added).normal = (base.join added).normal := by
  apply normal_join_of_foldl
  rw [components_plain]

/-- The normal form of a joined path is the same from the normal form of the base. -/
theorem normal_join_normal (base added : FilePath) :
    (base.normal.join added).normal = (base.join added).normal := by
  apply normal_join_of_foldl
  have shape := kept_of_wellFormed (wellFormed_components base)
  rw [components_normal, normalComponents, shape.foldl_reverse]

/-! ### Spellings -/

/-- The parent of a path depends on its components only. -/
@[simp]
theorem parent?_plain (path : FilePath) : path.plain.parent? = path.parent? := by
  simp [parent?]

/-- The last name of a path depends on its components only. -/
@[simp]
theorem fileName?_plain (path : FilePath) : path.plain.fileName? = path.fileName? := by
  simp [fileName?]

/-- So does the last name as far as it is text. -/
@[simp]
theorem textName?_plain (path : FilePath) : path.plain.textName? = path.textName? := by
  simp [textName?]

/-- What is left of a path behind another depends on the components of this other one only. -/
@[simp]
theorem relativeTo?_base_plain (path base : FilePath) :
    path.relativeTo? base.plain = path.relativeTo? base := by
  simp [relativeTo?]

/-- Paths compare by their components only. -/
@[simp]
theorem compare_plain (left right : FilePath) :
    compare left.plain right.plain = compare left right := by
  show List.compareLex compare _ _ = List.compareLex compare _ _
  rw [components_plain, components_plain]

end ResourceAccessors.FilePath
