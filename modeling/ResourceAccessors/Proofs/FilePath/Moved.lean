import ResourceAccessors.Proofs.FilePath.Below

/-!
# Moved folders

When a folder is moved, what lies below it keeps its place: how paths below it are named, compared
and seen from the folder stays the same. Steps that never climb above the folder lead to the same
place below it, wherever it lies.
-/

namespace ResourceAccessors.FilePath

/-- The path at the same place below `target` as below `source`. -/
def moved (path source target : FilePath) : FilePath :=
  target.below (path.components.drop source.components.length)

section Moved

variable {source target : FilePath} (sourceAnchored : source.IsAnchored)
  (targetAnchored : target.IsAnchored)

include sourceAnchored in
/-- The names below the folder stay the same. -/
theorem moved_below {steps : List Component} (names : ∀ name ∈ steps, name.IsName) :
    (source.below steps).moved source target = target.below steps := by
  rw [moved, components_below sourceAnchored names, List.drop_left]

variable {path : FilePath}

include sourceAnchored in
/-- What is moved to where it is stays where it is. -/
theorem IsWithin.moved_self (isWithin : path.IsWithin source) : path.moved source source = path := by
  obtain ⟨steps, names, rfl⟩ := isWithin
  exact moved_below sourceAnchored names

include sourceAnchored in
/-- What lies below a folder is within it. -/
theorem LiesBelow.isWithin (liesBelow : path.LiesBelow source) : path.IsWithin source := by
  obtain ⟨steps, last, names, same⟩ := liesBelow.exists_steps sourceAnchored
  exact ⟨_, names, same⟩

include sourceAnchored in
/-- The parent of a path below the folder is the folder or lies below it. -/
theorem LiesBelow.isWithin_of_parent? (liesBelow : path.LiesBelow source) {parent : FilePath}
    (found : path.parent? = some parent) : parent.IsWithin source := by
  obtain ⟨steps, last, names, rfl⟩ := liesBelow.exists_steps sourceAnchored
  rw [parent?_below sourceAnchored names] at found
  exact ⟨steps, fun name mem => names name (List.mem_append_left _ mem),
    (Option.some.inj found).symm⟩

include sourceAnchored targetAnchored

/-- Parents are moved with their entries. -/
theorem parent?_moved (liesBelow : path.LiesBelow source) :
    (path.moved source target).parent? = path.parent?.map (·.moved source target) := by
  obtain ⟨steps, last, names, rfl⟩ := liesBelow.exists_steps sourceAnchored
  have front : ∀ name ∈ steps, name.IsName :=
    fun name mem => names name (List.mem_append_left _ mem)
  rw [moved_below sourceAnchored names, parent?_below sourceAnchored names,
    parent?_below targetAnchored names, Option.map_some, moved_below sourceAnchored front]

/-- File names stay the same. -/
theorem fileName?_moved (liesBelow : path.LiesBelow source) :
    (path.moved source target).fileName? = path.fileName? := by
  obtain ⟨steps, last, names, rfl⟩ := liesBelow.exists_steps sourceAnchored
  rw [moved_below sourceAnchored names, fileName?_below sourceAnchored names,
    fileName?_below targetAnchored names]

/-- File names that are text stay the same. -/
theorem textName?_moved (liesBelow : path.LiesBelow source) :
    (path.moved source target).textName? = path.textName? := by
  rw [textName?, textName?, fileName?_moved sourceAnchored targetAnchored liesBelow]

/-- A path is seen from the folder as before. -/
theorem exists_relativeTo?_moved (isWithin : path.IsWithin source) :
    ∃ steps, path.relativeTo? source = some steps ∧
      (path.moved source target).relativeTo? target = some steps := by
  obtain ⟨steps, names, rfl⟩ := isWithin
  rw [moved_below sourceAnchored names]
  exact ⟨steps, relativeTo?_below sourceAnchored names, relativeTo?_below targetAnchored names⟩

variable {other : FilePath}

/-- Paths are equal after the move exactly when they were before. -/
theorem moved_beq_moved (isWithin : path.IsWithin source) (otherWithin : other.IsWithin source) :
    (path.moved source target == other.moved source target) = (path == other) := by
  obtain ⟨steps, names, rfl⟩ := isWithin
  obtain ⟨others, otherNames, rfl⟩ := otherWithin
  rw [moved_below sourceAnchored names, moved_below sourceAnchored otherNames, Bool.eq_iff_iff,
    below_beq_iff sourceAnchored names otherNames, below_beq_iff targetAnchored names otherNames]

/-- A path lies in a folder after the move exactly when it did before. -/
theorem parent?_moved_beq (liesBelow : path.LiesBelow source)
    (otherWithin : other.IsWithin source) :
    ((path.moved source target).parent? == some (other.moved source target)) =
      (path.parent? == some other) := by
  rw [parent?_moved sourceAnchored targetAnchored liesBelow]
  cases found : path.parent? with
  | none => rfl
  | some parent =>
    exact moved_beq_moved sourceAnchored targetAnchored
      (liesBelow.isWithin_of_parent? sourceAnchored found) otherWithin

/-- Paths stand in the same order as before. -/
theorem compare_moved (isWithin : path.IsWithin source) (otherWithin : other.IsWithin source) :
    compare (path.moved source target) (other.moved source target) = compare path other := by
  obtain ⟨steps, names, rfl⟩ := isWithin
  obtain ⟨others, otherNames, rfl⟩ := otherWithin
  rw [moved_below sourceAnchored names, moved_below sourceAnchored otherNames,
    compare_below sourceAnchored names otherNames, compare_below targetAnchored names otherNames]

end Moved

/-- The text of a path below a folder, without the beginning that is the folder. -/
def textBelow (path folder : FilePath) : String :=
  "/".intercalate ((path.components.drop folder.components.length).map Component.spelling)

/-- The texts of the paths below a folder are those of their ends with one beginning, behind a slash. -/
theorem IsAnchored.exists_text_eq {folder : FilePath} (anchored : folder.IsAnchored) :
    ∃ stem, ∀ path : FilePath, path.LiesBelow folder →
      path.text = stem ++ "/" ++ path.textBelow folder := by
  obtain ⟨stem, texts⟩ := anchored.exists_stem
  refine ⟨stem, fun path liesBelow => ?_⟩
  obtain ⟨steps, last, names, rfl⟩ := liesBelow.exists_steps anchored
  rw [texts _ (by simp), textBelow, components_below anchored names, List.drop_left]

/-- The ends of texts stay the same. -/
theorem textBelow_moved {source target path : FilePath} (sourceAnchored : source.IsAnchored)
    (targetAnchored : target.IsAnchored) (isWithin : path.IsWithin source) :
    (path.moved source target).textBelow target = path.textBelow source := by
  obtain ⟨steps, names, rfl⟩ := isWithin
  rw [moved_below sourceAnchored names, textBelow, textBelow, components_below sourceAnchored names,
    components_below targetAnchored names, List.drop_left, List.drop_left]

/-- What lay below the folder lies below it after the move. -/
theorem LiesBelow.moved {source target path : FilePath} (liesBelow : path.LiesBelow source)
    (sourceAnchored : source.IsAnchored) (targetAnchored : target.IsAnchored) :
    (path.moved source target).LiesBelow target := by
  obtain ⟨steps, last, names, rfl⟩ := liesBelow.exists_steps sourceAnchored
  rw [moved_below sourceAnchored names]
  refine ⟨normal_below targetAnchored names, ?_, ?_⟩
  · rw [components_below targetAnchored names]
    exact List.prefix_append _ _
  · rw [Bool.eq_false_iff, ne_eq, beq_iff_components, components_below targetAnchored names]
    simp

/-! ### Steps that stay below a folder -/

/-- The steps of a path that does not start at the root. -/
def relativeSteps (path : FilePath) : List Component :=
  (pieces path.text.toList).filterMap Component.ofPiece?

/-- Whether some steps climb above a folder when they start a number of names below it. -/
def climbs : Nat → List Component → Bool
  | _, [] => false
  | 0, .parent :: _ => true
  | depth + 1, .parent :: rest => climbs depth rest
  | depth, .name _ :: rest => climbs (depth + 1) rest
  | depth, _ :: rest => climbs depth rest

/-- The steps are steps. -/
theorem isStep_of_mem_relativeSteps {path : FilePath} {step : Component}
    (mem : step ∈ path.relativeSteps) : step.IsStep := by
  obtain ⟨piece, pieceMem, stands⟩ := List.mem_filterMap.1 mem
  exact Component.isStep_of_ofPiece? (slash_not_mem_of_mem_pieces pieceMem) stands

/-- Steps that do not climb above a folder lead to the same place below every folder. -/
theorem exists_reached {steps start : List Component} (isStep : ∀ step ∈ steps, step.IsStep)
    (names : ∀ name ∈ start, name.IsName) (stays : climbs start.length steps = false) :
    ∃ reached : List Component, (∀ name ∈ reached, name.IsName) ∧
      ∀ base : List Component, steps.foldl Component.foldOnto (base ++ start).reverse =
        (base ++ reached).reverse := by
  induction steps generalizing start with
  | nil => exact ⟨start, names, fun _ => rfl⟩
  | cons first rest inductionHypothesis =>
    have restSteps : ∀ step ∈ rest, step.IsStep :=
      fun step mem => isStep step (List.mem_cons_of_mem _ mem)
    have firstStep := isStep first List.mem_cons_self
    cases first with
    | root => cases firstStep
    | current => cases firstStep
    | name text =>
      have further : ∀ name ∈ start ++ [.name text], name.IsName := by
        intro name mem
        rcases List.mem_append.1 mem with old | new
        · exact names name old
        · rw [List.mem_singleton.1 new]
          exact firstStep
      obtain ⟨reached, reachedNames, leads⟩ := inductionHypothesis restSteps further (by
        simpa [climbs] using stays)
      refine ⟨reached, reachedNames, fun base => ?_⟩
      rw [← leads base, List.foldl_cons, ← List.append_assoc, List.reverse_concat]
      rfl
    | parent =>
      rcases List.eq_nil_or_concat' start with rfl | ⟨before, last, rfl⟩
      · cases stays
      · have isName := names last (by simp)
        obtain ⟨reached, reachedNames, leads⟩ := inductionHypothesis restSteps
          (fun name mem => names name (List.mem_append_left _ mem)) (by
            simpa [climbs] using stays)
        refine ⟨reached, reachedNames, fun base => ?_⟩
        cases last with
        | name text =>
          rw [← leads base, List.foldl_cons, ← List.append_assoc, List.reverse_concat]
          rfl
        | _ => cases isName

/-- A joined path that does not climb above a folder lies at the same place below every folder. -/
theorem exists_normal_join_below {added : FilePath} {start : List Component}
    (relative : added.isAbsolute = false) (names : ∀ name ∈ start, name.IsName)
    (stays : climbs start.length added.relativeSteps = false) :
    ∃ reached : List Component, (∀ name ∈ reached, name.IsName) ∧
      ∀ folder : FilePath, folder.IsAnchored →
        ((folder.below start).join added).normal = folder.below reached := by
  obtain ⟨reached, reachedNames, leads⟩ :=
    exists_reached (fun _ => isStep_of_mem_relativeSteps) names stays
  refine ⟨reached, reachedNames, fun folder anchored => ?_⟩
  have walked : ((folder.below start).join added).components.foldl Component.foldOnto [] =
      (folder.components ++ reached).reverse := by
    rw [foldl_components_join relative, foldl_components_below anchored names]
    exact leads folder.components
  rw [normal, normalComponents, walked, List.reverse_reverse, below]

end ResourceAccessors.FilePath
