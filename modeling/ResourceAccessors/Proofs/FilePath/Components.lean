import ResourceAccessors.FilePath.Order

/-!
# The components of written paths

Which lists of components a path can have, and that the shortest text of such a list has exactly
these components. Two paths are therefore equal exactly when their shortest spellings are.
-/

namespace ResourceAccessors.FilePath

/-! ### Pieces -/

/-- The pieces of a text are its parts between slashes. -/
theorem pieces_eq_splitOn (chars : List Char) : pieces chars = chars.splitOn '/' := by
  induction chars with
  | nil => rfl
  | cons c rest inductionHypothesis =>
    rw [List.splitOn_cons_eq_if_modifyHead]
    by_cases slash : c = '/'
    · simp [pieces, slash, inductionHypothesis]
    · obtain ⟨first, others, split⟩ :=
        List.exists_cons_of_ne_nil (List.splitOn_ne_nil '/' rest)
      simp [pieces, slash, inductionHypothesis, split]

/-- Pieces with slashes between them are the pieces of the text that they make. -/
theorem pieces_intercalate {parts : List (List Char)} (nonempty : parts ≠ [])
    (plain : ∀ part ∈ parts, '/' ∉ part) :
    pieces (List.intercalate ['/'] parts) = parts := by
  rw [pieces_eq_splitOn]
  exact List.splitOn_intercalate '/' plain nonempty

/-- No piece holds a slash. -/
theorem slash_not_mem_of_mem_pieces {chars piece : List Char} (mem : piece ∈ pieces chars) :
    '/' ∉ piece := by
  induction chars generalizing piece with
  | nil => simp_all [pieces]
  | cons c rest inductionHypothesis =>
    simp only [pieces] at mem
    split at mem
    · rcases List.mem_cons.1 mem with rfl | later
      · simp
      · exact inductionHypothesis later
    next notSlash =>
      split at mem
      · have same : piece = [c] := by simpa using mem
        simpa [same] using Ne.symm notSlash
      next first others split =>
        rcases List.mem_cons.1 mem with rfl | later
        · have plain := inductionHypothesis (split ▸ List.mem_cons_self)
          simp [plain, Ne.symm notSlash]
        · exact inductionHypothesis (split ▸ List.mem_cons_of_mem _ later)

/-! ### Lists of components -/

/-- A component that may stand behind others. -/
def Component.IsStep : Component → Prop
  | .parent => True
  | .name text => text ≠ "" ∧ text ≠ "." ∧ text ≠ ".." ∧ '/' ∉ text.toList
  | .root => False
  | .current => False

/-- The lists of components that paths have. -/
inductive WellFormed : List Component → Prop
  | rooted {rest} (steps : ∀ component ∈ rest, component.IsStep) : WellFormed (.root :: rest)
  | here {rest} (steps : ∀ component ∈ rest, component.IsStep) : WellFormed (.current :: rest)
  | relative {all} (steps : ∀ component ∈ all, component.IsStep) : WellFormed all

/-- Only the first component of a path can be the root. -/
theorem WellFormed.root_not_mem_tail {all : List Component} (wellFormed : WellFormed all) :
    Component.root ∉ all.tail := by
  cases wellFormed with
  | rooted steps => exact fun mem => steps .root mem
  | here steps => exact fun mem => steps .root mem
  | relative steps => exact fun mem => steps .root (List.mem_of_mem_tail mem)

/-- A name among the components of a path is a step. -/
theorem WellFormed.isStep_of_name_mem {all : List Component} (wellFormed : WellFormed all)
    {text : String} (mem : .name text ∈ all) : (Component.name text).IsStep := by
  cases wellFormed with
  | rooted steps => exact steps _ ((List.mem_cons.1 mem).resolve_left (by simp))
  | here steps => exact steps _ ((List.mem_cons.1 mem).resolve_left (by simp))
  | relative steps => exact steps _ mem

/-- What stands for a piece is a step. -/
theorem Component.isStep_of_ofPiece? {piece : List Char} {component : Component}
    (plain : '/' ∉ piece) (stands : ofPiece? piece = some component) : component.IsStep := by
  simp only [ofPiece?] at stands
  split at stands
  · cases stands
  next kept =>
    split at stands
    · cases stands
      trivial
    next notParent =>
      cases stands
      have notEmpty : piece ≠ [] := fun same => kept (.inl same)
      have notDot : piece ≠ ['.'] := fun same => kept (.inr same)
      have text : (String.ofList piece).toList = piece := String.toList_ofList
      refine ⟨?_, ?_, ?_, ?_⟩
      · rintro same
        exact notEmpty (text ▸ congrArg String.toList same)
      · rintro same
        exact notDot (text ▸ congrArg String.toList same)
      · rintro same
        exact notParent (text ▸ congrArg String.toList same)
      · rw [text]
        exact plain

/-- A step stands for the piece as which it is written. -/
theorem Component.ofPiece?_spelling {component : Component} (step : component.IsStep) :
    ofPiece? component.spelling.toList = some component := by
  cases component with
  | root => cases step
  | current => cases step
  | parent => rfl
  | name text =>
    obtain ⟨notEmpty, notDot, notParent, -⟩ := step
    simp only [ne_eq, ← String.toList_inj] at notEmpty notDot notParent
    simp_all [ofPiece?, spelling]

/-- A step is written without slashes. -/
theorem Component.slash_not_mem_spelling {component : Component} (step : component.IsStep) :
    '/' ∉ component.spelling.toList := by
  cases component with
  | root => cases step
  | current => cases step
  | parent => decide
  | name text => exact step.2.2.2

/-- A step is written with at least one character. -/
theorem Component.spelling_ne_nil {component : Component} (step : component.IsStep) :
    component.spelling.toList ≠ [] := by
  cases component with
  | root => cases step
  | current => cases step
  | parent => decide
  | name text =>
    intro empty
    exact step.1 (String.toList_inj.1 empty)

/-- Only a `.` is written as a dot. -/
theorem Component.spelling_ne_dot {component : Component} (step : component.IsStep) :
    component.spelling.toList ≠ ['.'] := by
  cases component with
  | root => cases step
  | current => cases step
  | parent => decide
  | name text =>
    intro dot
    exact step.2.1 (String.toList_inj.1 dot)

/-- The components of a path are well formed. -/
theorem wellFormed_components (path : FilePath) : WellFormed path.components := by
  have steps : ∀ (parts : List (List Char)), (∀ part ∈ parts, part ∈ pieces path.text.toList) →
      ∀ component ∈ parts.filterMap Component.ofPiece?, component.IsStep := by
    intro parts among component mem
    obtain ⟨part, partMem, stands⟩ := List.mem_filterMap.1 mem
    exact Component.isStep_of_ofPiece? (slash_not_mem_of_mem_pieces (among part partMem)) stands
  simp only [components]
  split
  · exact .rooted (steps _ fun _ mem => mem)
  next rest _ split =>
    exact .here (steps rest fun _ mem => split ▸ List.mem_cons_of_mem _ mem)
  · exact .relative (steps _ fun _ mem => mem)

/-- Only the empty path has no components. -/
theorem text_of_components_eq_nil {path : FilePath} (none : path.components = []) :
    path.text = "" := by
  rw [← String.toList_inj]
  cases chars : path.text.toList with
  | nil => rfl
  | cons c rest =>
    by_cases slash : c = '/'
    · simp [components, isAbsolute, chars, slash] at none
    · obtain ⟨first, others, split⟩ :=
        List.exists_cons_of_ne_nil (List.splitOn_ne_nil '/' rest)
      rw [← pieces_eq_splitOn] at split
      have parts : pieces path.text.toList = (c :: first) :: others := by
        rw [chars, pieces, if_neg slash, split]
      have relative : path.isAbsolute = false := by simpa [isAbsolute, chars] using slash
      have whole : Component.ofPiece? (c :: first) = Option.none → c :: first = ['.'] := by
        rw [Component.ofPiece?]
        split
        next ignored => exact fun _ => ignored.resolve_left (List.cons_ne_nil _ _)
        next => split <;> exact fun absurd => by cases absurd
      simp only [components, relative, parts] at none
      split at none
      · contradiction
      · cases none
      next notDot =>
        have nothing := List.filterMap_eq_nil_iff.1 none _ List.mem_cons_self
        exact absurd (congrArg (· :: others) (whole nothing)) (notDot others)

/-- The pieces as which steps are written stand for these steps. -/
theorem filterMap_spelling {steps : List Component}
    (all : ∀ component ∈ steps, component.IsStep) :
    (steps.map fun step => step.spelling.toList).filterMap Component.ofPiece? = steps := by
  induction steps with
  | nil => rfl
  | cons first rest inductionHypothesis =>
    have stands := Component.ofPiece?_spelling (all first List.mem_cons_self)
    have later := inductionHypothesis fun step mem => all step (List.mem_cons_of_mem _ mem)
    simp [stands, later]

/-- The pieces as which steps are written hold no slashes. -/
theorem slash_not_mem_of_mem_spellings {steps : List Component} {piece : List Char}
    (all : ∀ component ∈ steps, component.IsStep)
    (mem : piece ∈ steps.map fun step => step.spelling.toList) : '/' ∉ piece := by
  obtain ⟨step, stepMem, rfl⟩ := List.mem_map.1 mem
  exact Component.slash_not_mem_spelling (all step stepMem)

/-- The pieces of steps that are written with slashes between them stand for these steps. -/
theorem filterMap_pieces_spelling {steps : List Component}
    (all : ∀ component ∈ steps, component.IsStep) :
    (pieces (List.intercalate ['/'] (steps.map fun step => step.spelling.toList))).filterMap
      Component.ofPiece? = steps := by
  by_cases none : steps = []
  · subst none
    rfl
  · rw [pieces_intercalate (by simpa using none) fun _ => slash_not_mem_of_mem_spellings all]
    exact filterMap_spelling all

/-- The text of steps that are written with slashes between them. -/
theorem toList_ofComponents {steps : List Component}
    (all : ∀ component ∈ steps, component.IsStep) :
    (ofComponents steps).text.toList =
      List.intercalate ['/'] (steps.map fun step => step.spelling.toList) := by
  have text : ofComponents steps = ⟨"/".intercalate (steps.map Component.spelling)⟩ := by
    cases steps with
    | nil => rfl
    | cons first rest =>
      cases first with
      | root => exact absurd (all .root List.mem_cons_self) id
      | _ => rfl
  rw [text]
  simp [Function.comp_def]

/-- The first character of steps is the first one of the first step. -/
theorem head?_intercalate_spelling {first : Component} {rest : List Component}
    (step : first.IsStep) :
    (List.intercalate ['/'] ((first :: rest).map fun step => step.spelling.toList)).head? =
      first.spelling.toList.head? := by
  obtain ⟨c, others, spelled⟩ := List.exists_cons_of_ne_nil (Component.spelling_ne_nil step)
  cases rest <;> simp [spelled, List.intercalate_cons_cons]

/-- Steps below the root are read back from their text. -/
theorem components_ofComponents_root {rest : List Component}
    (steps : ∀ component ∈ rest, component.IsStep) :
    (ofComponents (.root :: rest)).components = .root :: rest := by
  have chars : (ofComponents (.root :: rest)).text.toList =
      '/' :: List.intercalate ['/'] (rest.map fun step => step.spelling.toList) := by
    simp [ofComponents, Function.comp_def]
  have absolute : (ofComponents (.root :: rest)).isAbsolute = true := by
    simp [isAbsolute, chars]
  simp only [components, absolute, chars]
  simp [pieces, Component.ofPiece?, filterMap_pieces_spelling steps]

/-- Steps behind a leading dot are read back from their text. -/
theorem components_ofComponents_current {rest : List Component}
    (steps : ∀ component ∈ rest, component.IsStep) :
    (ofComponents (.current :: rest)).components = .current :: rest := by
  have chars : (ofComponents (.current :: rest)).text.toList =
      List.intercalate ['/'] (['.'] :: rest.map fun step => step.spelling.toList) := by
    simp [ofComponents, Function.comp_def, Component.spelling]
  have relative : (ofComponents (.current :: rest)).isAbsolute = false := by
    cases rest <;> simp [isAbsolute, chars, List.intercalate_cons_cons]
  have parts : pieces (ofComponents (.current :: rest)).text.toList =
      ['.'] :: rest.map fun step => step.spelling.toList := by
    rw [chars, pieces_intercalate (by simp)]
    intro part mem
    rcases List.mem_cons.1 mem with rfl | later
    · decide
    · exact slash_not_mem_of_mem_spellings steps later
  simp only [components, relative, parts]
  rw [filterMap_spelling steps]

/-- The text of steps does not start at the root. -/
theorem isAbsolute_ofComponents {first : Component} {rest : List Component}
    (steps : ∀ component ∈ first :: rest, component.IsStep) :
    (ofComponents (first :: rest)).isAbsolute = false := by
  have firstStep := steps first List.mem_cons_self
  have plainFirst := Component.slash_not_mem_spelling firstStep
  rw [isAbsolute, toList_ofComponents steps, head?_intercalate_spelling firstStep]
  cases spelled : first.spelling.toList with
  | nil => rfl
  | cons c others =>
    have notSlash : c ≠ '/' := by
      rintro rfl
      simp [spelled] at plainFirst
    simpa using notSlash

/-- Steps are read back from their text. -/
theorem components_ofComponents_steps {steps : List Component}
    (all : ∀ component ∈ steps, component.IsStep) : (ofComponents steps).components = steps := by
  have chars := toList_ofComponents all
  cases steps with
  | nil => rfl
  | cons first rest =>
    have parts : pieces (ofComponents (first :: rest)).text.toList =
        (first :: rest).map fun step => step.spelling.toList := by
      rw [chars, pieces_intercalate (by simp) fun _ => slash_not_mem_of_mem_spellings all]
    have stands := filterMap_pieces_spelling all
    rw [← chars] at stands
    simp only [components, isAbsolute_ofComponents all]
    split
    · contradiction
    next others _ split =>
      have dot : first.spelling.toList = ['.'] := by simp_all
      exact absurd dot (Component.spelling_ne_dot (all first List.mem_cons_self))
    · exact stands

/-- The shortest text of well-formed components has these components. -/
theorem components_ofComponents {all : List Component} (wellFormed : WellFormed all) :
    (ofComponents all).components = all := by
  cases wellFormed with
  | rooted steps => exact components_ofComponents_root steps
  | here steps => exact components_ofComponents_current steps
  | relative steps => exact components_ofComponents_steps steps

/-! ### The shortest spelling -/

/-- The path in its shortest spelling. -/
def plain (path : FilePath) : FilePath :=
  ofComponents path.components

/-- The shortest spelling means the same path. -/
@[simp]
theorem components_plain (path : FilePath) : path.plain.components = path.components :=
  components_ofComponents (wellFormed_components path)

/-- A plain path is spelled plainly already. -/
@[simp]
theorem plain_plain (path : FilePath) : path.plain.plain = path.plain := by
  rw [plain, components_plain, ← plain]

/-- Paths are equal exactly when they have the same components. -/
theorem beq_iff_components (left right : FilePath) :
    (left == right) = true ↔ left.components = right.components := by
  show (left.components == right.components) = true ↔ _
  rw [beq_iff_eq]

/-- Paths are equal exactly when their shortest spellings are. -/
theorem beq_iff_plain (left right : FilePath) :
    (left == right) = true ↔ left.plain = right.plain := by
  rw [beq_iff_components]
  constructor
  · intro same
    rw [plain, plain, same]
  · intro same
    rw [← components_plain left, ← components_plain right, same]

end ResourceAccessors.FilePath
