import ResourceAccessors.Proofs.Render.Functions

/-!
# Carriage returns in documentation

The lines of a text hold a carriage return exactly when one stands in the text that no line feed follows. The
preview of a resource is in normal form and holds none, whatever its text is. The names, the folder and the
extension are shown as they are, and documentation holds the bare carriage returns of these and no others.
-/

namespace ResourceAccessors

namespace Text

/-- A carriage return stands among the characters that no line feed follows. -/
def HasBareReturn (chars : List Char) : Prop :=
  ∃ front behind, chars = front ++ '\r' :: behind ∧ behind.head? ≠ some '\n'

/-! ### Bare carriage returns -/

/-- Where a bare return is, there is a return. -/
theorem HasBareReturn.mem {chars : List Char} (bare : HasBareReturn chars) : '\r' ∈ chars := by
  obtain ⟨front, behind, rfl, -⟩ := bare
  simp

/-- No characters have no bare return among them. -/
theorem not_hasBareReturn_nil : ¬ HasBareReturn [] := fun bare => List.not_mem_nil bare.mem

/-- The first character is a bare carriage return, or there is one behind it. -/
theorem hasBareReturn_cons {c : Char} {rest : List Char} :
    HasBareReturn (c :: rest) ↔ c = '\r' ∧ rest.head? ≠ some '\n' ∨ HasBareReturn rest := by
  constructor
  · rintro ⟨front, behind, split, noFeed⟩
    cases front with
    | nil =>
      obtain ⟨rfl, rfl⟩ := List.cons.inj split
      exact .inl ⟨rfl, noFeed⟩
    | cons first others =>
      obtain ⟨-, rfl⟩ := List.cons.inj split
      exact .inr ⟨others, behind, rfl, noFeed⟩
  · rintro (⟨rfl, noFeed⟩ | ⟨front, behind, rfl, noFeed⟩)
    · exact ⟨[], rest, rfl, noFeed⟩
    · exact ⟨c :: front, behind, rfl, noFeed⟩

/-- Behind characters without carriage returns, the bare ones are those of the rest. -/
theorem hasBareReturn_append_of_notMem {front : List Char} (noReturn : '\r' ∉ front) (behind : List Char) :
    HasBareReturn (front ++ behind) ↔ HasBareReturn behind := by
  induction front with
  | nil => rfl
  | cons c rest ih =>
    rw [List.mem_cons, not_or] at noReturn
    rw [List.cons_append, hasBareReturn_cons, ih noReturn.2, or_iff_right]
    exact fun ⟨same, _⟩ => noReturn.1 same.symm

/-- Two texts have their bare carriage returns apart when the second one does not start with a line feed. -/
theorem hasBareReturn_append {behind : List Char} (noFeed : behind.head? ≠ some '\n') (front : List Char) :
    HasBareReturn (front ++ behind) ↔ HasBareReturn front ∨ HasBareReturn behind := by
  induction front with
  | nil => simp [not_hasBareReturn_nil]
  | cons c rest ih =>
    have joint : (rest ++ behind).head? ≠ some '\n' ↔ rest.head? ≠ some '\n' := by
      cases rest with
      | nil => simpa using noFeed
      | cons => simp
    rw [List.cons_append, hasBareReturn_cons, hasBareReturn_cons, ih, joint, or_assoc]

/-! ### Lines -/

namespace Lines

/-- A line feed comes first exactly when the first piece is empty and others follow it. -/
theorem head?_eq_feed_iff {chars first : List Char} {others : List (List Char)}
    (split : pieces chars = first :: others) : chars.head? = some '\n' ↔ first = [] ∧ others ≠ [] := by
  fun_cases pieces chars with
  | case1 => simp_all [pieces]
  | case2 rest =>
    obtain ⟨rfl, rfl⟩ := List.cons.inj split
    simp [pieces_ne_nil]
  | case3 c rest other none => exact absurd none (pieces_ne_nil rest)
  | case4 c rest other piece more later =>
    rw [pieces, later] at split
    · obtain ⟨rfl, -⟩ := List.cons.inj split
      simpa using fun same => other same
    · exact other

/-- A carriage return at the front of a piece stays in its line, unless it is all of the piece and another piece
follows. -/
theorem return_mem_ofPieces_cons (c : Char) (first : List Char) (others : List (List Char)) :
    (∃ line ∈ ofPieces ((c :: first) :: others), '\r' ∈ line) ↔
      c = '\r' ∧ ¬ (first = [] ∧ others ≠ []) ∨ ∃ line ∈ ofPieces (first :: others), '\r' ∈ line := by
  by_cases more : others = []
  · subst more
    cases first with
    | nil => simp [ofPieces, eq_comm]
    | cons next rest => simp [ofPieces, eq_comm]
  · rw [ofPieces_cons _ more, ofPieces_cons _ more]
    simp only [List.mem_cons, exists_eq_or_imp]
    rw [← or_assoc]
    refine or_congr_left ?_
    cases first with
    | nil =>
      by_cases isReturn : c = '\r'
      · simp [withoutReturn, isReturn, more]
      · rw [withoutReturn_eq_self (by simpa using isReturn)]
        simp [withoutReturn, isReturn, eq_comm]
    | cons next rest =>
      rw [withoutReturn]
      · simp [eq_comm]
      · simp

/-- The lines of characters hold a carriage return exactly when there is a bare one among them. -/
theorem return_mem_ofPieces_iff (chars : List Char) :
    (∃ line ∈ ofPieces (pieces chars), '\r' ∈ line) ↔ HasBareReturn chars := by
  fun_induction pieces chars with
  | case1 => simp [ofPieces, not_hasBareReturn_nil]
  | case2 rest ih =>
    rw [ofPieces_cons _ (pieces_ne_nil rest), hasBareReturn_cons, ← ih]
    simp [withoutReturn]
  | case3 c rest other none ih => exact absurd none (pieces_ne_nil rest)
  | case4 c rest other first others split ih =>
    rw [split] at ih
    rw [return_mem_ofPieces_cons, hasBareReturn_cons, ih, ← head?_eq_feed_iff split]

end Lines

/-- The lines of a text hold a carriage return exactly when there is a bare one in it. -/
theorem return_mem_lines_iff (text : String) :
    (∃ line ∈ lines text, '\r' ∈ line.toList) ↔ HasBareReturn text.toList := by
  rw [← Lines.return_mem_ofPieces_iff, lines]
  simp

end Text

namespace Render

open Generation
open Text (HasBareReturn)

/-! ### Documentation -/

/-- The documentation of a text holds a carriage return exactly when there is a bare one in the text. -/
theorem return_mem_docLines_iff (text : String) :
    (∃ line ∈ docLines text, '\r' ∈ line.toList) ↔ HasBareReturn text.toList := by
  rw [← Text.return_mem_lines_iff, docLines]
  have kept (line : String) : '\r' ∈ (docLine line).toList ↔ '\r' ∈ line.toList := by
    rw [toList_docLine]
    by_cases empty : line = ""
    · simp [empty]
    · simp [empty]
  simp [kept]

/-- Of a text that shows two others between marks, the bare carriage returns are those of the two. -/
theorem hasBareReturn_shown {front between behind : List Char} (frontPlain : '\r' ∉ front)
    (betweenPlain : '\r' ∉ between) (behindPlain : '\r' ∉ behind) (betweenMark : between.head? = some '`')
    (behindMark : behind.head? = some '`') (one other : List Char) :
    HasBareReturn (front ++ (one ++ (between ++ (other ++ behind)))) ↔
      HasBareReturn one ∨ HasBareReturn other := by
  have noFeed : (between ++ (other ++ behind)).head? ≠ some '\n' := by
    simp [List.head?_append, betweenMark]
  have none : ¬ HasBareReturn behind := fun bare => behindPlain bare.mem
  rw [Text.hasBareReturn_append_of_notMem frontPlain, Text.hasBareReturn_append noFeed,
    Text.hasBareReturn_append_of_notMem betweenPlain,
    Text.hasBareReturn_append (by rw [behindMark]; decide), or_iff_left none]

/-- The preview of a text holds no carriage returns. -/
theorem return_notMem_preview (text : String) : '\r' ∉ (preview text).toList := by
  have noReturn : ∀ line ∈ Text.lines (Text.normalizeLineEndings text), '\r' ∉ line.toList :=
    fun line mem inLine => Text.return_notMem_normalizeLineEndings text
      ((Text.isInfix_of_mem_lines mem).subset inLine)
  simp only [preview, String.toList_append, toList_fence, toList_unlines, List.mem_append, List.mem_flatMap, not_or]
  refine ⟨⟨⟨⟨⟨by decide, ?fence⟩, by decide⟩, ?shown⟩, ?closing⟩, by decide⟩
  case shown =>
    rintro ⟨line, mem, inLine | feed⟩
    · exact noReturn line mem inLine
    · exact absurd feed (by decide)
  all_goals
    intro mem
    cases List.eq_of_mem_replicate mem

/-- The documentation of an accessor holds a carriage return exactly when there is a bare one in the name of its file
or in that of its resource. -/
theorem return_mem_documentation_iff (plan : Plan) (property : Property) :
    (∃ line ∈ documentation plan property, '\r' ∈ line.toList) ↔
      HasBareReturn property.candidate.fileName.toList ∨
        HasBareReturn property.candidate.resourceName.toList := by
  have previewPlain : '\r' ∉ (((shownText plan property).map preview).getD "").toList := by
    cases shownText plan property with
    | none => decide
    | some text => exact return_notMem_preview text
  have between : '\r' ∉ "`.\n".toList ++ ((((shownText plan property).map preview).getD "").toList ++
      "\nRead from `".toList) := by
    rw [List.mem_append, List.mem_append, not_or, not_or]
    exact ⟨by decide, previewPlain, by decide⟩
  have titlePlain : '\r' ∉ "Text of the embedded resource `".toList := by decide +kernel
  have endPlain : '\r' ∉ "` on first access, then cached.\n".toList := by decide +kernel
  rw [documentation, return_mem_docLines_iff, ← hasBareReturn_shown titlePlain between endPlain rfl rfl]
  unfold propertyDoc
  simp only [String.toList_append, List.append_assoc]

/-- The documentation of an artifact holds a carriage return exactly when there is a bare one in the folder or in the
extension. -/
theorem return_mem_summary_iff (plan : Plan) :
    (∃ line ∈ docLines (summary plan), '\r' ∈ line.toList) ↔
      HasBareReturn plan.searchFolder.toList ∨ HasBareReturn plan.site.arguments.extension.toList := by
  have titlePlain : '\r' ∉ ("Accessors for the embedded text resources that:\n\n- are in the folder `").toList := by
    decide +kernel
  have between : '\r' ∉ "`\n- have the extension `".toList := by decide +kernel
  have endPlain : '\r' ∉ "`\n".toList ++ (if plan.properties.isEmpty then
      "\nNo matching files were found, so there are no accessors.\n" else "").toList := by
    rw [List.mem_append, not_or]
    refine ⟨by decide, ?_⟩
    split
    · decide +kernel
    · decide
  rw [return_mem_docLines_iff, ← hasBareReturn_shown titlePlain between endPlain rfl rfl]
  unfold summary
  simp only [String.toList_append, List.append_assoc]

/-! ### Lines of an artifact -/

/-- The lines of an artifact that are comments with documentation. -/
def documentationLines (plan : Plan) : List String :=
  (accessorsLines plan).filter (isComment ·.toList)

/-- An empty line is no comment. -/
@[simp] theorem isComment_nil : isComment [] = false :=
  rfl

/-- A tab in front does not make a comment or unmake one. -/
@[simp] theorem isComment_tab (rest : List Char) : isComment ('\t' :: rest) = isComment rest := by
  rw [isComment, isComment, List.dropWhile_cons_of_pos (by decide)]

/-- No comment begins with a character that is neither a tab nor a slash. -/
theorem isComment_of_other {c : Char} (other : c ∉ ['\t', '/']) (rest : List Char) :
    isComment (c :: rest) = false := by
  simp only [List.mem_cons, List.not_mem_nil, or_false, not_or] at other
  rw [isComment, List.dropWhile_cons_of_neg (by simpa using other.1)]
  simp [List.isPrefixOf, Ne.symm other.2]

/-- The lines of a documentation are comments, each on a line of its own. -/
theorem isComment_of_mem_docLines {text line : String} (mem : line ∈ docLines text) :
    isComment line.toList = true ∧ '\n' ∉ line.toList := by
  obtain ⟨shown, shownMem, rfl⟩ := List.mem_map.1 mem
  exact isComment_docLine (Text.feed_notMem_of_mem_lines shownMem)

/-- The comments of an accessor are its documentation, set in by one tab. -/
theorem filter_accessorLines (plan : Plan) (property : Property) :
    (accessorLines plan property).filter (isComment ·.toList) =
      (documentation plan property).map ("\t" ++ ·) := by
  have comments : ((documentation plan property).map ("\t" ++ ·)).filter (isComment ·.toList) =
      (documentation plan property).map ("\t" ++ ·) := by
    refine List.filter_eq_self.2 (List.forall_mem_map.2 fun line mem => ?_)
    simpa using (isComment_of_mem_docLines mem).1
  have signature : isComment (functionLine plan property).toList = false := by
    have visibility : isComment (plan.site.accessorVisibility.toList ++ ("fn ".toList ++ (property.name.toList ++
        "() -> ::embedres::ResourceResult<::std::string::String> \x7b".toList))) = false := by
      rw [Declaration.Site.accessorVisibility]
      split <;> exact isComment_of_other (by decide) _
    simpa [functionLine] using visibility
  have body : (functionBody property).filter (isComment ·.toList) = [] := by
    refine List.filter_eq_nil_iff.2 fun line mem => ?_
    simp only [functionBody, List.mem_cons, List.not_mem_nil, or_false] at mem
    rcases mem with rfl | rfl | rfl | rfl | rfl | rfl | rfl | rfl | rfl | rfl <;>
      simp [isComment_of_other, Text.quote]
  rw [accessorLines_eq, List.filter_append, List.filter_cons_of_neg (by simp), comments,
    List.filter_cons_of_neg (by simp [signature]), body, List.append_nil]

/-- The documentation of an artifact is that of the `impl` block and that of each accessor. -/
theorem documentationLines_eq (plan : Plan) :
    documentationLines plan = docLines (summary plan) ++
      plan.properties.flatMap fun property => (documentation plan property).map ("\t" ++ ·) := by
  have head : header.filter (isComment ·.toList) = [] := by decide +kernel
  have comments : (docLines (summary plan)).filter (isComment ·.toList) = docLines (summary plan) :=
    List.filter_eq_self.2 fun line mem => (isComment_of_mem_docLines mem).1
  have conditions : plan.site.cfgAttributes.filter (isComment ·.toList) = [] := by
    refine List.filter_eq_nil_iff.2 (List.forall_mem_map.2 fun predicate _ => ?_)
    simp [isComment_of_other]
  have block (generics type bounds before after : String) :
      (["#[allow(non_snake_case, dead_code, unused_qualifications)]",
        "impl" ++ generics ++ " " ++ type ++ bounds ++ " \x7b",
        "\t#[doc(hidden)]",
        "\tconst EMBEDDED_RESOURCE_HOOKS: ::embedres::ResourceHooks = ::embedres::ResourceHooks \x7b",
        "\t\tbefore_read: " ++ before ++ ",",
        "\t\tafter_read: " ++ after ++ ",",
        "\t\x7d;"]).filter (isComment ·.toList) = [] := by
    simp [isComment_of_other]
  have closing : ["\x7d"].filter (isComment ·.toList) = [] := by decide
  rw [documentationLines]
  unfold accessorsLines
  dsimp only
  rw [List.filter_append, List.filter_append, List.filter_append, List.filter_append, List.filter_append,
    head, comments, conditions, block, closing, List.filter_flatMap]
  simp only [List.nil_append, List.append_nil, filter_accessorLines]

/-- A line of documentation is one line. -/
theorem feed_notMem_of_mem_documentationLines {plan : Plan} {line : String} (mem : line ∈ documentationLines plan) :
    '\n' ∉ line.toList := by
  rw [documentationLines_eq, List.mem_append] at mem
  rcases mem with inSummary | inAccessors
  · exact (isComment_of_mem_docLines inSummary).2
  · obtain ⟨property, -, shownMem⟩ := List.mem_flatMap.1 inAccessors
    obtain ⟨shown, docMem, rfl⟩ := List.mem_map.1 shownMem
    simpa using (isComment_of_mem_docLines docMem).2

/-- A line of documentation is a line of the artifact. -/
theorem mem_rawLines_of_mem_documentationLines {plan : Plan} {line : String}
    (mem : line ∈ documentationLines plan) : line.toList ++ ['\n'] ∈ rawLines (accessors plan).toList := by
  obtain ⟨front, behind, split⟩ := List.mem_iff_append.1 (List.mem_filter.1 mem).1
  have cut : accessorsLines plan = front ++ ([line] ++ behind) := split
  rw [accessors, cut, rawLines_unlines_append, rawLines_unlines_append,
    rawLines_unlines (List.forall_mem_singleton.2 (feed_notMem_of_mem_documentationLines mem))]
  simp

/-- The documentation of the `impl` block holds a carriage return, or that of an accessor does. -/
theorem return_mem_documentationLines (plan : Plan) :
    (∃ line ∈ documentationLines plan, '\r' ∈ line.toList) ↔
      (∃ line ∈ docLines (summary plan), '\r' ∈ line.toList) ∨
        ∃ property ∈ plan.properties, ∃ line ∈ documentation plan property, '\r' ∈ line.toList := by
  have inAccessors : (∃ line ∈ plan.properties.flatMap fun property =>
      (documentation plan property).map ("\t" ++ ·), '\r' ∈ line.toList) ↔
      ∃ property ∈ plan.properties, ∃ line ∈ documentation plan property, '\r' ∈ line.toList := by
    constructor
    · rintro ⟨line, mem, inLine⟩
      obtain ⟨property, propertyMem, shownMem⟩ := List.mem_flatMap.1 mem
      obtain ⟨doc, docMem, rfl⟩ := List.mem_map.1 shownMem
      exact ⟨property, propertyMem, doc, docMem, by simpa using inLine⟩
    · rintro ⟨property, propertyMem, doc, docMem, inDoc⟩
      exact ⟨_, List.mem_flatMap.2 ⟨property, propertyMem, List.mem_map_of_mem docMem⟩, by simpa using inDoc⟩
  rw [documentationLines_eq, ← inAccessors]
  simp only [List.mem_append, or_and_right, exists_or]

/-- Each line of documentation is a line of the artifact, and one holds a carriage return exactly where a name, the
folder or the extension has one that no line feed follows. -/
theorem return_mem_documentationLines_iff (plan : Plan) :
    (∀ line ∈ documentationLines plan, line.toList ++ ['\n'] ∈ rawLines (accessors plan).toList) ∧
    ((∃ line ∈ documentationLines plan, '\r' ∈ line.toList) ↔
      HasBareReturn plan.searchFolder.toList ∨ HasBareReturn plan.site.arguments.extension.toList ∨
        ∃ property ∈ plan.properties, HasBareReturn property.candidate.fileName.toList ∨
          HasBareReturn property.candidate.resourceName.toList) := by
  refine ⟨fun line => mem_rawLines_of_mem_documentationLines, ?_⟩
  rw [return_mem_documentationLines, return_mem_summary_iff, or_assoc]
  simp only [return_mem_documentation_iff]

/-- A carriage return in the name of a file comes to stand in the documentation. -/
theorem return_mem_documentationLines_notesPlan :
    let plan := notesPlan "src/Notes" "a\rb.txt" ".txt" (some "one\rtwo") false
    ¬ ∀ line ∈ documentationLines plan, '\r' ∉ line.toList := by
  intro plan none
  have bare : HasBareReturn "a\rb.txt".toList := ⟨['a'], ['b', '.', 't', 'x', 't'], rfl, by decide⟩
  obtain ⟨line, mem, inLine⟩ := (return_mem_documentationLines plan).2
    (.inr ⟨_, List.mem_singleton_self _, (return_mem_documentation_iff _ _).2 (.inl bare)⟩)
  exact none line mem inLine

end Render

end ResourceAccessors
