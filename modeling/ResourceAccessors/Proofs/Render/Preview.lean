import Mathlib.Data.List.Count
import ResourceAccessors.Proofs.Text.Lines

/-!
# Previews end where they should

The documentation of an accessor shows the text of its resource between two lines with a code fence. The fence
is longer than every run of backticks in the text, so no line of the text is taken for its end.
-/

namespace ResourceAccessors.Render

open Generation

/-! ### Runs of backticks -/

/-- The longest run does not become shorter. -/
theorem le_longestRun (longest current : Nat) (chars : List Char) :
    longest ≤ longestRun longest current chars := by
  fun_induction longestRun longest current chars <;> omega

/-- A run at the front of a text goes on with the backticks directly before it. -/
theorem add_le_longestRun {longest current : Nat} (atMost : current ≤ longest) (run : Nat)
    (behind : List Char) :
    current + run ≤ longestRun longest current (List.replicate run '`' ++ behind) := by
  induction run generalizing longest current with
  | zero => exact Nat.le_trans atMost (le_longestRun longest current behind)
  | succ run ih =>
    rw [List.replicate_succ, List.cons_append, longestRun, if_pos rfl]
    have atMost : current + 1 ≤ max longest (current + 1) := by omega
    have later := ih atMost
    omega

/-- No run in a text is longer than the longest one. -/
theorem le_longestRun_of_isInfix {chars : List Char} {run : Nat}
    (inside : List.replicate run '`' <:+: chars) : run ≤ longestRun 0 0 chars := by
  obtain ⟨front, behind, rfl⟩ := inside
  have general : ∀ longest current, current ≤ longest →
      run ≤ longestRun longest current (front ++ (List.replicate run '`' ++ behind)) := by
    induction front with
    | nil =>
      intro longest current atMost
      have counted := add_le_longestRun atMost run behind
      rw [List.nil_append]
      omega
    | cons c rest ih =>
      intro longest current atMost
      rw [List.cons_append, longestRun]
      split
      · exact ih _ _ (by omega)
      · exact ih _ _ (by omega)
  rw [List.append_assoc]
  exact general 0 0 (Nat.le_refl 0)

/-- Normalizing line endings keeps every run. -/
theorem isInfix_normalizeLineEndings {text : String} {run : Nat}
    (inside : List.replicate run '`' <:+: text.toList) :
    List.replicate run '`' <:+: (Text.normalizeLineEndings text).toList := by
  obtain ⟨front, behind, split⟩ := inside
  rw [Text.toList_normalizeLineEndings, ← split, List.append_assoc]
  cases run with
  | zero => exact List.nil_infix
  | succ run =>
    have noReturn : '\r' ∉ List.replicate (run + 1) '`' := fun mem => by
      cases List.eq_of_mem_replicate mem
    rw [Text.Lines.joinPairs_append fun _ => by simp [List.replicate_succ],
      Text.Lines.joinPairs_append_of_return_notMem noReturn, List.map_append, List.map_append,
      List.map_replicate]
    exact ⟨_, _, List.append_assoc ..⟩

/-! ### Fences -/

/-- The code fence of a text consists of backticks. -/
theorem toList_fence (text : String) :
    (fence text).toList = List.replicate (max (longestRun 0 0 text.toList) 2 + 1) '`' := by
  rw [fence, String.toList_ofList]

/-- No line of a text holds the fence of the text. -/
theorem fence_not_isInfix {text line : String} (mem : line ∈ Text.lines text) :
    ¬ (fence text).toList <:+: line.toList := by
  intro inside
  rw [toList_fence] at inside
  have atMost := le_longestRun_of_isInfix (inside.trans (Text.isInfix_of_mem_lines mem))
  omega

/-- A fence has at least three backticks. -/
theorem exists_fence_eq (text : String) :
    ∃ count, 3 ≤ count ∧ fence text = String.ofList (List.replicate count '`') :=
  ⟨max (longestRun 0 0 text.toList) 2 + 1, by omega, rfl⟩

/-! ### Lines of documentation -/

/-- A line of documentation: the marks, with a space before the text where there is one. -/
theorem toList_docLine (line : String) :
    (docLine line).toList = '/' :: '/' :: '/' :: if line = "" then [] else ' ' :: line.toList := by
  have marks : "/// ".toList = ['/', '/', '/', ' '] := rfl
  by_cases empty : line = ""
  · simp [docLine, empty]
  · simp [docLine, empty, marks]

/-- A line that is not empty is documented behind slashes and a space. -/
theorem docLine_of_ne_empty {line : String} (some : line ≠ "") : docLine line = "/// " ++ line := by
  simp [docLine, some]

/-- Documentation lines of different lines are different. -/
theorem docLine_injective : Function.Injective docLine := by
  intro left right same
  have chars := congrArg String.toList same
  simp only [toList_docLine] at chars
  by_cases leftEmpty : left = "" <;> by_cases rightEmpty : right = ""
  · rw [leftEmpty, rightEmpty]
  · simp [leftEmpty, rightEmpty] at chars
  · simp [leftEmpty, rightEmpty] at chars
  · simpa [leftEmpty, rightEmpty, ← String.toList_inj] using chars

/-- A line with a break behind it ends at this break. -/
def Plain (line : String) : Prop :=
  '\n' ∉ line.toList ∧ line.toList.getLast? ≠ some '\r'

instance (line : String) : Decidable (Plain line) :=
  inferInstanceAs (Decidable (_ ∧ _))

/-- A front without line feeds leaves a plain line plain. -/
theorem Plain.append {front behind : String} (feed : '\n' ∉ front.toList) (plain : Plain behind)
    (more : behind.toList ≠ []) : Plain (front ++ behind) := by
  refine ⟨?_, ?_⟩
  · simp [feed, plain.1]
  · simpa [List.getLast?_append, List.getLast?_eq_some_getLast more] using plain.2

/-- Lines without breaks in them are documented one by one. -/
theorem docLines_unlines {lines : List String} (plain : ∀ line ∈ lines, Plain line) :
    docLines (unlines lines) = lines.map docLine := by
  have plainChars : ∀ line ∈ lines.map String.toList, '\n' ∉ line ∧ line.getLast? ≠ some '\r' :=
    List.forall_mem_map.2 plain
  have chars := Text.Lines.ofPieces_pieces_flatMap plainChars
  rw [List.flatMap_map, ← toList_unlines] at chars
  rw [docLines, Text.lines, chars, List.map_map]
  simp

/-- The lines of a normal form are plain. -/
theorem plain_of_mem_lines {text line : String}
    (mem : line ∈ Text.lines (Text.normalizeLineEndings text)) : Plain line := by
  have inside := Text.isInfix_of_mem_lines mem
  refine ⟨Text.feed_notMem_of_mem_lines mem, fun last => ?_⟩
  exact Text.return_notMem_normalizeLineEndings text (inside.subset (List.mem_of_getLast? last))

/-! ### Documentation with a preview -/

/-- The lines of two groups are ended one after the other. -/
theorem unlines_append (front behind : List String) :
    unlines (front ++ behind) = unlines front ++ unlines behind := by
  simp [String.ext_iff, toList_unlines]

/-- The lines of the documentation with a preview of a text in normal form. -/
def shownLines (fileName resourceName text : String) : List String :=
  ["Text of the embedded resource `" ++ fileName ++ "`.", ""] ++ [fence text ++ "text"] ++
    Text.lines text ++ [fence text] ++
    ["", "Read from `" ++ resourceName ++ "` on first access, then cached."]

/-- The documentation with a preview consists of its lines. -/
theorem propertyDoc_some (fileName resourceName text : String) :
    propertyDoc fileName resourceName (some text) =
      unlines (shownLines fileName resourceName (Text.normalizeLineEndings text)) := by
  -- The breaks inside the literals end lines.
  have title : "`.\n" = "`." ++ "\n" := rfl
  have mark : "text\n" = "text" ++ "\n" := rfl
  have source : "\nRead from `" = "\n" ++ "Read from `" := rfl
  have last : "` on first access, then cached.\n" = "` on first access, then cached." ++ "\n" := rfl
  have nothing (text : String) : text ++ unlines [] = text := String.append_empty
  unfold propertyDoc shownLines
  rw [title, source, last]
  simp only [Option.map_some, Option.getD_some, preview, mark, unlines_append, unlines_cons, nothing,
    String.append_assoc, String.empty_append]

section Lines

variable {fileName resourceName text : String}

/-- A fence is a plain line. -/
theorem plain_fence (text : String) : Plain (fence text) := by
  simp [Plain, toList_fence, List.getLast?_replicate]

/-- Names without line feeds and a text in normal form make plain lines. -/
theorem plain_of_mem_shownLines (file : '\n' ∉ fileName.toList) (resource : '\n' ∉ resourceName.toList)
    {line : String} (mem : line ∈ shownLines fileName resourceName (Text.normalizeLineEndings text)) :
    Plain line := by
  simp only [shownLines, List.mem_append, List.mem_cons, List.not_mem_nil, or_false] at mem
  rcases mem with ((((rfl | rfl) | rfl) | inText) | rfl) | rfl | rfl
  · refine Plain.append ?_ (by decide) (by decide)
    simpa using file
  · decide
  · exact Plain.append (plain_fence _).1 (by decide) (by decide)
  · exact plain_of_mem_lines inText
  · exact plain_fence _
  · decide
  · refine Plain.append ?_ (by decide +kernel) (by simp)
    simpa using resource

/-- Of the lines that begin with the fence, the documentation has the two with the fence alone and with the
fence followed by `text`. -/
theorem count_shownLines {line : String} (begins : (fence text).toList <+: line.toList) :
    (shownLines fileName resourceName text).count line =
      [fence text ++ "text", fence text].count line := by
  have inText : line ∉ Text.lines text := fun mem => fence_not_isInfix mem begins.isInfix
  -- No other line begins with a backtick.
  have backtick : line.toList.head? = some '`' := by
    obtain ⟨more, split⟩ := begins
    rw [← split, toList_fence, List.replicate_succ]
    rfl
  have other {front more : String} {c : Char} (starts : front.toList.head? = some c)
      (letter : c ≠ '`') : line ≠ front ++ more := by
    rintro rfl
    simp [List.head?_append, starts, letter] at backtick
  have blank : line ≠ "" := by
    rintro rfl
    simp at backtick
  have title : line ∉ ["Text of the embedded resource `" ++ fileName ++ "`.", ""] := by
    have named : line ≠ "Text of the embedded resource `" ++ (fileName ++ "`.") :=
      other rfl (by decide)
    simp [String.append_assoc, named, blank]
  have source : line ∉ ["", "Read from `" ++ resourceName ++ "` on first access, then cached."] := by
    have named : line ≠ "Read from `" ++ (resourceName ++ "` on first access, then cached.") :=
      other rfl (by decide)
    simp [String.append_assoc, named, blank]
  simp only [shownLines, List.count_append, List.count_eq_zero.2 inText, List.count_eq_zero.2 title,
    List.count_eq_zero.2 source]
  simp only [List.count_cons, List.count_nil]
  omega

end Lines

/-- The lines that document an accessor. -/
def documentation (plan : Plan) (property : Property) : List String :=
  docLines (propertyDoc property.candidate.fileName property.candidate.resourceName
    (shownText plan property))

/-- A text with a code fence stands between two lines with a fence, and no other line of the documentation
is one of these two. -/
structure ShowsFenced (fence : String) (text : String) (doc : List String) : Prop where
  backticks : ∃ count, 3 ≤ count ∧ fence = String.ofList (List.replicate count '`')
  /-- The fence has more backticks than any run of them in the text. -/
  longer : ∀ run, List.replicate run '`' <:+: text.toList → run < fence.length
  opensOnce : doc.count ("/// " ++ fence ++ "text") = 1
  closesOnce : doc.count ("/// " ++ fence) = 1
  lines : ∃ before behind, doc = before ++ ["/// " ++ fence ++ "text"] ++
    (Text.lines (Text.normalizeLineEndings text)).map
      (fun line => if line = "" then "///" else "/// " ++ line) ++
    ["/// " ++ fence] ++ behind

variable {plan : Plan} {property : Property} {text : String}

/-- The documentation of an accessor with a text, in a build that is none for an editor. -/
theorem documentation_eq (built : plan.isDesignTime = false) (shown : property.candidate.text = some text)
    (file : '\n' ∉ property.candidate.fileName.toList)
    (resource : '\n' ∉ property.candidate.resourceName.toList) :
    documentation plan property = (shownLines property.candidate.fileName
      property.candidate.resourceName (Text.normalizeLineEndings text)).map docLine := by
  have preview : shownText plan property = some text := by simp [shownText, built, shown]
  rw [documentation, preview, propertyDoc_some, docLines_unlines]
  exact fun line mem => plain_of_mem_shownLines file resource mem

/-- The artifact holds the documentation of each accessor, set in by one tab. -/
theorem exists_accessors_eq (mem : property ∈ plan.properties) : ∃ before behind,
    accessors plan = before ++ unlines ((documentation plan property).map ("\t" ++ ·)) ++ behind := by
  obtain ⟨front, others, split⟩ := List.mem_iff_append.1 mem
  have within : (documentation plan property).map ("\t" ++ ·) <:+: accessorsLines plan := by
    have inAccessor : (documentation plan property).map ("\t" ++ ·) <:+: accessorLines plan property :=
      (List.suffix_append [""] _).isInfix.trans (List.prefix_append _ _).isInfix
    have inAccessors : accessorLines plan property <:+: plan.properties.flatMap (accessorLines plan) := by
      rw [split, List.flatMap_append, List.flatMap_cons]
      exact ⟨_, _, (List.append_assoc ..)⟩
    exact (inAccessor.trans inAccessors).trans
      ((List.suffix_append _ _).isInfix.trans (List.prefix_append _ _).isInfix)
  obtain ⟨before, behind, whole⟩ := within
  exact ⟨unlines before, unlines behind, by rw [accessors, ← whole, unlines_append, unlines_append]⟩

/-- Previews are faithful and closed: whatever text an accessor documents, the lines of its normal form stand
between the only two lines with the fence, in one piece of the artifact. -/
theorem documentation_shows_fenced (mem : property ∈ plan.properties) (built : plan.isDesignTime = false)
    (shown : property.candidate.text = some text)
    (file : '\n' ∉ property.candidate.fileName.toList)
    (resource : '\n' ∉ property.candidate.resourceName.toList) :
    ShowsFenced (fence (Text.normalizeLineEndings text)) text (documentation plan property) ∧
      (∀ line ∈ documentation plan property, '\n' ∉ line.toList) ∧
      ∃ before behind, accessors plan =
        before ++ unlines ((documentation plan property).map ("\t" ++ ·)) ++ behind := by
  have lines := documentation_eq built shown file resource
  have opens : docLine (fence (Text.normalizeLineEndings text) ++ "text") =
      "/// " ++ fence (Text.normalizeLineEndings text) ++ "text" := by
    rw [docLine_of_ne_empty (by simp), String.append_assoc]
  have closes : docLine (fence (Text.normalizeLineEndings text)) =
      "/// " ++ fence (Text.normalizeLineEndings text) :=
    docLine_of_ne_empty (by simp [String.ext_iff, toList_fence])
  refine ⟨⟨exists_fence_eq _, ?longer, ?opens, ?closes, ?lines⟩, ?feed, exists_accessors_eq mem⟩
  case longer =>
    intro run inside
    have atMost := le_longestRun_of_isInfix (isInfix_normalizeLineEndings inside)
    rw [← String.length_toList, toList_fence, List.length_replicate]
    omega
  case opens =>
    rw [← opens, lines, List.count_map_of_injective _ _ docLine_injective,
      count_shownLines (by simp)]
    simp [String.ext_iff]
  case closes =>
    rw [← closes, lines, List.count_map_of_injective _ _ docLine_injective,
      count_shownLines (List.prefix_refl _)]
    simp [String.ext_iff]
  case lines =>
    have marked : docLine = fun line => if line = "" then "///" else "/// " ++ line := by
      funext line
      simp [docLine]
    rw [← opens, ← closes, ← marked, lines, shownLines, List.map_append, List.map_append, List.map_append,
      List.map_append]
    exact ⟨_, _, rfl⟩
  case feed =>
    intro line inside
    obtain ⟨plain, plainMem, rfl⟩ := List.mem_map.1 inside
    exact (isComment_docLine (Text.feed_notMem_of_mem_lines plainMem)).2

/-- A text with fences, empty lines and every kind of line break in it. -/
theorem documentation_shows_fenced_notesPlan :
    let text := "````\r\n``` `x`\r\r\n\n ```text"
    let plan := notesPlan "src/Notes" "first.txt" ".txt" (some text) false
    ∃ property ∈ plan.properties, property.candidate.text = some text ∧
      ShowsFenced "`````" text (documentation plan property) := by
  refine ⟨_, List.mem_singleton_self _, rfl, ?_⟩
  have five : fence (Text.normalizeLineEndings "````\r\n``` `x`\r\r\n\n ```text") = "`````" := by
    decide +kernel
  rw [← five]
  exact (documentation_shows_fenced (List.mem_singleton_self _) rfl rfl (by decide) (by decide)).1

end ResourceAccessors.Render
