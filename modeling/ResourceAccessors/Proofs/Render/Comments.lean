import ResourceAccessors.Render.Accessors

/-!
# Documentation stays in comments

What the documentation of an artifact shows can be any text. Each of its lines stands behind the marks of a
comment, so that the code of the artifact, which is all that stands on other lines, does not depend on it.
-/

namespace ResourceAccessors

namespace Text

/-! ### Lines without line feeds -/

/-- No line feed stands in a piece between line feeds. -/
theorem Lines.feed_notMem_of_mem_pieces {chars piece : List Char} (mem : piece ∈ Lines.pieces chars) :
    '\n' ∉ piece := by
  fun_induction Lines.pieces chars generalizing piece with
  | case1 => simp_all
  | case2 rest ih =>
    rcases List.mem_cons.1 mem with rfl | later
    · simp
    · exact ih later
  | case3 c rest other none ih =>
    rw [List.mem_singleton.1 mem, List.mem_singleton]
    exact fun same => other same.symm
  | case4 c rest other first others split ih =>
    rw [split] at ih
    rcases List.mem_cons.1 mem with rfl | later
    · rw [List.mem_cons, not_or]
      exact ⟨fun same => other same.symm, ih List.mem_cons_self⟩
    · exact ih (List.mem_cons_of_mem _ later)

/-- A line without its return has no other characters. -/
theorem Lines.mem_of_mem_withoutReturn {chars : List Char} {c : Char}
    (mem : c ∈ Lines.withoutReturn chars) : c ∈ chars := by
  fun_induction Lines.withoutReturn chars with
  | case1 => cases mem
  | case2 => cases mem
  | case3 first rest other ih =>
    rcases List.mem_cons.1 mem with rfl | later
    · exact List.mem_cons_self
    · exact List.mem_cons_of_mem _ (ih later)

/-- A line is a piece, or one without the carriage return at its end. -/
theorem Lines.exists_of_mem_ofPieces {pieces : List (List Char)} {line : List Char}
    (mem : line ∈ Lines.ofPieces pieces) : ∃ piece ∈ pieces, ∀ c ∈ line, c ∈ piece := by
  fun_induction Lines.ofPieces pieces with
  | case1 => cases mem
  | case2 => cases mem
  | case3 last => exact ⟨line, mem, fun _ inside => inside⟩
  | case4 piece rest notEmpty more ih =>
    rcases List.mem_cons.1 mem with rfl | later
    · exact ⟨piece, List.mem_cons_self, fun _ => Lines.mem_of_mem_withoutReturn⟩
    · obtain ⟨found, foundMem, inside⟩ := ih later
      exact ⟨found, List.mem_cons_of_mem _ foundMem, inside⟩

/-- No line of a text holds a line feed. -/
theorem feed_notMem_of_mem_lines {text line : String} (mem : line ∈ lines text) :
    '\n' ∉ line.toList := by
  obtain ⟨chars, charsMem, rfl⟩ := List.mem_map.1 mem
  obtain ⟨piece, pieceMem, inside⟩ := Lines.exists_of_mem_ofPieces charsMem
  rw [String.toList_ofList]
  exact fun feed => Lines.feed_notMem_of_mem_pieces pieceMem (inside _ feed)

end Text

namespace Render

open Generation

/-! ### The code of a text -/

/-- The lines of a text, each with the line feed at its end. -/
def rawLines : List Char → List (List Char)
  | [] => []
  | '\n' :: rest => ['\n'] :: rawLines rest
  | c :: rest =>
    match rawLines rest with
    | [] => [[c]]
    | first :: others => (c :: first) :: others

/-- Whether the first characters of a line behind its tabs are `///`. -/
def isComment (line : List Char) : Bool :=
  ['/', '/', '/'].isPrefixOf (line.dropWhile (· == '\t'))

/-- The text without the lines that are comments. -/
def code (text : String) : String :=
  String.ofList ((rawLines text.toList).filter fun line => !isComment line).flatten

/-- Where there are characters there is a line. -/
theorem rawLines_ne_nil {chars : List Char} (some : chars ≠ []) : rawLines chars ≠ [] := by
  fun_cases rawLines chars <;> simp_all

/-- A line feed ends a line. -/
theorem rawLines_append_feed (front behind : List Char) :
    rawLines (front ++ '\n' :: behind) = rawLines (front ++ ['\n']) ++ rawLines behind := by
  induction front with
  | nil => simp [rawLines]
  | cons c rest ih =>
    by_cases feed : c = '\n'
    · subst feed
      simp [rawLines, ih]
    · have some : rawLines (rest ++ ['\n']) ≠ [] := rawLines_ne_nil (by simp)
      cases split : rawLines (rest ++ ['\n']) with
      | nil => exact absurd split some
      | cons first others =>
        rw [split] at ih
        simp [rawLines, ih, split]

/-- A line without a line feed in it is one line. -/
theorem rawLines_of_feed_notMem {line : List Char} (feed : '\n' ∉ line) :
    rawLines (line ++ ['\n']) = [line ++ ['\n']] := by
  induction line with
  | nil => rfl
  | cons c rest ih =>
    rw [List.mem_cons, not_or] at feed
    have other : c ≠ '\n' := fun same => feed.1 same.symm
    simp [rawLines, ih feed.2]

/-- The code of a line and of the text behind it. -/
theorem code_line_append (line behind : String) :
    code (line ++ "\n" ++ behind) = code (line ++ "\n") ++ code behind := by
  have feed : "\n".toList = ['\n'] := rfl
  simp only [code, String.toList_append, feed, List.append_assoc, List.singleton_append]
  rw [rawLines_append_feed, List.filter_append, List.flatten_append, String.ofList_append]

/-- A line is ended before the rest of the lines. -/
theorem unlines_cons (line : String) (rest : List String) :
    unlines (line :: rest) = line ++ "\n" ++ unlines rest := by
  rw [unlines, List.map_cons, String.join_cons, unlines]

/-- Lines one after the other have their code one after the other. -/
theorem code_unlines_append (front behind : List String) :
    code (unlines (front ++ behind)) = code (unlines front) ++ code (unlines behind) := by
  induction front with
  | nil =>
    have nothing : code (unlines []) = "" := rfl
    rw [List.nil_append, nothing, String.empty_append]
  | cons line rest ih =>
    rw [List.cons_append, unlines_cons, unlines_cons, code_line_append, code_line_append, ih,
      String.append_assoc]

/-- A comment stays one with more text behind it. -/
theorem isComment_append {line : List Char} (comment : isComment line = true) (more : List Char) :
    isComment (line ++ more) = true := by
  induction line with
  | nil => cases comment
  | cons c rest ih =>
    rw [isComment] at comment
    rw [isComment, List.cons_append]
    by_cases tab : c = '\t'
    · rw [List.dropWhile_cons_of_pos (by simp [tab])] at comment ⊢
      exact ih comment
    · rw [List.dropWhile_cons_of_neg (by simp [tab])] at comment ⊢
      rw [List.isPrefixOf_iff_prefix] at comment ⊢
      exact comment.trans (List.prefix_append _ more)

/-- Comments have no code. -/
theorem code_unlines_comments {lines : List String} (comments : ∀ line ∈ lines,
    isComment line.toList = true ∧ '\n' ∉ line.toList) : code (unlines lines) = "" := by
  induction lines with
  | nil => rfl
  | cons line rest ih =>
    obtain ⟨comment, feed⟩ := comments line List.mem_cons_self
    have nothing : code (line ++ "\n") = "" := by
      have ends : "\n".toList = ['\n'] := rfl
      rw [code, String.toList_append, ends, rawLines_of_feed_notMem feed,
        List.filter_cons_of_neg (by simp [isComment_append comment])]
      rfl
    rw [unlines_cons, code_line_append, nothing,
      ih fun other mem => comments other (List.mem_cons_of_mem _ mem)]
    rfl

/-! ### The code of an artifact -/

/-- Lines with the same code. -/
def SameCode (some other : List String) : Prop :=
  code (unlines some) = code (unlines other)

/-- Lines are the same code as themselves. -/
theorem SameCode.refl (lines : List String) : SameCode lines lines :=
  rfl

/-- Lines are the same code when their front parts and the rests are. -/
theorem SameCode.append {a b c d : List String} (front : SameCode a b) (behind : SameCode c d) :
    SameCode (a ++ c) (b ++ d) := by
  rw [SameCode, code_unlines_append, code_unlines_append, front, behind]

/-- A line of documentation is a comment, and one line. -/
theorem isComment_docLine {line : String} (feed : '\n' ∉ line.toList) :
    isComment (docLine line).toList = true ∧ '\n' ∉ (docLine line).toList := by
  rw [docLine]
  split
  next => exact ⟨by decide, by decide⟩
  next =>
    have marks : "/// ".toList = ['/', '/', '/', ' '] := rfl
    rw [String.toList_append, marks]
    refine ⟨isComment_append (by decide) _, ?_⟩
    rw [List.mem_append, not_or]
    exact ⟨by decide, feed⟩

/-- Documentation has no code. -/
theorem code_docLines (text : String) : code (unlines (docLines text)) = "" := by
  apply code_unlines_comments
  intro line mem
  obtain ⟨shown, shownMem, rfl⟩ := List.mem_map.1 mem
  exact isComment_docLine (Text.feed_notMem_of_mem_lines shownMem)

/-- Documentation that is set in has no code. -/
theorem code_map_tab_docLines (text : String) :
    code (unlines ((docLines text).map ("\t" ++ ·))) = "" := by
  apply code_unlines_comments
  intro line mem
  obtain ⟨doc, docMem, rfl⟩ := List.mem_map.1 mem
  obtain ⟨shown, shownMem, rfl⟩ := List.mem_map.1 docMem
  obtain ⟨comment, feed⟩ := isComment_docLine (Text.feed_notMem_of_mem_lines shownMem)
  have tab : "\t".toList = ['\t'] := rfl
  rw [String.toList_append, tab, List.singleton_append, List.mem_cons, not_or]
  refine ⟨?_, by decide, feed⟩
  rw [isComment, List.dropWhile_cons_of_pos (by decide)]
  exact comment

/-- The accessor without the name and the text of its file. -/
def bareProperty (property : Property) : Property :=
  { property with candidate := { property.candidate with fileName := "", text := none } }

/-- The declaration without the extension of its resources. -/
def bareSite (site : Declaration.Site) : Declaration.Site :=
  { site with arguments := { site.arguments with extension := "" } }

/-- The plan without what only the documentation shows: the names and texts of files, the folder, the
extension, and whether texts are shown. -/
def bare (plan : Plan) : Plan :=
  { plan with
    site := bareSite plan.site
    searchFolder := ""
    properties := plan.properties.map bareProperty
    isDesignTime := false }

section Artifacts

variable {one other : Plan}

/-- Accessors with the same names for the same resources have the same code. -/
theorem sameCode_accessorLines {first second : Property}
    (visibility : one.site.accessorVisibility = other.site.accessorVisibility)
    (name : first.name = second.name)
    (resource : first.candidate.resourceName = second.candidate.resourceName) :
    SameCode (accessorLines one first) (accessorLines other second) := by
  rw [accessorLines, accessorLines, visibility, name, resource]
  refine SameCode.append (.append (.refl _) ?_) (.refl _)
  rw [SameCode, code_map_tab_docLines, code_map_tab_docLines]

/-- The accessors of plans that are alike have the same code. -/
theorem sameCode_flatMap_accessorLines {these those : List Property}
    (visibility : one.site.accessorVisibility = other.site.accessorVisibility)
    (alike : these.map bareProperty = those.map bareProperty) :
    SameCode (these.flatMap (accessorLines one)) (those.flatMap (accessorLines other)) := by
  induction these generalizing those with
  | nil =>
    cases those with
    | nil => exact .refl []
    | cons second rest => cases alike
  | cons first rest ih =>
    cases those with
    | nil => cases alike
    | cons second others =>
      obtain ⟨same, later⟩ := List.cons.inj alike
      rw [List.flatMap_cons, List.flatMap_cons]
      have name : first.name = second.name := (congrArg Property.name same :)
      have resource : first.candidate.resourceName = second.candidate.resourceName :=
        (congrArg (fun property => property.candidate.resourceName) same :)
      exact (sameCode_accessorLines visibility name resource).append (ih later)

/-- What the code repeats of a declaration does not depend on the extension of its resources. -/
theorem sameShown_of_bareSite {first second : Declaration.Site} (alike : bareSite first = bareSite second) :
    first.selfType = second.selfType ∧ first.implGenerics = second.implGenerics ∧
      first.whereClause = second.whereClause ∧ first.cfgAttributes = second.cfgAttributes ∧
      first.accessorVisibility = second.accessorVisibility ∧
      first.arguments.beforeRead = second.arguments.beforeRead ∧
      first.arguments.afterRead = second.arguments.afterRead :=
  ⟨(congrArg Declaration.Site.selfType alike :), (congrArg Declaration.Site.implGenerics alike :),
    (congrArg Declaration.Site.whereClause alike :), (congrArg Declaration.Site.cfgAttributes alike :),
    (congrArg Declaration.Site.accessorVisibility alike :),
    (congrArg (fun site => site.arguments.beforeRead) alike :),
    (congrArg (fun site => site.arguments.afterRead) alike :)⟩

/-- Artifacts of plans that differ only in what the documentation shows have the same code, whatever texts
and names it shows. -/
theorem code_accessors_eq (alike : bare one = bare other) :
    code (accessors one) = code (accessors other) := by
  obtain ⟨selfType, generics, whereClause, conditions, visibility, before, after⟩ :=
    sameShown_of_bareSite (congrArg Plan.site alike)
  have accessors := sameCode_flatMap_accessorLines visibility (congrArg Plan.properties alike)
  have summaries : SameCode (docLines (summary one)) (docLines (summary other)) := by
    rw [SameCode, code_docLines, code_docLines]
  change SameCode (accessorsLines one) (accessorsLines other)
  rw [accessorsLines, accessorsLines, selfType, generics, whereClause, conditions, before, after]
  exact (((((SameCode.refl _).append summaries).append (.refl _)).append (.refl _)).append
    accessors).append (.refl _)

end Artifacts

/-- The plan of a type with one resource, which is seen in a folder with a name and a text. -/
def notesPlan (folder fileName extension : String) (text : Option String) (isDesignTime : Bool) : Plan where
  site :=
    { name := "Notes", modulePath := [], sourceFile := ⟨"/crate/src/lib.rs"⟩, visibility := .everywhere
      kind := .unitStruct, implGenerics := "", typeGenerics := "", whereClause := "", genericNames := []
      cfg := [], arguments := ⟨extension, "Notes", none, none⟩ }
  searchPath := ⟨"/crate/src/Notes"⟩
  searchFolder := folder
  properties := [⟨"First", ⟨⟨"/crate/src/Notes/first.txt"⟩, fileName, "notes/first.txt", text⟩⟩]
  isDesignTime := isDesignTime

/-- The characters of some lines are theirs, each with its end. -/
theorem toList_unlines (lines : List String) :
    (unlines lines).toList = lines.flatMap fun line => line.toList ++ ['\n'] := by
  induction lines with
  | nil => rfl
  | cons line rest ih =>
    have feed : "\n".toList = ['\n'] := rfl
    rw [unlines_cons, String.toList_append, String.toList_append, feed, ih, List.flatMap_cons]

/-- Names and texts with line breaks, fences and code in them change the artifact but not its code. -/
theorem code_accessors_eq_notesPlan :
    let quiet := notesPlan "src/Notes" "first.txt" ".txt" none true
    let loud := notesPlan "`\nfn a() \x7b\x7d" "\r\n\x7d\x7d\nfn b() \x7b\x7d //" "\n\t/**/ \"" (some
      "```\r*/\r\nfn c() \x7b\x7d\n\n///\u2028fn d()\n") false
    bare quiet = bare loud ∧ accessors quiet ≠ accessors loud ∧
      code (accessors quiet) = code (accessors loud) := by
  refine ⟨rfl, fun same => ?_, code_accessors_eq rfl⟩
  have shown := congrArg String.toList same
  rw [accessors, accessors, toList_unlines, toList_unlines] at shown
  revert shown
  decide +kernel

end Render

end ResourceAccessors
