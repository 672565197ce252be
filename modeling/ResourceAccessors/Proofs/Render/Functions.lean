import ResourceAccessors.Proofs.Render.Preview
import ResourceAccessors.Proofs.Text.Quoted

/-!
# The functions of an artifact

An artifact defines one function for each accessor of its plan. They are read off its text: the functions of
the `impl` block stand behind the constant with the hooks, each begun by a line with its visibility and name.
-/

namespace ResourceAccessors.Render

open Generation

/-! ### Functions of a text -/

/-- What stands in front of the name of a function, for each visibility. -/
def functionMarks : List String :=
  ["\tfn ", "\tpub fn ", "\tpub(crate) fn "]

/-- The name of the function that a line in an `impl` block begins. -/
def functionName? (line : List Char) : Option String :=
  (functionMarks.findSome? fun marks => Syntax.afterText? marks.toList line).map
    fun rest => String.ofList (rest.takeWhile Text.continuesIdentifier)

/-- The line that ends the constant with the hooks. -/
def hooksEnd : String :=
  "\t\x7d;"

/-- The lines behind the last one that ends the constant with the hooks. -/
def functionLines (text : String) : List (List Char) :=
  ((rawLines text.toList).reverse.takeWhile (· ≠ hooksEnd.toList ++ ['\n'])).reverse

/-- The names of the functions of an `impl` block, in their order. -/
def functionNames (text : String) : List String :=
  (functionLines text).filterMap functionName?

/-! ### Lines of a text -/

/-- Lines one after the other have their own lines one after the other. -/
theorem rawLines_unlines_append (front behind : List String) :
    rawLines (unlines (front ++ behind)).toList =
      rawLines (unlines front).toList ++ rawLines (unlines behind).toList := by
  induction front with
  | nil => rfl
  | cons line rest ih =>
    have cut (others : List String) : rawLines (unlines (line :: others)).toList =
        rawLines (line.toList ++ ['\n']) ++ rawLines (unlines others).toList := by
      rw [toList_unlines, List.flatMap_cons, ← toList_unlines, List.append_assoc,
        List.singleton_append, rawLines_append_feed]
    rw [List.cons_append, cut, cut, ih, List.append_assoc]

/-- Lines without line feeds are the lines of their text. -/
theorem rawLines_unlines {lines : List String} (feed : ∀ line ∈ lines, '\n' ∉ line.toList) :
    rawLines (unlines lines).toList = lines.map fun line => line.toList ++ ['\n'] := by
  induction lines with
  | nil => rfl
  | cons line rest ih =>
    have one := rawLines_of_feed_notMem (feed line List.mem_cons_self)
    have later := ih fun other mem => feed other (List.mem_cons_of_mem _ mem)
    have split : unlines (line :: rest) = unlines ([line] ++ rest) := rfl
    rw [split, rawLines_unlines_append, later]
    simp [toList_unlines, one]

/-- What stands behind the constant with the hooks, where no line ends it once more. -/
theorem functionLines_unlines (front : List String) {body : List String}
    (feed : ∀ line ∈ body, '\n' ∉ line.toList) (apart : hooksEnd ∉ body) :
    functionLines (unlines (front ++ [hooksEnd] ++ body)) =
      body.map fun line => line.toList ++ ['\n'] := by
  have hooks : rawLines (unlines [hooksEnd]).toList = [hooksEnd.toList ++ ['\n']] :=
    rawLines_unlines (by decide)
  have others : ∀ line ∈ (body.map fun line => line.toList ++ ['\n']).reverse,
      decide (line ≠ hooksEnd.toList ++ ['\n']) = true := by
    intro line mem
    obtain ⟨text, textMem, rfl⟩ := List.mem_map.1 (List.mem_reverse.1 mem)
    have differs : text ≠ hooksEnd := fun same => apart (same ▸ textMem)
    simpa [String.toList_inj] using differs
  rw [functionLines, rawLines_unlines_append, rawLines_unlines_append, hooks, rawLines_unlines feed,
    List.reverse_append, List.reverse_append, List.takeWhile_append_of_pos others]
  simp

/-! ### Lines of an accessor -/

/-- No function begins behind a tab with another character. -/
theorem functionName?_of_ne {c : Char} (other : c ∉ ['f', 'p']) (rest : List Char) :
    functionName? ('\t' :: c :: rest) = none := by
  simp only [List.mem_cons, List.not_mem_nil, or_false, not_or] at other
  simp [functionName?, functionMarks, Syntax.afterText?, Ne.symm other.1, Ne.symm other.2]

/-- A line of its own that neither begins a function nor ends the constant with the hooks. -/
structure Quiet (line : String) : Prop where
  feed : '\n' ∉ line.toList
  notHooksEnd : line ≠ hooksEnd
  noFunction : functionName? (line.toList ++ ['\n']) = none

/-- A line behind a tab is quiet when its first character begins neither a function nor the end. -/
theorem Quiet.of_tab {line : String} {c : Char} {rest : List Char} (feed : '\n' ∉ line.toList)
    (starts : line.toList = '\t' :: c :: rest) (other : c ∉ ['f', 'p', '\x7d']) : Quiet line := by
  simp only [List.mem_cons, List.not_mem_nil, or_false, not_or] at other
  refine ⟨feed, ?_, ?_⟩
  · rintro rfl
    obtain ⟨-, closing, -⟩ : '\t' = '\t' ∧ '\x7d' = c ∧ [';'] = rest := by
      simpa [hooksEnd] using starts
    exact other.2.2 closing.symm
  · rw [starts]
    exact functionName?_of_ne (by simp [other]) _

/-- The line that begins the function of an accessor. -/
def functionLine (plan : Plan) (property : Property) : String :=
  "\t" ++ plan.site.accessorVisibility ++ "fn " ++ property.name ++
    "() -> ::embedres::ResourceResult<::std::string::String> \x7b"

/-- The lines of the function of an accessor behind the first one. -/
def functionBody (property : Property) : List String :=
  ["\t\tstatic BACKING_SLOT: ::embedres::BackingSlot = ::embedres::BackingSlot::new();",
   "\t\tconst RESOURCE_NAME: &str = " ++ Text.quote property.candidate.resourceName ++ ";",
   "",
   "\t\tBACKING_SLOT.load(",
   "\t\t\tRESOURCE_NAME,",
   "\t\t\t" ++ Text.quote property.name ++ ",",
   "\t\t\t&Self::EMBEDDED_RESOURCE_HOOKS,",
   "\t\t\tcrate::__embedded_resources::read,",
   "\t\t)",
   "\t\x7d"]

/-- The lines of an accessor are its documentation, its first line and its body. -/
theorem accessorLines_eq (plan : Plan) (property : Property) :
    accessorLines plan property = ("" :: (documentation plan property).map ("\t" ++ ·)) ++
      functionLine plan property :: functionBody property := by
  unfold accessorLines functionLine functionBody documentation
  simp only [List.cons_append, List.nil_append]

/-- An empty line declares nothing. -/
theorem quiet_empty : Quiet "" :=
  ⟨by decide, by decide, by decide⟩

/-- The documentation of an accessor is quiet. -/
theorem quiet_of_mem_documentation {plan : Plan} {property : Property} {line : String}
    (mem : line ∈ documentation plan property) : Quiet ("\t" ++ line) := by
  obtain ⟨shown, shownMem, rfl⟩ := List.mem_map.1 mem
  have feed := (isComment_docLine (Text.feed_notMem_of_mem_lines shownMem)).2
  have tab : ("\t" ++ docLine shown).toList = '\t' :: (docLine shown).toList := String.toList_append
  refine Quiet.of_tab ?_ (tab.trans (congrArg _ (toList_docLine shown))) (by decide)
  simp [tab, feed]

/-- The body of a function is quiet. -/
theorem quiet_of_mem_functionBody {property : Property} {line : String}
    (mem : line ∈ functionBody property) : Quiet line := by
  have quoted {front text behind : String} {rest : List Char}
      (starts : front.toList = '\t' :: '\t' :: rest) (plain : '\n' ∉ front.toList ++ behind.toList) :
      Quiet (front ++ Text.quote text ++ behind) := by
    have feed := Text.feed_notMem_quote text
    rw [List.mem_append, not_or] at plain
    have opens : (front ++ Text.quote text ++ behind).toList =
        '\t' :: '\t' :: (rest ++ (Text.quote text).toList ++ behind.toList) := by
      simp [starts]
    exact Quiet.of_tab (by simp [plain, feed]) opens (by decide)
  simp only [functionBody, List.mem_cons, List.not_mem_nil, or_false] at mem
  rcases mem with rfl | rfl | rfl | rfl | rfl | rfl | rfl | rfl | rfl | rfl
  · exact .of_tab (by simp) rfl (by decide)
  · exact quoted rfl (by simp)
  · exact quiet_empty
  · exact .of_tab (by simp) rfl (by decide)
  · exact .of_tab (by simp) rfl (by decide)
  · exact quoted rfl (by simp)
  · exact .of_tab (by simp) rfl (by decide)
  · exact .of_tab (by simp) rfl (by decide)
  · exact .of_tab (by simp) rfl (by decide)
  · exact ⟨by decide, by decide, by decide⟩

/-- The function of an accessor has its name. -/
theorem functionName?_functionLine (plan : Plan) {property : Property}
    (continues : ∀ c ∈ property.name.toList, Text.continuesIdentifier c = true) :
    functionName? ((functionLine plan property).toList ++ ['\n']) = some property.name := by
  obtain ⟨signature, opening⟩ : ∃ signature,
      "() -> ::embedres::ResourceResult<::std::string::String> \x7b".toList = '(' :: signature :=
    ⟨_, rfl⟩
  have stop : Text.continuesIdentifier '(' = false := by decide +kernel
  have name : (property.name.toList ++ '(' :: (signature ++ ['\n'])).takeWhile Text.continuesIdentifier =
      property.name.toList := by
    rw [List.takeWhile_append_of_pos continues, List.takeWhile_cons, stop]
    simp
  have read (visibility : String) (known : visibility = "pub " ∨ visibility = "pub(crate) ") :
      functionMarks.findSome? (fun marks => Syntax.afterText? marks.toList
        ('\t' :: (visibility.toList ++ ("fn ".toList ++ (property.name.toList ++
          '(' :: (signature ++ ['\n'])))))) =
        some (property.name.toList ++ '(' :: (signature ++ ['\n'])) := by
    rcases known with rfl | rfl <;> simp [functionMarks, Syntax.afterText?]
  have known : plan.site.accessorVisibility = "pub " ∨ plan.site.accessorVisibility = "pub(crate) " := by
    rw [Declaration.Site.accessorVisibility]
    split <;> simp
  have chars : (functionLine plan property).toList ++ ['\n'] =
      '\t' :: (plan.site.accessorVisibility.toList ++ ("fn ".toList ++ (property.name.toList ++
        '(' :: (signature ++ ['\n'])))) := by
    simp only [functionLine, String.toList_append, opening, List.append_assoc]
    rfl
  rw [functionName?, chars, read _ known, Option.map_some, name, String.ofList_toList]

/-- The line that begins a function is one line, and does not end the constant with the hooks. -/
theorem functionLine_plain (plan : Plan) {property : Property}
    (continues : ∀ c ∈ property.name.toList, Text.continuesIdentifier c = true) :
    '\n' ∉ (functionLine plan property).toList ∧ functionLine plan property ≠ hooksEnd := by
  constructor
  · have name : '\n' ∉ property.name.toList := fun mem =>
      absurd (continues _ mem) (by decide +kernel)
    have visibility : '\n' ∉ plan.site.accessorVisibility.toList := by
      rw [Declaration.Site.accessorVisibility]
      split <;> decide
    simp [functionLine, name, visibility]
  · intro same
    have named := functionName?_functionLine plan continues
    have none : functionName? (hooksEnd.toList ++ ['\n']) = none := by decide
    rw [same, none] at named
    cases named

/-- The lines of an accessor besides the one that begins its function. -/
theorem mem_accessorLines {plan : Plan} {property : Property} {line : String}
    (mem : line ∈ accessorLines plan property) : line = functionLine plan property ∨ Quiet line := by
  rw [accessorLines_eq, List.mem_append, List.mem_cons, List.mem_cons] at mem
  rcases mem with (rfl | doc) | first | body
  · exact .inr quiet_empty
  · obtain ⟨shown, shownMem, rfl⟩ := List.mem_map.1 doc
    exact .inr (quiet_of_mem_documentation shownMem)
  · exact .inl first
  · exact .inr (quiet_of_mem_functionBody body)

/-- The lines of an accessor begin one function, which has its name. -/
theorem filterMap_accessorLines (plan : Plan) {property : Property}
    (continues : ∀ c ∈ property.name.toList, Text.continuesIdentifier c = true) :
    (accessorLines plan property).filterMap (fun line => functionName? (line.toList ++ ['\n'])) =
      [property.name] := by
  have none {lines : List String} (quiet : ∀ line ∈ lines, Quiet line) :
      lines.filterMap (fun line => functionName? (line.toList ++ ['\n'])) = [] :=
    List.filterMap_eq_nil_iff.2 fun line mem => (quiet line mem).noFunction
  have before : ∀ line ∈ "" :: (documentation plan property).map ("\t" ++ ·), Quiet line :=
    List.forall_mem_cons.2 ⟨quiet_empty, List.forall_mem_map.2 fun _ => quiet_of_mem_documentation⟩
  have behind : ∀ line ∈ functionBody property, Quiet line := fun _ => quiet_of_mem_functionBody
  have named := functionName?_functionLine plan continues
  rw [accessorLines_eq, List.filterMap_append, none before, List.filterMap_cons, named, none behind]
  rfl

/-- The artifact of a plan defines the accessors of the plan, in their order. -/
theorem functionNames_accessors {plan : Plan} (continues : ∀ property ∈ plan.properties,
    ∀ c ∈ property.name.toList, Text.continuesIdentifier c = true) :
    functionNames (accessors plan) = plan.properties.map Property.name := by
  obtain ⟨front, split⟩ : ∃ front, accessorsLines plan = front ++ [hooksEnd] ++
      (plan.properties.flatMap (accessorLines plan) ++ ["\x7d"]) := by
    have last (a b c d e f g : String) : [a, b, c, d, e, f, g] = [a, b, c, d, e, f] ++ [g] := rfl
    unfold accessorsLines
    dsimp only
    rw [last, ← List.append_assoc, List.append_assoc _ _ ["\x7d"]]
    exact ⟨_, rfl⟩
  have plain : ∀ line ∈ plan.properties.flatMap (accessorLines plan) ++ ["\x7d"],
      '\n' ∉ line.toList ∧ line ≠ hooksEnd := by
    intro line mem
    rcases List.mem_append.1 mem with inAccessor | closing
    · obtain ⟨property, propertyMem, lineMem⟩ := List.mem_flatMap.1 inAccessor
      rcases mem_accessorLines lineMem with rfl | quiet
      · exact functionLine_plain plan (continues property propertyMem)
      · exact ⟨quiet.feed, quiet.notHooksEnd⟩
    · rw [List.mem_singleton.1 closing]
      decide
  have ends : functionName? ['\x7d', '\n'] = none := rfl
  have each : ∀ property ∈ plan.properties,
      (accessorLines plan property).filterMap (functionName? ∘ fun line => line.toList ++ ['\n']) =
        [property.name] :=
    fun property mem => filterMap_accessorLines plan (continues property mem)
  rw [functionNames, accessors, split, functionLines_unlines front (fun line mem => (plain line mem).1)
    (fun mem => (plain _ mem).2 rfl), List.filterMap_map, List.filterMap_append, List.filterMap_flatMap,
    List.flatMap_def, List.map_congr_left each, ← List.flatMap_def, ← List.map_eq_flatMap]
  simp [ends]

end ResourceAccessors.Render
