import Mathlib.Data.List.Basic
import ResourceAccessors.Artifact.Name
import ResourceAccessors.Declaration.ModulePath
import ResourceAccessors.Proofs.Declaration.Marked
import ResourceAccessors.Proofs.FilePath.Child

/-!
# Artifacts are named by entry names

A declared type is shown by names that are plain: they hold no slash, and are read in a path as they are.
So what its artifact is called can be the name of an entry of a folder, and is text.
-/

namespace ResourceAccessors

open FilePath (StandsApart StartsApart EndsApart)
open Syntax

/-! ### Sites -/

namespace Declaration

/-- A site that is shown by plain names. -/
structure Site.NamedPlainly (site : Site) : Prop where
  name : Plain site.name
  modules : ∀ name ∈ site.modulePath, Plain name
  generics : ∀ name ∈ site.genericNames, Plain name

/-- What records a declaration is shown by the names of its modules and its own. -/
theorem Records.namedPlainly {place : Place} {found : Occurrence} {site : Site}
    (records : Records place found site) (wellNamed : found.WellNamed)
    (modules : ∀ name ∈ place.modulePath, Plain name) : site.NamedPlainly where
  name := records.name ▸ wellNamed.name.isPlain.unraw
  modules := by
    intro name mem
    rw [records.modulePath, List.mem_append, List.mem_map] at mem
    rcases mem with outer | ⟨around, inner, rfl⟩
    · exact modules name outer
    · exact (wellNamed.modules around inner).isPlain.unraw
  generics := records.genericNames ▸ wellNamed.generics

/-- The sites in a source are shown by plain names when its module is. -/
theorem namedPlainly_of_mem_sitesOf {file : FilePath} {modulePath : List String} {text : String}
    {site : Site} (modules : ∀ name ∈ modulePath, Plain name)
    (found : site ∈ (sitesOf file modulePath text).value) : site.NamedPlainly := by
  cases parsed : itemsOfFile? text with
  | none =>
    rw [sitesOf, parsed] at found
    cases found
  | some items =>
    obtain ⟨declared, mem, records⟩ := exists_records_of_mem_sitesOf file modulePath parsed found
    exact records.namedPlainly (wellNamed_of_mem_markedInItems parsed declared mem) modules

/-! ### How a site is shown -/

/-- A text that can stand between plain texts: it is plain, and it starts and ends with characters that
are part of no mark. -/
structure Separates (separator : String) : Prop where
  plain : Plain separator
  nonempty : separator.toList ≠ []
  first : StartsApart separator.toList
  last : EndsApart separator.toList

/-- Plain names make a plain text when they are joined by what separates them. -/
theorem Separates.plain_intercalate {separator : String} (separates : Separates separator)
    {names : List String} (plain : ∀ name ∈ names, Plain name) :
    Plain (separator.intercalate names) := by
  induction names with
  | nil =>
    rw [String.intercalate_nil]
    decide
  | cons first rest ih =>
    have later := ih fun name mem => plain name (List.mem_cons_of_mem _ mem)
    have start := plain first List.mem_cons_self
    cases rest with
    | nil => simpa using start
    | cons second others =>
      rw [String.intercalate_cons_cons]
      refine (start.append separates.plain (.inr separates.first)).append later (.inl ?_)
      rw [String.toList_append]
      exact separates.last.append separates.nonempty _

/-- The separator of modules is plain and keeps apart. -/
theorem separates_modules : Separates "::" :=
  ⟨by decide, by decide, by decide, by decide⟩

/-- The separator of generic parameters is plain and keeps apart. -/
theorem separates_generics : Separates "," :=
  ⟨by decide, by decide, by decide, by decide⟩

/-- A site is shown by a plain text. -/
theorem Site.NamedPlainly.display {site : Site} (plain : site.NamedPlainly) :
    Plain site.display := by
  have path : Plain ("::".intercalate (site.modulePath ++ [site.name])) := by
    apply separates_modules.plain_intercalate
    intro name mem
    rcases List.mem_append.1 mem with outer | own
    · exact plain.modules name outer
    · exact List.mem_singleton.1 own ▸ plain.name
  have generics := separates_generics.plain_intercalate plain.generics
  rw [Site.display]
  split
  · exact path
  · refine ((path.append (by decide) (.inr (by decide))).append generics (.inl ?_)).append (by decide)
      (.inr (by decide))
    have opens : EndsApart "<".toList := by decide
    rw [String.toList_append]
    exact opens.append (by decide) _

/-! ### Modules of source files -/

/-- The stem of a source file is plain when its name is. -/
theorem plain_of_sourceStem? {fileName stem : String} (plain : Plain fileName)
    (found : sourceStem? fileName = some stem) : Plain stem := by
  simp only [sourceStem?] at found
  split at found
  · cases found
    apply plain.of_infix
    rw [String.toList_ofList]
    exact (((List.dropLast_prefix _).trans (List.dropLast_prefix _)).trans
      (List.dropLast_prefix _)).isInfix
  · cases found

/-- What lies below a folder that has components is written without slashes. -/
theorem slash_not_mem_of_mem_relativeTo? {file base : FilePath} {relative : List FilePath.Component}
    (below : file.relativeTo? base = some relative)
    (rooted : .root ∈ file.components → base.components ≠ []) :
    ∀ component ∈ relative, '/' ∉ component.spelling.toList := by
  rw [FilePath.relativeTo?] at below
  split at below
  next starts =>
    cases below
    intro component mem
    have wellFormed := FilePath.wellFormed_components file
    generalize file.components = all at *
    cases wellFormed with
    | rooted steps =>
      obtain ⟨first, others, same⟩ := List.exists_cons_of_ne_nil (rooted List.mem_cons_self)
      rw [same, List.length_cons, List.drop_succ_cons] at mem
      exact FilePath.Component.slash_not_mem_spelling (steps component (List.mem_of_mem_drop mem))
    | here steps =>
      rcases List.mem_cons.1 (List.mem_of_mem_drop mem) with rfl | later
      · decide
      · exact FilePath.Component.slash_not_mem_spelling (steps component later)
    | relative steps =>
      exact FilePath.Component.slash_not_mem_spelling (steps component (List.mem_of_mem_drop mem))
  next => cases below

/-- What is shown for a text without slashes is plain. -/
theorem plain_shownText {text : String} (noSlash : '/' ∉ text.toList) :
    Plain (FilePath.shownText text) where
  noSlash mem := noSlash (FilePath.mem_of_mem_shownText (by decide) mem)
  unmarked := FilePath.isTextName_iff.1 (FilePath.isTextName_shownText text)

/-- The module of a source file has plain names. -/
theorem plain_of_mem_modulePath? {sourceRoot file : FilePath} {modulePath : List String}
    (found : modulePath? sourceRoot file = some modulePath)
    (rooted : .root ∈ file.components → sourceRoot.components ≠ []) :
    ∀ name ∈ modulePath, Plain name := by
  obtain ⟨relative, below, found⟩ := Option.bind_eq_some_iff.1 found
  have spelled : ∀ name ∈ relative.map (fun step => FilePath.shownText step.spelling), Plain name := by
    intro name mem
    obtain ⟨component, among, rfl⟩ := List.mem_map.1 mem
    exact plain_shownText (slash_not_mem_of_mem_relativeTo? below rooted component among)
  obtain ⟨fileName, last, found⟩ := Option.bind_eq_some_iff.1 found
  obtain ⟨stem, ends, found⟩ := Option.bind_eq_some_iff.1 found
  have folders : ∀ name ∈ (relative.map fun step => FilePath.shownText step.spelling).dropLast,
      Plain name := fun name mem => spelled name (List.dropLast_subset _ mem)
  have plainStem := plain_of_sourceStem? (spelled fileName (List.mem_of_getLast? last)) ends
  dsimp only at found
  split at found
  · cases found
  · cases found
    rw [moduleOfStem]
    split
    · exact folders
    · split
      · exact folders
      · intro name mem
        rcases List.mem_append.1 mem with outer | own
        · exact folders name outer
        · exact List.mem_singleton.1 own ▸ plainStem

end Declaration

/-! ### Artifacts -/

namespace Artifact

/-- Shortening the separators of modules adds no slash. -/
theorem slash_not_mem_joinModules {chars : List Char} (noSlash : '/' ∉ chars) :
    '/' ∉ joinModules chars := by
  fun_induction joinModules chars with
  | case1 => exact noSlash
  | case2 rest ih =>
    simp only [List.mem_cons, not_or] at noSlash ⊢
    exact ⟨by decide, ih noSlash.2.2⟩
  | case3 c rest notModule ih =>
    simp only [List.mem_cons, not_or] at noSlash ⊢
    exact ⟨noSlash.1, ih noSlash.2⟩

/-- What is first when the separators of modules are shortened was first before, or is a dot. -/
theorem head?_joinModules {c : Char} {chars : List Char} (first : c ∈ (joinModules chars).head?) :
    c = '.' ∨ c ∈ chars.head? := by
  fun_cases joinModules chars with
  | case1 => cases first
  | case2 rest => exact .inl (by simpa [joinModules, eq_comm] using first)
  | case3 other rest notModule => exact .inr (by simpa [joinModules, notModule] using first)

/-- Shortening the separators of modules makes no mark. -/
theorem unmarked_joinModules {chars : List Char} (unmarked : FilePath.Unmarked chars) :
    FilePath.Unmarked (joinModules chars) := by
  have dot : StandsApart '.' := by decide
  fun_induction joinModules chars with
  | case1 => exact .nil
  | case2 rest ih =>
    exact List.isChain_cons.2 ⟨fun next _ => dot.isMark_front next, ih unmarked.tail.tail⟩
  | case3 c rest notModule ih =>
    refine List.isChain_cons.2 ⟨fun next starts => ?_, ih unmarked.tail⟩
    rcases head?_joinModules starts with rfl | first
    · exact dot.isMark_back c
    · exact (List.isChain_cons.1 unmarked).1 next first

/-- Brackets that become underscores make no mark. -/
theorem isMark_flattenBracket {first second : Char} (noMark : FilePath.isMark first second = false) :
    FilePath.isMark (flattenBracket first) (flattenBracket second) = false := by
  have underscore : StandsApart '_' := by decide
  rw [flattenBracket]
  split
  · exact underscore.isMark_front _
  · rw [flattenBracket]
    split
    · exact underscore.isMark_back _
    · exact noMark

/-- The stem of an artifact is plain when the shown type is. -/
theorem plain_stemFor {display : String} (plain : Plain display) : Plain (stemFor display) where
  noSlash := by
    rw [stemFor, String.toList_ofList]
    intro mem
    obtain ⟨c, among, flat⟩ := List.mem_map.1 mem
    rw [flattenBracket] at flat
    split at flat
    · exact absurd flat (by decide)
    · exact slash_not_mem_joinModules plain.noSlash (flat ▸ among)
  unmarked := by
    rw [stemFor, String.toList_ofList, FilePath.Unmarked, List.isChain_map]
    exact (unmarked_joinModules plain.unmarked).imp fun _ _ => isMark_flattenBracket

/-- A number is written plainly. -/
theorem plain_toString (count : Nat) : Plain (toString count) := by
  have digits : ∀ c ∈ (toString count).toList, c.isDigit = true := by
    intro c mem
    rw [Nat.toString_eq_repr, Nat.toList_repr] at mem
    exact Nat.isDigit_of_mem_toDigits (by decide) (by decide) mem
  exact ⟨fun mem => absurd (digits _ mem) (by decide),
    FilePath.unmarked_of_nul_not_mem fun mem => absurd (digits _ mem) (by decide)⟩

/-- Whether a name ends as those of artifacts do. -/
def HasSuffix (name : String) : Prop :=
  suffix.toList <:+ name.toList

instance (name : String) : Decidable (HasSuffix name) :=
  inferInstanceAs (Decidable (suffix.toList <:+ name.toList))

/-- What ends with the suffix of artifacts has it. -/
theorem hasSuffix_append (front : String) : HasSuffix (front ++ suffix) := by
  rw [HasSuffix, String.toList_append]
  exact List.suffix_append _ _

/-- A name that counts as one of an artifact: it is text, and ends as those of artifacts do. -/
def IsRecognized (name : String) : Prop :=
  FilePath.isTextName name = true ∧ HasSuffix name

instance (name : String) : Decidable (IsRecognized name) :=
  inferInstanceAs (Decidable (FilePath.isTextName name = true ∧ HasSuffix name))

/-- A name that an artifact can have. -/
structure IsName (name : String) : Prop where
  entryName : FilePath.IsEntryName name
  recognized : IsRecognized name

instance (name : String) : Decidable (IsName name) :=
  decidable_of_iff (FilePath.IsEntryName name ∧ IsRecognized name)
    ⟨fun ⟨entryName, recognized⟩ => ⟨entryName, recognized⟩,
      fun ⟨entryName, recognized⟩ => ⟨entryName, recognized⟩⟩

/-- What is plain up to the suffix of artifacts is the name of one. -/
theorem isName_of_suffix {front : String} (plain : Plain front) : IsName (front ++ suffix) := by
  have whole : Plain (front ++ suffix) := plain.append (by decide) (.inr (by decide))
  have last : (front ++ suffix).toList.getLast? = some 's' := by
    rw [String.toList_append, List.getLast?_append_of_ne_nil _ (by decide)]
    decide
  have differs : ∀ other : String, other.toList.getLast? ≠ some 's' → front ++ suffix ≠ other := by
    rintro other notLast rfl
    exact notLast last
  refine ⟨?_, FilePath.isTextName_iff.2 whole.unmarked, hasSuffix_append front⟩
  exact ⟨differs _ (by decide), differs _ (by decide), differs _ (by decide), whole.noSlash⟩

/-- The name of the artifact for a type is one. -/
theorem isName_nameFor {display : String} (plain : Plain display) : IsName (nameFor display) :=
  isName_of_suffix (plain_stemFor plain)

/-- A numbered name is one. -/
theorem isName_numberedName {stem : String} (plain : Plain stem) (count : Nat) :
    IsName (numberedName stem count) := by
  refine isName_of_suffix ((plain.append (by decide) (.inr (by decide))).append
    (plain_toString count) (.inl ?_))
  have dot : EndsApart ".".toList := by decide
  rw [String.toList_append]
  exact dot.append (by decide) _

end Artifact

end ResourceAccessors
