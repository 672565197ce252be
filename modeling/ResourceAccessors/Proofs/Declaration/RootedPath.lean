import ResourceAccessors.Proofs.Declaration.SearchPath
import ResourceAccessors.Proofs.FilePath.Canonical
import ResourceAccessors.Proofs.FilePath.Moved

/-!
# Search paths from the project folder

A configured path with a slash in front, and no `..` in it, leads from the project folder to the names
between its slashes, wherever the source file lies. The exception are two slashes in front: behind the
first one stands a path from the root then, and joining gives up the project folder for it.
-/

namespace ResourceAccessors

namespace FilePath

/-- The parts of a text between its slashes, without the empty ones and the dots. -/
def partsOf (text : String) : List String :=
  ((text.toList.splitOn '/').filter fun part => part ≠ [] ∧ part ≠ ['.']).map String.ofList

/-- The pieces stand for their texts when none of them is a `..`. -/
theorem filterMap_ofPiece?_of_direct {parts : List (List Char)}
    (direct : ".." ∉ (parts.filter fun part => part ≠ [] ∧ part ≠ ['.']).map String.ofList) :
    parts.filterMap Component.ofPiece? =
      ((parts.filter fun part => part ≠ [] ∧ part ≠ ['.']).map String.ofList).map
        Component.name := by
  induction parts with
  | nil => rfl
  | cons first rest inductionHypothesis =>
    by_cases ignored : first = [] ∨ first = ['.']
    · have nothing : Component.ofPiece? first = none := by rw [Component.ofPiece?, if_pos ignored]
      have left : ¬ (first ≠ [] ∧ first ≠ ['.']) := fun kept => ignored.elim kept.1 kept.2
      rw [List.filter_cons_of_neg (by rwa [decide_eq_true_iff])] at direct ⊢
      rw [List.filterMap_cons_none nothing, inductionHypothesis direct]
    · have kept : first ≠ [] ∧ first ≠ ['.'] := not_or.1 ignored
      rw [List.filter_cons_of_pos (by rwa [decide_eq_true_iff]), List.map_cons] at direct ⊢
      have notParent : first ≠ ['.', '.'] := by
        rintro rfl
        exact direct List.mem_cons_self
      have stands : Component.ofPiece? first = some (.name (String.ofList first)) := by
        rw [Component.ofPiece?, if_neg ignored, if_neg notParent]
      rw [List.filterMap_cons_some stands, List.map_cons,
        inductionHypothesis fun mem => direct (List.mem_cons_of_mem _ mem)]

/-- The steps of a path without `..` are the parts of its text. -/
theorem relativeSteps_of_direct {text : String} (direct : ".." ∉ partsOf text) :
    relativeSteps ⟨text⟩ = (partsOf text).map Component.name := by
  rw [relativeSteps, pieces_eq_splitOn]
  exact filterMap_ofPiece?_of_direct direct

/-- The parts of a text can be the names of entries. -/
theorem isName_of_mem_partsOf {text : String} (direct : ".." ∉ partsOf text) :
    ∀ name ∈ (partsOf text).map Component.name, name.IsName := by
  rw [← relativeSteps_of_direct direct]
  refine isName_of_isStep (fun _ => isStep_of_mem_relativeSteps) ?_
  rw [relativeSteps_of_direct direct]
  simp

/-- A slash in front adds no step. -/
theorem relativeSteps_slash_cons (rest : List Char) :
    relativeSteps ⟨String.ofList ('/' :: rest)⟩ = relativeSteps ⟨String.ofList rest⟩ := by
  simp [relativeSteps, pieces, Component.ofPiece?]

/-- A path that starts at the root has the root and its steps as components. -/
theorem components_of_isAbsolute {path : FilePath} (absolute : path.isAbsolute = true) :
    path.components = .root :: path.relativeSteps := by
  rw [components, absolute, relativeSteps]

/-- Names are joined to a normal folder as they are. -/
theorem normalComponents_join {folder added : FilePath} (normal : (folder.normal == folder) = true)
    (relative : added.isAbsolute = false) (names : ∀ name ∈ added.relativeSteps, name.IsName) :
    (folder.join added).normalComponents = folder.components ++ added.relativeSteps := by
  have folded := (normal_beq_iff_isCanonical.1 normal).foldl_components
  rw [normalComponents, foldl_components_join relative, folded, ← relativeSteps, foldl_names names,
    List.reverse_append, List.reverse_reverse, List.reverse_reverse]

end FilePath

namespace Declaration.Site

open FilePath

/-- The declaration looks in the project folder at the parts of its configured path, whatever its
source file is. -/
structure SearchesBelow (site : Site) (projectDir : FilePath) : Prop where
  components : ∀ file, ((site.inFile file).searchPath projectDir).components =
    projectDir.components ++ (partsOf site.arguments.path).map Component.name
  within : ∀ file, ((site.inFile file).searchPath projectDir).IsWithin projectDir

/-- Two slashes stand in front of the configured path. -/
def IsDoubled (site : Site) : Prop :=
  ['/', '/'] <+: site.arguments.path.toList

section Rooted

variable {site : Site} {projectDir : FilePath} {rest : List Char}
  (rooted : site.arguments.path.toList = '/' :: rest)

include rooted

/-- A configured path with a slash in front is joined to the project folder without it. -/
theorem searchPath_of_rooted (file : FilePath) : (site.inFile file).searchPath projectDir =
    (projectDir.join ⟨String.ofList rest⟩).normal := by
  simp only [searchPath, inFile, rooted]

/-- The steps behind the slash are the parts of the configured path. -/
theorem relativeSteps_of_rooted (direct : ".." ∉ partsOf site.arguments.path) :
    relativeSteps ⟨String.ofList rest⟩ = (partsOf site.arguments.path).map Component.name := by
  rw [← relativeSteps_of_direct direct, ← relativeSteps_slash_cons, ← rooted, String.ofList_toList]

/-- Behind two slashes stands a path from the root. -/
theorem components_of_isDoubled (direct : ".." ∉ partsOf site.arguments.path)
    (doubled : site.IsDoubled) (file : FilePath) :
    ((site.inFile file).searchPath projectDir).components =
      .root :: (partsOf site.arguments.path).map Component.name := by
  have absolute : (FilePath.mk (String.ofList rest)).isAbsolute = true := by
    obtain ⟨after, chars⟩ := doubled
    rw [rooted, List.cons_append, List.cons.injEq] at chars
    rw [isAbsolute, String.toList_ofList, ← chars.2]
    rfl
  have names := isName_of_mem_partsOf direct
  rw [searchPath_of_rooted rooted, join, if_pos absolute, components_normal, normalComponents,
    components_of_isAbsolute absolute, relativeSteps_of_rooted rooted direct, List.foldl_cons]
  show (List.foldl Component.foldOnto [.root] _).reverse = _
  rw [foldl_names names]
  simp

/-- Behind one slash the parts are joined to the project folder. -/
theorem components_of_not_isDoubled (direct : ".." ∉ partsOf site.arguments.path)
    (normal : (projectDir.normal == projectDir) = true) (single : ¬ site.IsDoubled)
    (file : FilePath) :
    ((site.inFile file).searchPath projectDir).components =
      projectDir.components ++ (partsOf site.arguments.path).map Component.name := by
  have relative : (FilePath.mk (String.ofList rest)).isAbsolute = false := by
    rw [isAbsolute, String.toList_ofList, beq_eq_false_iff_ne]
    intro slash
    obtain ⟨after, chars⟩ := List.head?_eq_some_iff.1 slash
    exact single ⟨after, by rw [rooted, chars]; rfl⟩
  have steps := relativeSteps_of_rooted rooted direct
  have names := isName_of_mem_partsOf direct
  rw [← steps] at names
  rw [searchPath_of_rooted rooted, components_normal, normalComponents_join normal relative names,
    steps]

end Rooted

/-- A declaration whose configured path starts with a slash and takes no `..` looks in the project
folder at the parts of this path, exactly when the path does not start with two slashes or the project
folder is the root. With two slashes in front it looks at these parts from the root on. -/
theorem searchesBelow_iff {site : Site} {projectDir : FilePath}
    (rooted : site.arguments.path.toList.head? = some '/')
    (direct : ".." ∉ partsOf site.arguments.path) (absolute : projectDir.isAbsolute = true)
    (normal : (projectDir.normal == projectDir) = true) :
    (site.SearchesBelow projectDir ↔ (site.IsDoubled → projectDir.components = [.root])) ∧
      (site.IsDoubled → ∀ file, ((site.inFile file).searchPath projectDir).components =
        .root :: (partsOf site.arguments.path).map Component.name) := by
  obtain ⟨rest, chars⟩ := List.head?_eq_some_iff.1 rooted
  have fromRoot : site.IsDoubled → ∀ file, ((site.inFile file).searchPath projectDir).components =
      .root :: (partsOf site.arguments.path).map Component.name :=
    fun doubled => components_of_isDoubled chars direct doubled
  refine ⟨⟨fun searches doubled => ?_, fun top => ?_⟩, fromRoot⟩
  · have same := (searches.components site.sourceFile).symm.trans
      (fromRoot doubled site.sourceFile)
    rw [components_of_isAbsolute absolute, List.cons_append, List.cons.injEq] at same
    rw [components_of_isAbsolute absolute, List.append_left_eq_self.1 same.2]
  · have components : ∀ file, ((site.inFile file).searchPath projectDir).components =
        projectDir.components ++ (partsOf site.arguments.path).map Component.name := by
      intro file
      by_cases doubled : site.IsDoubled
      · rw [fromRoot doubled, top doubled]
        rfl
      · exact components_of_not_isDoubled chars direct normal doubled file
    refine ⟨components, fun file => ⟨_, isName_of_mem_partsOf direct, ?_⟩⟩
    have plain : ((site.inFile file).searchPath projectDir).plain =
        (site.inFile file).searchPath projectDir := by
      rw [searchPath_of_rooted chars, plain_normal]
    rw [below, ← components file, ← FilePath.plain, plain]

/-- A type whose attribute gives it a path. -/
def withPath (path : String) : Site :=
  { (default : Site) with arguments := { Arguments.default "Notes" with path } }

/-- A path with repeated slashes and a step in place is searched below the project. -/
theorem searchesBelow_iff_repeatedSlashes :
    (withPath "/a//./b/").arguments.path.toList.head? = some '/' ∧
      ".." ∉ partsOf (withPath "/a//./b/").arguments.path ∧
      (FilePath.mk "/project/").isAbsolute = true ∧
      ((FilePath.mk "/project/").normal == ⟨"/project/"⟩) = true ∧
      (withPath "/a//./b/").SearchesBelow ⟨"/project/"⟩ ∧
      ((withPath "/a//./b/").searchPath ⟨"/project/"⟩).text = "/project/a/b" := by
  have direct : ".." ∉ partsOf (withPath "/a//./b/").arguments.path := by decide
  have single : ¬ (withPath "/a//./b/").IsDoubled := by
    rw [IsDoubled]
    decide
  have normal : ((FilePath.mk "/project/").normal == ⟨"/project/"⟩) = true := by decide
  have searches : (withPath "/a//./b/").SearchesBelow ⟨"/project/"⟩ :=
    (searchesBelow_iff rfl direct rfl normal).1.2 fun doubled => absurd doubled single
  exact ⟨rfl, direct, rfl, normal, searches, by decide⟩

/-- With two slashes in front the project folder is left. -/
theorem not_searchesBelow_doubledSlash :
    (withPath "//etc").arguments.path.toList.head? = some '/' ∧
      ".." ∉ partsOf (withPath "//etc").arguments.path ∧
      (FilePath.mk "/project").IsAnchored ∧
      ((withPath "//etc").searchPath ⟨"/project"⟩).text = "/etc" ∧
      ¬ (withPath "//etc").SearchesBelow ⟨"/project"⟩ := by
  refine ⟨rfl, by decide, by decide, by decide, fun searches => ?_⟩
  have components := searches.components ⟨"/project/src/lib.rs"⟩
  revert components
  decide

end Declaration.Site

end ResourceAccessors
