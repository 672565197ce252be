import ResourceAccessors.Declaration.Extraction
import ResourceAccessors.Proofs.FilePath.Moved

/-!
# Sites, their file and the project folder

The file in which a declaration stands is recorded with its site and has no other influence on what
is found.

A declaration whose configured path stays inside the project folder looks for resources at a place
below this folder, and at the same place when the project is moved.
-/

namespace ResourceAccessors.Declaration

open Syntax

/-- The site as it would be found in another file. -/
def Site.inFile (site : Site) (file : FilePath) : Site :=
  { site with sourceFile := file }

/-- The site of a declared type is the same in every file. -/
theorem value_siteOf? (place : Place) (file : FilePath) (declared : Container) :
    (siteOf? { place with file } declared).value =
      (siteOf? place declared).value.map (·.inFile file) := by
  simp only [siteOf?]
  cases declared.attributes.find? isMarker with
  | none => rfl
  | some marker => rfl

mutual

/-- The sites of an item are the same in every file. -/
theorem value_sitesOfItem (place : Place) (file : FilePath) (item : Item) :
    (sitesOfItem { place with file } item).value =
      (sitesOfItem place item).value.map (·.inFile file) := by
  cases item with
  | container declared =>
    simp only [sitesOfItem, Warned.value_bind, Warned.value_pure, value_siteOf?]
    cases (siteOf? place declared).value <;> rfl
  | module attributes name items =>
    cases items with
    | none => rfl
    | some items =>
      simp only [sitesOfItem, Warned.value_bind]
      exact value_sitesOfItems
        ⟨place.file, place.modulePath ++ [unraw name], (predicatesWith place.cfg attributes).value⟩
        file items
  | other => rfl

/-- The sites of items are the same in every file. -/
theorem value_sitesOfItems (place : Place) (file : FilePath) (items : List Item) :
    (sitesOfItems { place with file } items).value =
      (sitesOfItems place items).value.map (·.inFile file) := by
  cases items with
  | nil => rfl
  | cons first rest =>
    have ofFirst := value_sitesOfItem place file first
    have ofRest := value_sitesOfItems place file rest
    simp only [sitesOfItems, Warned.value_bind, Warned.value_pure, ofFirst, ofRest,
      List.map_append]

end

/-- The sites in a text are the same in every file. -/
theorem value_sitesOf (other file : FilePath) (modulePath : List String) (text : String) :
    (sitesOf file modulePath text).value =
      (sitesOf other modulePath text).value.map (·.inFile file) := by
  simp only [sitesOf]
  cases itemsOfFile? text with
  | none => rfl
  | some items => exact value_sitesOfItems ⟨other, modulePath, []⟩ file items

/-- Every site in a text records the file of the text. -/
theorem sourceFile_of_mem_sitesOf {file : FilePath} {modulePath : List String} {text : String}
    {site : Site} (mem : site ∈ (sitesOf file modulePath text).value) : site.sourceFile = file := by
  rw [value_sitesOf file] at mem
  obtain ⟨found, -, rfl⟩ := List.mem_map.1 mem
  rfl

end ResourceAccessors.Declaration

namespace ResourceAccessors.Declaration.Site

/-- How many names below the project folder the configured path starts. -/
def startDepth (site : Site) (projectDir : FilePath) : Nat :=
  match site.arguments.path.toList with
  | '/' :: _ => 0
  | _ =>
    (site.sourceFile.parent?.getD projectDir).components.length - projectDir.components.length

/-- The configured path of a type does not leave the project folder: it names no place from the root
on, and takes no `..` at the project folder. -/
structure StaysInside (site : Site) (projectDir : FilePath) : Prop where
  relative : ¬ ['/', '/'] <+: site.arguments.path.toList
  inside : FilePath.climbs (site.startDepth projectDir)
    (FilePath.relativeSteps ⟨site.arguments.path⟩) = false

instance (site : Site) (projectDir : FilePath) : Decidable (site.StaysInside projectDir) :=
  decidable_of_iff (¬ ['/', '/'] <+: site.arguments.path.toList ∧
      FilePath.climbs (site.startDepth projectDir)
        (FilePath.relativeSteps ⟨site.arguments.path⟩) = false)
    ⟨fun ⟨relative, inside⟩ => ⟨relative, inside⟩, fun ⟨relative, inside⟩ => ⟨relative, inside⟩⟩

/-- The configured path is joined to the project folder or to that of the source, as a path that does
not start at the root. -/
theorem StaysInside.exists_added {site : Site} {projectDir : FilePath}
    (stays : site.StaysInside projectDir) :
    ∃ added : FilePath, added.isAbsolute = false ∧
      added.relativeSteps = FilePath.relativeSteps ⟨site.arguments.path⟩ ∧
      ∀ (file folder : FilePath), (site.inFile file).searchPath folder =
        (((if site.arguments.path.toList.head? = some '/' then folder
          else file.parent?.getD folder).join added).normal) := by
  have relative := stays.relative
  cases chars : site.arguments.path.toList with
  | nil =>
    refine ⟨⟨String.ofList []⟩, rfl, ?_, fun file folder => ?_⟩
    · rw [FilePath.relativeSteps, FilePath.relativeSteps, chars]
      rfl
    · simp only [searchPath, inFile, chars]
      rfl
  | cons first rest =>
    rw [chars] at relative
    by_cases slash : first = '/'
    · subst slash
      refine ⟨⟨String.ofList rest⟩, ?_, ?_, fun file folder => ?_⟩
      · cases rest with
        | nil => rfl
        | cons second others =>
          have notSlash : second ≠ '/' := by
            rintro rfl
            exact relative (by simp)
          simpa [FilePath.isAbsolute] using notSlash
      · rw [FilePath.relativeSteps, FilePath.relativeSteps, chars, String.toList_ofList]
        simp [FilePath.pieces, FilePath.Component.ofPiece?]
      · simp only [searchPath, inFile, chars]
        rfl
    · refine ⟨⟨String.ofList (first :: rest)⟩, ?_, ?_, fun file folder => ?_⟩
      · simpa [FilePath.isAbsolute] using slash
      · rw [FilePath.relativeSteps, FilePath.relativeSteps, chars, String.toList_ofList]
      · simp only [searchPath, inFile, chars]
        split
        next absolute => exact absurd (List.cons.inj absolute).1 slash
        next => simp [slash]

/-- Wherever the project lies, the configured path is followed from one place in its folder, which it
does not leave. -/
theorem StaysInside.exists_start {site : Site} {source : FilePath} (stays : site.StaysInside source)
    (liesBelow : site.sourceFile.LiesBelow source) (anchored : source.IsAnchored) :
    ∃ (start : List FilePath.Component) (added : FilePath), (∀ name ∈ start, name.IsName) ∧
      added.isAbsolute = false ∧ FilePath.climbs start.length added.relativeSteps = false ∧
      ∀ folder : FilePath, folder.IsAnchored →
        (site.inFile (site.sourceFile.moved source folder)).searchPath folder =
          ((folder.below start).join added).normal := by
  obtain ⟨added, relative, steps, searched⟩ := stays.exists_added
  obtain ⟨front, last, names, file⟩ := liesBelow.exists_steps anchored
  have frontNames : ∀ name ∈ front, name.IsName :=
    fun name mem => names name (List.mem_append_left _ mem)
  have inside := stays.inside
  rw [← steps] at inside
  by_cases slash : site.arguments.path.toList.head? = some '/'
  · have depth : site.startDepth source = 0 := by
      obtain ⟨rest, chars⟩ := List.head?_eq_some_iff.1 slash
      rw [startDepth, chars]
      rfl
    rw [depth] at inside
    refine ⟨[], added, by simp, relative, inside, fun folder folderAnchored => ?_⟩
    rw [searched, if_pos slash, folderAnchored.below_nil]
  · have depth : site.startDepth source = front.length := by
      rw [startDepth]
      split
      next rest chars => exact absurd (by rw [chars]; rfl) slash
      next =>
        rw [file, FilePath.parent?_below anchored names, Option.getD_some,
          FilePath.components_below anchored frontNames]
        simp
    rw [depth] at inside
    refine ⟨front, added, frontNames, relative, inside, fun folder folderAnchored => ?_⟩
    rw [searched, if_neg slash, file, FilePath.moved_below anchored names,
      FilePath.parent?_below folderAnchored names, Option.getD_some]

/-- A declaration that stays inside the project folder looks below this folder, and its search path
is moved together with the folder. -/
theorem StaysInside.searchPath_moved {site : Site} {source target : FilePath}
    (stays : site.StaysInside source) (liesBelow : site.sourceFile.LiesBelow source)
    (sourceAnchored : source.IsAnchored) (targetAnchored : target.IsAnchored) :
    (site.searchPath source).IsWithin source ∧
      (site.inFile (site.sourceFile.moved source target)).searchPath target =
        (site.searchPath source).moved source target := by
  obtain ⟨start, added, names, relative, inside, searched⟩ :=
    stays.exists_start liesBelow sourceAnchored
  obtain ⟨reached, reachedNames, leads⟩ :=
    FilePath.exists_normal_join_below relative names inside
  have own : site.searchPath source = source.below reached := by
    have found := searched source sourceAnchored
    rw [(liesBelow.isWithin sourceAnchored).moved_self sourceAnchored,
      leads source sourceAnchored] at found
    exact found
  rw [own, searched target targetAnchored, leads target targetAnchored,
    FilePath.moved_below sourceAnchored reachedNames]
  exact ⟨⟨reached, reachedNames, rfl⟩, rfl⟩

end ResourceAccessors.Declaration.Site
