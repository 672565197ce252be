import ResourceAccessors.Proofs.Declaration.Marked
import ResourceAccessors.Proofs.Syntax.PathText

/-!
# The path of a declared type

A site names its type by a path from the crate root. The path is made of names from which the sign of a
raw identifier is left out, so it is one only when no module on the way and not the type itself is called
like a word of the language.
-/

namespace ResourceAccessors.Declaration

open Syntax

/-- The path of a declared type from the crate root, without its parameters. -/
def Site.selfPath (site : Site) : String :=
  pathText ("crate" :: site.modulePath ++ [site.name])

/-- The type of a site is its path with its generic arguments. -/
theorem Site.selfType_eq (site : Site) : site.selfType = site.selfPath ++ site.typeGenerics := rfl

/-- The names on the way to a declaration, and its own. -/
def Occurrence.names (found : Occurrence) : List String :=
  found.modules.map (·.name) ++ [found.declared.name]

/-- Whether a text is a path from the crate root whose segments are some names. The sign of a raw
identifier is no part of a name. -/
def Names (text : String) (names : List String) : Prop :=
  ∃ segments, pathOf? text = some ⟨false, false, plainSegments ("crate" :: segments)⟩ ∧
    (∀ segment ∈ segments, IsName segment) ∧ segments.map unraw = names.map unraw

/-! ### Names without the sign of a raw identifier -/

/-- An identifier holds no sign of a raw one. -/
theorem unraw_of_isIdentifier {name : String} (letters : Accessor.IsIdentifier name.toList) :
    unraw name = name := by
  rw [unraw]
  split
  next rest chars =>
    have continues := continues_of_isIdentifier letters '#' (by simp [chars])
    exact absurd continues (by decide)
  next => rfl

/-- The name of a word is an identifier or a word of the language. -/
theorem isIdentifier_unraw {word : String} (isWord : IsWord word) :
    Accessor.IsIdentifier (unraw word).toList := by
  cases isWord with
  | plain letters => rwa [unraw_of_isIdentifier letters]
  | @raw name letters =>
    have chars : ("r#" ++ name).toList = 'r' :: '#' :: name.toList := by
      rw [String.toList_append]
      rfl
    rw [unraw, chars]
    simpa using letters

/-- A path of names from the crate root names them, when none of them is a word of the language. -/
theorem names_pathText_iff {names : List String}
    (letters : ∀ name ∈ names, Accessor.IsIdentifier (unraw name).toList) :
    Names (pathText ("crate" :: names.map unraw)) names ↔
      ∀ name ∈ names, unraw name ∉ keywords := by
  have areWords : ∀ word ∈ "crate" :: names.map unraw, IsWord word := by
    intro word mem
    rcases List.mem_cons.1 mem with rfl | behind
    · exact isWord_crate
    · obtain ⟨name, among, rfl⟩ := List.mem_map.1 behind
      exact .plain (letters name among)
  constructor
  · rintro ⟨segments, parsed, areNames, -⟩ name mem
    obtain ⟨same, -⟩ := (pathOf?_pathText_eq_some_iff areWords).1 parsed
    obtain ⟨-, rfl⟩ := List.cons.inj same
    exact (areNames _ (List.mem_map_of_mem mem)).free
  · intro free
    have areNames : ∀ segment ∈ names.map unraw, IsName segment := by
      intro segment mem
      obtain ⟨name, among, rfl⟩ := List.mem_map.1 mem
      exact ⟨.plain (letters name among), free name among⟩
    refine ⟨names.map unraw, ?_, areNames, ?_⟩
    · apply (pathOf?_pathText_eq_some_iff areWords).2
      refine ⟨rfl, ?_⟩
      intro word mem
      rcases List.mem_cons.1 mem with rfl | behind
      · decide
      · exact (areNames word behind).isSegment
    · rw [List.map_map]
      apply List.map_congr_left
      intro name among
      exact unraw_of_isIdentifier (letters name among)

/-! ### Sites -/

variable {modulePath : List String} {found : Occurrence}

/-- The names of the modules from the crate root and of the declaration are identifiers or words of the
language. -/
theorem isIdentifier_of_mem_names
    (modules : ∀ name ∈ modulePath, Accessor.IsIdentifier name.toList) (wellNamed : found.WellNamed) :
    ∀ name ∈ modulePath ++ found.names, Accessor.IsIdentifier (unraw name).toList := by
  intro name mem
  rcases List.mem_append.1 mem with outer | inner
  · rw [unraw_of_isIdentifier (modules name outer)]
    exact modules name outer
  rcases List.mem_append.1 inner with around | own
  · obtain ⟨enclosing, among, rfl⟩ := List.mem_map.1 around
    exact isIdentifier_unraw (wellNamed.modules enclosing among)
  · exact List.mem_singleton.1 own ▸ isIdentifier_unraw wellNamed.name

/-- What records a declaration has the path of its names. -/
theorem Records.selfPath_eq {place : Place} {site : Site} (records : Records place found site)
    (modules : ∀ name ∈ place.modulePath, Accessor.IsIdentifier name.toList) :
    site.selfPath = pathText ("crate" :: (place.modulePath ++ found.names).map unraw) := by
  have outer : place.modulePath.map unraw = place.modulePath := by
    rw [List.map_congr_left fun name mem => unraw_of_isIdentifier (modules name mem), List.map_id']
  rw [Site.selfPath, records.modulePath, records.name, Occurrence.names]
  simp [outer, Function.comp_def]

/-- Each site of a source file names its type by a path from the crate root with the type's parameters
behind it. The path names the modules on the way to the marked declaration and the declaration itself,
exactly when none of them is called like a word of the language. -/
theorem selfPath_names_iff (file : FilePath) {text : String} {items : List Item}
    (parsed : itemsOfFile? text = some items)
    (modules : ∀ name ∈ modulePath, Accessor.IsIdentifier name.toList) :
    ∃ found, ListsMarked items found ∧ List.Forall₂ (fun occurrence site =>
      site.selfType = site.selfPath ++ site.typeGenerics ∧
        (Names site.selfPath (modulePath ++ occurrence.names) ↔
          ∀ name ∈ modulePath ++ occurrence.names, unraw name ∉ keywords))
      found (sitesOf file modulePath text).value := by
  refine ⟨markedInItems 0 items, listsMarked items, ?_⟩
  have records := (List.forall₂_and_left _ _).2
    ⟨wellNamed_of_mem_markedInItems parsed, records_sitesOf file modulePath parsed⟩
  apply records.imp
  rintro occurrence site ⟨wellNamed, records⟩
  refine ⟨site.selfType_eq, ?_⟩
  rw [records.selfPath_eq modules]
  exact names_pathText_iff (isIdentifier_of_mem_names modules wellNamed)

/-- A source with a marked type whose name is a word of the language but for the sign in front of it. -/
def rawSource : String :=
  "#[embedded_resource_properties]\npub struct r#match;\n"

/-- The marked type is named with a raw identifier, and its site without. -/
theorem names_rawSource :
    ∃ items, itemsOfFile? rawSource = some items ∧
      (markedInItems 0 items).map Occurrence.names = [["r#match"]] ∧
      (sitesOf ⟨"/project/src/a.rs"⟩ ["a"] rawSource).value.map Site.selfPath =
        ["crate::a::match"] := by
  have found : (itemsOfFile? rawSource).map (fun items =>
        (markedInItems 0 items).map Occurrence.names) = some [["r#match"]] ∧
      (sitesOf ⟨"/project/src/a.rs"⟩ ["a"] rawSource).value.map Site.selfPath =
        ["crate::a::match"] := by
    decide +kernel
  obtain ⟨items, parsed, names⟩ := Option.map_eq_some_iff.1 found.1
  exact ⟨items, parsed, names, found.2⟩

/-- In the source the path of the site does not name the type, because the name of the type is a
keyword. -/
theorem selfPath_names_iff_rawSource :
    ∃ items found, itemsOfFile? rawSource = some items ∧
      (∀ name ∈ ["a"], Accessor.IsIdentifier name.toList) ∧ ListsMarked items found ∧
      List.Forall₂ (fun occurrence site => site.selfType = site.selfPath ++ site.typeGenerics ∧
          (Names site.selfPath (["a"] ++ occurrence.names) ↔
            ∀ name ∈ ["a"] ++ occurrence.names, unraw name ∉ keywords))
        found (sitesOf ⟨"/project/src/a.rs"⟩ ["a"] rawSource).value ∧ found.length = 1 := by
  obtain ⟨items, parsed, -, paths⟩ := names_rawSource
  have modules : ∀ name ∈ ["a"], Accessor.IsIdentifier name.toList := by decide
  obtain ⟨found, lists, all⟩ := selfPath_names_iff ⟨"/project/src/a.rs"⟩ parsed modules
  have one := congrArg List.length paths
  rw [List.length_map] at one
  exact ⟨items, found, parsed, modules, lists, all, all.length_eq.trans one⟩

/-- The path of the type is none, as no path can hold the word that its name is. -/
theorem not_names_rawSource :
    ∃ items, itemsOfFile? rawSource = some items ∧
      (markedInItems 0 items).map Occurrence.names = [["r#match"]] ∧
      (sitesOf ⟨"/project/src/a.rs"⟩ ["a"] rawSource).value.map Site.selfPath =
        ["crate::a::match"] ∧
      ¬ Names "crate::a::match" (["a"] ++ ["r#match"]) := by
  obtain ⟨items, parsed, names, paths⟩ := names_rawSource
  refine ⟨items, parsed, names, paths, ?_⟩
  have letters : ∀ name ∈ ["a", "r#match"], Accessor.IsIdentifier (unraw name).toList := by
    decide
  have made : "crate::a::match" = pathText ("crate" :: ["a", "r#match"].map unraw) := by decide
  rw [made]
  intro named
  exact absurd ((names_pathText_iff letters).1 named) (by decide)

end ResourceAccessors.Declaration
