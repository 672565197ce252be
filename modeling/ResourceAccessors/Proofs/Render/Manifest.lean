import Mathlib.Data.List.Forall2
import ResourceAccessors.Proofs.FilePath.Relative
import ResourceAccessors.Proofs.Render.Preview
import ResourceAccessors.Proofs.Text.Quoted
import ResourceAccessors.Render.Manifest

/-!
# The manifest tells its entries

The text of the manifest is read back: the number of entries that it declares, and of each entry the name and
the way in which the file is included. The literals are read as the literals of source code are. A file below
the folder of the project is included by the path from there, any other by its own path, so manifests of one
project with the same text list the same files under the same names, as far as their paths are text.
-/

namespace ResourceAccessors.Render

open Syntax (afterText?)

/-! ### Entries of a text -/

/-- How an entry names the file that it includes. -/
inductive Inclusion
  /-- By a text that is put behind the folder of the crate. -/
  | inCrate (text : String)
  /-- By a path. -/
  | atPath (text : String)
  deriving DecidableEq, Repr

/-- An entry as its text tells it. -/
structure Entry where
  name : String
  inclusion : Inclusion
  deriving DecidableEq, Repr

/-- The text of a literal at the front of the source. -/
def readText? (source : List Char) : Option (String × List Char) :=
  match Syntax.readLiteral source with
  | some (.literal .text spelling, rest) => (Syntax.textOfLiteral? spelling).map (·, rest)
  | _ => none

/-- What stands in front of a text that is put behind the folder of the crate. -/
def crateFolder : String :=
  "concat!(env!(\"CARGO_MANIFEST_DIR\"), "

/-- The argument of `include_bytes!` at the front of the source. -/
def readInclusion? (source : List Char) : Option (Inclusion × List Char) :=
  match afterText? crateFolder.toList source with
  | some behind => do
    let (text, behind) ← readText? behind
    let rest ← afterText? [')'] behind
    return (.inCrate text, rest)
  | none => (readText? source).map fun (text, rest) => (.atPath text, rest)

/-- What stands in front of the name of an entry. -/
def beforeName : String :=
  "\t\t::embedres::EmbeddedResource::new(\n\t\t\t"

/-- What stands between the name of an entry and its file. -/
def beforeFile : String :=
  ",\n\t\t\tinclude_bytes!("

/-- What ends an entry. -/
def entryEnd : String :=
  "),\n\t\t),\n"

/-- The entry at the front of the source. -/
def readListed? (source : List Char) : Option (Entry × List Char) := do
  let behind ← afterText? beforeName.toList source
  let (name, behind) ← readText? behind
  let behind ← afterText? beforeFile.toList behind
  let (inclusion, behind) ← readInclusion? behind
  let rest ← afterText? entryEnd.toList behind
  return (⟨name, inclusion⟩, rest)

/-- All entries at the front of the source. -/
def readEntries (source : List Char) : List Entry × List Char :=
  match readListed? source with
  | some (entry, rest) =>
    if rest.length < source.length then
      let (others, behind) := readEntries rest
      (entry :: others, behind)
    else ([], source)
  | none => ([], source)
termination_by source.length

/-- What stands in front of the number of entries. -/
def beforeCount : String :=
  unlines (header ++
    ["/// Resources compiled into this crate, read by the generated accessors.",
     "#[doc(hidden)]",
     "#[allow(dead_code)]",
     "pub(crate) mod __embedded_resources \x7b"]) ++
  "\tstatic RESOURCES: [::embedres::EmbeddedResource; "

/-- What stands between the number of entries and the first one. -/
def beforeEntries : String :=
  "] = [\n"

/-- What stands behind the last entry. -/
def behindEntries : String :=
  unlines
    ["\t];",
     "",
     "\tpub(crate) static MANIFEST: ::embedres::ResourceManifest =",
     "\t\t::embedres::ResourceManifest::new(&RESOURCES);",
     "",
     "\tpub(crate) fn read(resource_name: &str) -> " ++
       "::embedres::ResourceResult<::std::string::String> \x7b",
     "\t\tMANIFEST.read(resource_name)",
     "\t\x7d",
     "\x7d"]

/-- The declared number of entries and the entries of a manifest. -/
def readManifest? (text : String) : Option (Nat × List Entry) := do
  let behind ← afterText? beforeCount.toList text.toList
  let digits := behind.takeWhile Char.isDigit
  let behind ← afterText? beforeEntries.toList (behind.dropWhile Char.isDigit)
  let (entries, rest) := readEntries behind
  if rest = behindEntries.toList then some (Nat.ofDigitChars 10 digits 0, entries) else none

/-! ### Reading what is written -/

/-- A text is read over at the front of the source. -/
@[simp]
theorem afterText?_append (text rest : List Char) : afterText? text (text ++ rest) = some rest := by
  induction text with
  | nil => rfl
  | cons c others ih => simp [afterText?, ih]

/-- The literal of a text is read back where no word stands behind it. -/
theorem readText?_quote (text : String) {rest : List Char} (noWord : Syntax.wordFollows rest = false) :
    readText? ((Text.quote text).toList ++ rest) = some (text, rest) := by
  rw [readText?, Syntax.readLiteral_quote text noWord]
  simp [Syntax.textOfLiteral?_quote]

/-- How the entry of a file names it. -/
def Inclusion.of (path projectDir : FilePath) : Inclusion :=
  match path.relativeTo? projectDir with
  | some relative =>
    .inCrate ("/" ++ "/".intercalate (relative.map fun step => FilePath.shownText step.spelling))
  | none => .atPath path.shown

/-- The name and the file of an entry. -/
def Entry.of (projectDir : FilePath) (file : EmbeddedFile) : Entry :=
  ⟨file.resourceName, .of file.path projectDir⟩

/-- What names the file of an entry is read back. -/
theorem readInclusion?_includeSource (path projectDir : FilePath) (rest : List Char) :
    readInclusion? ((includeSource path projectDir).toList ++ ')' :: rest) =
      some (.of path projectDir, ')' :: rest) := by
  have read (text : String) (behind : List Char) :
      readText? ((Text.quote text).toList ++ ')' :: behind) = some (text, ')' :: behind) :=
    readText?_quote text rfl
  rw [includeSource, Inclusion.of]
  cases path.relativeTo? projectDir with
  | some relative =>
    have chars (literal : String) : (crateFolder ++ literal ++ ")").toList ++ ')' :: rest =
        crateFolder.toList ++ (literal.toList ++ ')' :: ')' :: rest) := by
      simp
    dsimp only
    rw [← crateFolder, chars, readInclusion?, afterText?_append]
    simp [read, afterText?]
  | none =>
    have noFolder (text : String) (behind : List Char) :
        afterText? crateFolder.toList ((Text.quote text).toList ++ behind) = none := by
      rw [Syntax.toList_quote]
      rfl
    dsimp only
    rw [readInclusion?, noFolder]
    simp [read]

/-- The text of an entry. -/
theorem toList_embeddedLines (projectDir : FilePath) (file : EmbeddedFile) :
    (unlines (embeddedLines projectDir file)).toList =
      beforeName.toList ++ ((Text.quote file.resourceName).toList ++ (beforeFile.toList ++
        ((includeSource file.path projectDir).toList ++ entryEnd.toList))) := by
  -- The breaks inside the fixed texts end lines.
  have name : beforeName = "\t\t::embedres::EmbeddedResource::new(" ++ "\n" ++ "\t\t\t" := rfl
  have inside : beforeFile = "," ++ "\n" ++ "\t\t\tinclude_bytes!(" := rfl
  have ends : entryEnd = ")," ++ "\n" ++ "\t\t)," ++ "\n" := rfl
  have nothing : (unlines []).toList = [] := rfl
  rw [name, inside, ends, embeddedLines]
  simp only [unlines_cons, String.toList_append, List.append_assoc, nothing, List.append_nil]

/-- An entry is read back. -/
theorem readListed?_embeddedLines (projectDir : FilePath) (file : EmbeddedFile) (rest : List Char) :
    readListed? ((unlines (embeddedLines projectDir file)).toList ++ rest) =
      some (.of projectDir file, rest) := by
  have noWord (behind : List Char) : Syntax.wordFollows (beforeFile.toList ++ behind) = false := rfl
  have closes (behind : List Char) : entryEnd.toList ++ behind = ')' :: (entryEnd.toList.tail ++ behind) :=
    rfl
  rw [toList_embeddedLines]
  simp only [List.append_assoc]
  simp only [readListed?, afterText?_append, readText?_quote _ (noWord _), Option.bind_eq_bind,
    Option.bind_some]
  rw [closes, readInclusion?_includeSource, ← closes]
  simp [Entry.of]

/-- Entries are read back one after the other. -/
theorem readEntries_embeddedLines (projectDir : FilePath) (files : List EmbeddedFile) {rest : List Char}
    (ends : readListed? rest = none) :
    readEntries ((unlines (files.flatMap (embeddedLines projectDir))).toList ++ rest) =
      (files.map (Entry.of projectDir), rest) := by
  induction files with
  | nil =>
    rw [readEntries]
    simp [toList_unlines, ends]
  | cons file others ih =>
    have some : 0 < (unlines (embeddedLines projectDir file)).toList.length := by
      rw [toList_embeddedLines, List.length_append]
      exact Nat.lt_of_lt_of_le (by decide) (Nat.le_add_right ..)
    rw [List.flatMap_cons, unlines_append, String.toList_append, List.append_assoc, readEntries,
      readListed?_embeddedLines]
    have shorter (front behind : List Char) (some : 0 < front.length) :
        behind.length < (front ++ behind).length := by
      rw [List.length_append]
      omega
    dsimp only
    rw [if_pos (shorter _ _ some), ih]
    rfl

/-- The text of the manifest. -/
theorem toList_manifest (files : List EmbeddedFile) (projectDir : FilePath) :
    (manifest files projectDir).toList = beforeCount.toList ++ (Nat.toDigits 10 files.length ++
      (beforeEntries.toList ++
        ((unlines (files.flatMap (embeddedLines projectDir))).toList ++ behindEntries.toList))) := by
  have last (a b c d e : String) : [a, b, c, d, e] = [a, b, c, d] ++ [e] := rfl
  have ends : beforeEntries = "] = [" ++ "\n" := rfl
  have nothing : (unlines []).toList = [] := rfl
  have count : (toString files.length).toList = Nat.toDigits 10 files.length := by
    rw [Nat.toString_eq_ofList_toDigits, String.toList_ofList]
  rw [manifest, manifestLines, last, ends, beforeCount, behindEntries]
  simp only [unlines_append, unlines_cons, String.toList_append, List.append_assoc, nothing,
    List.append_nil, count]

/-- The manifest is read back: it declares as many entries as there are files, and tells each of them. -/
theorem readManifest?_manifest (files : List EmbeddedFile) (projectDir : FilePath) :
    readManifest? (manifest files projectDir) =
      some (files.length, files.map (Entry.of projectDir)) := by
  have digit : ∀ c ∈ Nat.toDigits 10 files.length, c.isDigit = true :=
    fun _ => Nat.isDigit_of_mem_toDigits (by decide) (by decide)
  obtain ⟨closing, bracket⟩ : ∃ closing, beforeEntries.toList = ']' :: closing := ⟨_, rfl⟩
  have noDigit (rest : List Char) : (beforeEntries.toList ++ rest).takeWhile Char.isDigit = [] ∧
      (beforeEntries.toList ++ rest).dropWhile Char.isDigit = beforeEntries.toList ++ rest := by
    rw [bracket]
    exact ⟨rfl, rfl⟩
  have noEntry : readListed? behindEntries.toList = none := by
    obtain ⟨others, starts⟩ : ∃ others, behindEntries.toList = '\t' :: ']' :: others := by
      rw [behindEntries, unlines_cons, String.toList_append, String.toList_append]
      exact ⟨_, rfl⟩
    rw [starts]
    rfl
  rw [readManifest?, toList_manifest]
  simp only [afterText?_append, Option.bind_eq_bind, Option.bind_some,
    List.takeWhile_append_of_pos digit, List.dropWhile_append_of_pos digit, noDigit, List.append_nil,
    readEntries_embeddedLines projectDir files noEntry, if_pos, Nat.ofDigitChars_ten_toDigits]

/-! ### Included files -/

/-- An inclusion names the file at a path: by the path from the folder of the project if it lies below this
folder, and by its own path if not, as these are shown. -/
inductive Inclusion.Names (projectDir path : FilePath) : Inclusion → Prop
  | below (relative : FilePath)
      (split : path.components = projectDir.components ++ relative.components) :
      Names projectDir path (.inCrate ("/" ++ relative.shown))
  | elsewhere (apart : ¬ projectDir.components <+: path.components) :
      Names projectDir path (.atPath path.shown)

/-- The file that is included by a crate in a folder. -/
def Inclusion.file (crateDir : FilePath) : Inclusion → FilePath
  | .inCrate text => ⟨crateDir.text ++ text⟩
  | .atPath text => ⟨text⟩

namespace Inclusion

variable {projectDir path other : FilePath} {inclusion : Inclusion}

/-- An entry names its file. -/
theorem names_of (path projectDir : FilePath) : Names projectDir path (.of path projectDir) := by
  rw [Inclusion.of]
  cases seen : path.relativeTo? projectDir with
  | some relative =>
    have split := FilePath.relativeTo?_eq_some_iff.1 seen
    have wellFormed := FilePath.wellFormed_components path
    rw [split] at wellFormed
    have written : "/".intercalate (relative.map fun step => FilePath.shownText step.spelling) =
        FilePath.shown ⟨"/".intercalate (relative.map FilePath.Component.spelling)⟩ := by
      rw [FilePath.shown, FilePath.shownText_intercalate, List.map_map]
      rfl
    dsimp only
    rw [written]
    refine .below _ ?_
    rw [FilePath.components_intercalate_spelling wellFormed.of_append, split]
  | none => exact .elsewhere (FilePath.relativeTo?_eq_none_iff.1 seen)

/-- What is left of a path that is text behind a folder is text. -/
theorem isText_of_split {relative : FilePath} (isText : path.IsText)
    (split : path.components = projectDir.components ++ relative.components) : relative.IsText :=
  fun component mem => isText component (split ▸ List.mem_append_right _ mem)

/-- Files with paths that are text are the same when they are named alike. -/
theorem Names.beq (names : Names projectDir path inclusion) (also : Names projectDir other inclusion)
    (isText : path.IsText) (otherIsText : other.IsText) : (path == other) = true := by
  rw [FilePath.beq_iff_components]
  cases names with
  | below relative split =>
    generalize same : Inclusion.inCrate ("/" ++ relative.shown) = inclusion at also
    cases also with
    | elsewhere => cases same
    | below another anotherSplit =>
      have shown : relative.shown = another.shown := by simpa using same
      rw [(isText_of_split isText split).shown_eq,
        (isText_of_split otherIsText anotherSplit).shown_eq] at shown
      obtain rfl : relative = another := congrArg FilePath.mk shown
      rw [split, anotherSplit]
  | elsewhere apart =>
    generalize same : Inclusion.atPath path.shown = inclusion at also
    cases also with
    | below => cases same
    | elsewhere =>
      have shown : path.shown = other.shown := by simpa using same
      rw [isText.shown_eq, otherIsText.shown_eq] at shown
      obtain rfl : path = other := congrArg FilePath.mk shown
      rfl

/-- The file that is included is the one that is named, when its path is text. -/
theorem Names.file_beq (names : Names projectDir path inclusion) (some : projectDir.text ≠ "")
    (isText : path.IsText) : (inclusion.file projectDir == path) = true := by
  rw [FilePath.beq_iff_components]
  cases names with
  | below relative split =>
    rw [(isText_of_split isText split).shown_eq]
    exact FilePath.components_append_relative split some
  | elsewhere apart =>
    rw [isText.shown_eq]
    rfl

end Inclusion

/-- An entry tells a file and the name under which it is listed. -/
structure Entry.Tells (projectDir : FilePath) (file : EmbeddedFile) (entry : Entry) : Prop where
  name : entry.name = file.resourceName
  names : entry.inclusion.Names projectDir file.path
  /-- The crate in the folder of the project includes the file itself. -/
  includes : projectDir.text ≠ "" → file.path.IsText →
    (entry.inclusion.file projectDir == file.path) = true

/-- The entry of a file tells it. -/
theorem Entry.tells_of (projectDir : FilePath) (file : EmbeddedFile) :
    (Entry.of projectDir file).Tells projectDir file :=
  ⟨rfl, Inclusion.names_of .., (Inclusion.names_of ..).file_beq⟩

/-- Files that have the same entry have the same name, and are the same when their paths are text. -/
theorem Entry.same_of_eq {projectDir : FilePath} {one other : EmbeddedFile}
    (same : Entry.of projectDir one = Entry.of projectDir other) :
    one.resourceName = other.resourceName ∧
      (one.path.IsText → other.path.IsText → (one.path == other.path) = true) := by
  have first := Entry.tells_of projectDir one
  have second := Entry.tells_of projectDir other
  rw [same] at first
  exact ⟨first.name.symm.trans second.name, first.names.beq second.names⟩

/-- The manifest declares as many entries as there are files, and tells all of them in their order. For one
project, manifests with the same text list the same files under the same names, where the paths are text. -/
theorem manifest_tells_files (files : List EmbeddedFile) (projectDir : FilePath) :
    (∃ entries, readManifest? (manifest files projectDir) = some (files.length, entries) ∧
      List.Forall₂ (Entry.Tells projectDir) files entries) ∧
    ∀ others : List EmbeddedFile, manifest others projectDir = manifest files projectDir →
      List.Forall₂ (fun other file => other.resourceName = file.resourceName ∧
        (other.path.IsText → file.path.IsText → (other.path == file.path) = true)) others files := by
  refine ⟨⟨_, readManifest?_manifest files projectDir, ?_⟩, fun others sameText => ?_⟩
  · rw [List.forall₂_map_right_iff, List.forall₂_same]
    exact fun file _ => Entry.tells_of projectDir file
  · have read := congrArg readManifest? sameText
    rw [readManifest?_manifest, readManifest?_manifest, Option.some.injEq, Prod.mk.injEq,
      ← List.forall₂_eq_eq_eq, List.forall₂_map_left_iff, List.forall₂_map_right_iff] at read
    exact read.2.imp fun _ _ => Entry.same_of_eq

/-- Two spellings of a path below the folder of the project, with a name that is escaped, lead to one text. -/
theorem manifest_tells_files_spellings :
    let name := "a\"\\\r\n\u0301\u200b"
    let projectDir : FilePath := ⟨"/project"⟩
    let files : List EmbeddedFile := [⟨name, ⟨"/project/Notes/a b.txt"⟩⟩, ⟨name, ⟨"/other/a.txt"⟩⟩]
    let others : List EmbeddedFile := [⟨name, ⟨"/project//Notes/./a b.txt"⟩⟩, ⟨name, ⟨"/other/a.txt"⟩⟩]
    (∃ entries, readManifest? (manifest files projectDir) = some (2, entries) ∧
      List.Forall₂ (Entry.Tells projectDir) files entries) ∧
    manifest others projectDir = manifest files projectDir ∧
    List.Forall₂ (fun other file => other.resourceName = file.resourceName ∧
      (other.path == file.path) = true) others files := by
  intro name projectDir files others
  have source : includeSource ⟨"/project//Notes/./a b.txt"⟩ projectDir =
      includeSource ⟨"/project/Notes/a b.txt"⟩ projectDir := by
    decide +kernel
  have same : manifest others projectDir = manifest files projectDir := by
    simp only [others, files, manifest, manifestLines, List.flatMap_cons, embeddedLines, source,
      List.length_cons]
  have isText : ∀ file ∈ others ++ files, file.path.IsText := by decide +kernel
  refine ⟨(manifest_tells_files files projectDir).1, same, ?_⟩
  have told := (manifest_tells_files files projectDir).2 others same
  rw [List.forall₂_iff_zip] at told ⊢
  refine ⟨told.1, fun pair => ?_⟩
  obtain ⟨otherMem, fileMem⟩ := List.of_mem_zip pair
  exact ⟨(told.2 pair).1, (told.2 pair).2 (isText _ (List.mem_append_left _ otherMem))
    (isText _ (List.mem_append_right _ fileMem))⟩

end ResourceAccessors.Render
