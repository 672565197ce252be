import ResourceAccessors.Config
import ResourceAccessors.Declaration.Extraction
import ResourceAccessors.Declaration.ModulePath
import ResourceAccessors.Generation.State
import ResourceAccessors.Project.Walk

/-!
# The files of a project

What a generation pass reads of a crate. All source files are read; of the other files only those that
lie in the resource folder of a declaration and have its extension.
-/

namespace ResourceAccessors

open Pattern

/-- The files of a crate as a generation pass takes them. -/
structure Project where
  /-- The folders that are searched for declarations. -/
  sourceRoots : List FilePath
  /-- The source files in the order of their paths. -/
  sources : List Generation.SourceFile
  /-- The files that a declaration may select, in the order of their paths. -/
  files : List Resource.File
  /-- The files to embed, when that is configured. -/
  embedded : Option (List FilePath)
  deriving Inhabited

namespace Project

/-! ### Rules and globs -/

/-- The name of the ignore file. -/
def ignoreName : String :=
  ".gitignore"

/-- The rules of the ignore file of a crate. What cannot be read of it is passed over. -/
def ignoreRules (disk : Disk) (root : FilePath) (config : Config) : Warned IgnoreRules := do
  let path := root.child ignoreName
  if config.ignoresNothing || !disk.exists? path then return []
  match disk.readFile path with
  | .ok content =>
    let reading := IgnoreRules.ofFile content
    if !reading.isComplete then Warned.raise .unreadableIgnoreRules
    return reading.rules
  | .error _ =>
    Warned.raise .unreadableIgnoreRules
    return []

/-- The rules of some patterns. -/
def excludeRules (patterns : List String) : Except Failure IgnoreRules :=
  (IgnoreRules.ofPatterns patterns).mapError fun (pattern, reason) =>
    .invalidPattern pattern reason

/-- The glob of a pattern. Its stars and question marks stand for slashes too. -/
def glob (pattern : String) : Except Failure Glob :=
  (Glob.parse false false pattern).mapError fun fault =>
    .invalidPattern pattern (fault.describe pattern)

/-! ### Source files -/

/-- Whether a file has the extension of source files. A name that starts with its only dot has no
extension. -/
def isSourceName (name : String) : Bool :=
  match Declaration.sourceStem? name with
  | some stem => !stem.isEmpty
  | none => false

/-- Whether a file is the start of a program next to a library. -/
def isProgramOf (disk : Disk) (sourceRoot path : FilePath) : Bool :=
  path == sourceRoot.child "main.rs" && disk.isFile (sourceRoot.child "lib.rs")

/-- The module that a file defines in the first source folder that has one for it. -/
def sourceModule? (disk : Disk) (sourceRoots : List FilePath) (path : FilePath) :
    Option (List String) :=
  if path.fileName?.any isSourceName then
    sourceRoots.findSome? fun sourceRoot =>
      if isProgramOf disk sourceRoot path then none else Declaration.modulePath? sourceRoot path
  else none

/-- The file that a path leads to. -/
def readFile (disk : Disk) (path : FilePath) : Except Failure Resource.File := do
  let content ← (disk.readFile path).mapError Failure.disk
  return .ofBytes path content

/-- The source files among some files. One that is no text is passed over. -/
def readSources (disk : Disk) (sourceRoots : List FilePath) :
    List FilePath → Except Failure (Warned (List Generation.SourceFile))
  | [] => return pure []
  | path :: rest =>
    match sourceModule? disk sourceRoots path with
    | none => readSources disk sourceRoots rest
    | some modulePath => do
      let file ← readFile disk path
      let others ← readSources disk sourceRoots rest
      return do
        match file.text with
        | some text => return ⟨path, modulePath, text⟩ :: (← others)
        | none =>
          Warned.raise .sourceNotText
          others

/-! ### Resources -/

/-- A folder in which a declaration looks for files with an extension. -/
structure Selection where
  folder : FilePath
  extension : String

/-- What the declarations of some source files select. -/
def selectionsOf (root : FilePath) (sources : List Generation.SourceFile) :
    Warned (List Selection) := do
  let sites ← sources.mapM fun source =>
    Declaration.sitesOf source.path source.modulePath source.text
  return sites.flatten.map fun site => ⟨site.searchPath root, site.arguments.extension⟩

/-- Whether a file lies in a folder and has the extension that is looked for there. A file with a name
that is not text has none. -/
def Selection.covers (selection : Selection) (path : FilePath) : Bool :=
  path.parent? == some selection.folder &&
    (path.textName?.map FileName.extension) == some selection.extension

/-- Read a resource. A file that is larger than `limit` is refused. -/
def readResource (disk : Disk) (limit : Nat) (path : FilePath) : Except Failure Resource.File := do
  let content ← (disk.readFile path).mapError Failure.disk
  if limit < content.size then .error (.fileTooLarge path.shown content.size limit)
  else return .ofBytes path content

/-- Whether a path matches one of some globs as seen from the folder of the crate. -/
def matchesAny (globs : List Glob) (root path : FilePath) : Bool :=
  globs.any (·.isMatch (relativeText root path))

/-! ### The project -/

/-- The folders that are searched for declarations. -/
def sourceRootsOf (root : FilePath) (config : Config) : List FilePath :=
  config.sources.map fun source => (root.join source).normal

/-- The files of the crate in the folder `root`. -/
def collect (disk : Disk) (root : FilePath) (config : Config) :
    Except Failure (Warned Project) := do
  let root := root.normal
  let ignored := ignoreRules disk root config
  let excluded ← excludeRules config.excluded
  let paths ← filesOf disk ⟨root, ignored.value, excluded⟩
  let offered ← config.offered.mapM glob
  let embedded ← config.embedded.mapM glob
  let sourceRoots := sourceRootsOf root config
  let sources ← readSources disk sourceRoots paths
  let selections := selectionsOf root sources.value
  let candidates := paths.filter fun path => offered.isEmpty || matchesAny offered root path
  let selected := candidates.filter fun path => selections.value.any (·.covers path)
  let files ← selected.mapM (readResource disk config.maxFileSize)
  return do
    let _ ← ignored
    let sources ← sources
    let _ ← selections
    return {
      sourceRoots
      sources
      files
      embedded :=
        if embedded.isEmpty then none else some (candidates.filter (matchesAny embedded root)) }

end Project

end ResourceAccessors
