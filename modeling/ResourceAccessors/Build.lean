import ResourceAccessors.Artifact.Output
import ResourceAccessors.Generation.Pass
import ResourceAccessors.Project.Files
import ResourceAccessors.Stored.Cache

/-!
# Builds

A build reads the configuration and the files of a crate, runs one generation pass that starts from
the stored state of the last build, and brings the artifact folder in line. Nothing is written before
the pass is over.
-/

namespace ResourceAccessors

/-- What a build did. -/
structure Build where
  artifactDir : FilePath
  /-- The artifacts whose contents changed. -/
  written : List FilePath
  /-- The artifacts of earlier builds that are not produced any more. -/
  removed : List FilePath
  /-- The paths whose changes call for a new build. -/
  tracked : List FilePath
  outcome : Generation.Outcome
  deriving Inhabited

namespace Build

open Generation

/-- A step of a build. -/
abbrev Step := Disk.Change Failure

/-- A change of the disk as a step of a build. -/
def onDisk (change : Disk.Change DiskError α) : Step α :=
  change.adapt Failure.disk

/-! ### The configuration of a crate -/

/-- The configuration file of a crate. -/
def configPath? (disk : Disk) (root : FilePath) : Option FilePath :=
  (Config.candidates.map root.join).find? disk.isFile

/-- The configuration of a crate, when it has one. -/
def config? (disk : Disk) (root : FilePath) : Except Failure (Option Config) :=
  match configPath? disk root with
  | none => .ok none
  | some path => do
    let text ← (disk.readText path).mapError Failure.disk
    return some (← Config.parse text).value

/-! ### The stored state -/

/-- The file that keeps the state in an artifact folder. -/
def cachePath (artifactDir : FilePath) : FilePath :=
  artifactDir.child Stored.cacheName

/-- The state that an artifact folder keeps under a key. A cache that cannot be read counts as
absent. -/
def load (disk : Disk) (artifactDir : FilePath) (key : String) : Option State :=
  match disk.readFile (cachePath artifactDir) with
  | .ok content => Stored.readCache key content
  | .error _ => none

/-- The state of the last build. Where there is none, the build starts anew. -/
def storedState (disk : Disk) (artifactDir projectDir : FilePath) : State :=
  (load disk artifactDir (Stored.cacheKey projectDir)).getD .empty

/-- Put a cache into an artifact folder, which is made when it is missing. -/
def putCache (artifactDir : FilePath) (content : ByteArray) : Disk.Change DiskError Unit := do
  Disk.makeFolders artifactDir
  Disk.replaceFile (cachePath artifactDir) content

/-- Keep a state in an artifact folder under a key, as far as that succeeds. For a state that cannot be
stored only the folder is made. -/
def save (artifactDir : FilePath) (key : String) (state : State) : Step Unit := fun disk =>
  let keep :=
    if Stored.isStorable state then putCache artifactDir (Stored.writeCache key state)
    else Disk.makeFolders artifactDir
  (.ok (), (keep.run disk).2)

/-- Store the state for the next build. Where that fails, the next build starts anew. -/
def storeState (artifactDir projectDir : FilePath) (state : State) : Step Unit :=
  save artifactDir (Stored.cacheKey projectDir) state

/-! ### The build -/

/-- The ignore file of a crate, when it is heeded. -/
def ignorePath? (disk : Disk) (root : FilePath) (config : Config) : Option FilePath :=
  let path := root.child Project.ignoreName
  if !config.ignoresNothing && disk.isFile path then some path else none

/-- The paths whose changes call for a new build. -/
def trackedPaths (disk : Disk) (root : FilePath) (config : Config) (project : Project)
    (outcome : Outcome) : List FilePath :=
  let paths := project.sourceRoots ++ (configPath? disk root).toList ++
    (ignorePath? disk root config).toList ++ outcome.searchPaths ++ outcome.embedded
  (FilePath.ascending paths).filter disk.exists?

/-- The outcome of the pass of a build, and the paths whose changes call for a new one. -/
def prepare (disk : Disk) (options : BuildOptions) (artifactDir : FilePath)
    (token : Cancellation) : Except Failure (Outcome × List FilePath) := do
  let root := options.projectDir
  let config := (← config? disk root).getD Config.default
  let options := options.withConfig config
  let project := (← Project.collect disk root config).value
  let token ← token.check
  let input : Input := ⟨options, project.sources, project.files, project.embedded⟩
  let (outcome, token) ← pass (storedState disk artifactDir root) input token
  let _ ← token.check
  return (outcome, trackedPaths disk root config project outcome)

/-- Build the artifacts of a crate. -/
def run (options : BuildOptions) (artifactDir : FilePath) (token : Cancellation) :
    Step Build := do
  let (outcome, tracked) ← prepare (← get) options artifactDir token
  onDisk (Disk.makeFolders artifactDir)
  let written ← onDisk (Artifact.writeAll artifactDir outcome.artifacts)
  let produced := outcome.artifacts.map Artifact.name
  let removed ← onDisk (Artifact.removeStale artifactDir produced)
  storeState artifactDir options.projectDir outcome.state
  return ⟨artifactDir, written, removed, tracked, outcome⟩

/-! ### Builds of the package manager -/

/-- The variable that names the output folder. -/
def outputVariable : String :=
  "OUT_DIR"

/-- The lines that tell the package manager when to build anew and what to warn of. -/
def directives (build : Build) : List String :=
  build.tracked.map (fun path => "cargo:rerun-if-changed=" ++ path.shown) ++
    BuildOptions.trackedVariables.map ("cargo:rerun-if-env-changed=" ++ ·) ++
    build.outcome.diagnostics.map fun diagnostic =>
      "cargo:warning=embedres: " ++ diagnostic.message

/-- Build the crate that an environment names into the output folder that it names. -/
def runIn (environment : Environment) : Step Build := do
  let options ← BuildOptions.ofEnvironment environment
  match environment outputVariable with
  | some folder => run options ((FilePath.mk folder).child Artifact.folder) .never
  | none => throw (.missingEnvironment outputVariable)

end Build

end ResourceAccessors
