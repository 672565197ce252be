import ResourceAccessors.Failure
import ResourceAccessors.FilePath.Basic
import ResourceAccessors.Text.Blank
import ResourceAccessors.Toml.Document
import ResourceAccessors.Warning

/-!
# The configuration

What a crate configures about its resources. Every field may be left out, and a crate without a
configuration file behaves as if all defaults were written out.
-/

namespace ResourceAccessors

/-- The configuration of a crate. Patterns are relative to the crate root. -/
structure Config where
  /-- The front part of every resource identity, in place of the one of the build. -/
  rootNamespace : Option String
  /-- The folders that are searched for declarations. -/
  sources : List FilePath
  /-- The size in bytes above which a file is refused. -/
  maxFileSize : Nat
  /-- Whether the ignore file of the crate is left unread. -/
  ignoresNothing : Bool
  /-- The files that are offered as resources; all of them when there is no pattern. -/
  offered : List String
  /-- The files that are embedded; those that are selected when there is no pattern. -/
  embedded : List String
  /-- The files and folders that are passed over. -/
  excluded : List String
  deriving Inhabited

namespace Config

/-- The folders that are searched for declarations by default. -/
def defaultSources : List FilePath :=
  [⟨"src"⟩]

/-- The configuration of a crate that configures nothing. -/
def default : Config where
  rootNamespace := none
  sources := defaultSources
  maxFileSize := 10 * 1024 * 1024
  ignoresNothing := false
  offered := []
  embedded := []
  excluded := []

/-- Where a configuration file may stand below the crate root; an earlier place goes before a later
one. -/
def candidates : List FilePath :=
  [⟨"embedres.toml"⟩, ⟨".embedres.toml"⟩, ⟨".config/embedres.toml"⟩]

/-! ### Reading the fields -/

/-- The value of a field, or its default when it is missing; nothing when it has the wrong kind. -/
def field (entries : List (String × Toml.Value)) (name : String)
    (read : Toml.Value → Option α) (missing : α) : Option α :=
  match entries.lookup name with
  | some value => read value
  | none => some missing

/-- A size in bytes. -/
def size? (value : Toml.Value) : Option Nat := do
  let number ← value.asInteger?
  if 0 ≤ number ∧ number.natAbs < 1 <<< 64 then some number.natAbs else none

/-- The fields of a section, each a list of patterns. The fields may also stand in an array, in
order. A moment in place of a section has none of them. -/
def patternLists (names : List String) : Toml.Value → Option (List (List String))
  | .table entries => names.mapM fun name => field entries name Toml.Value.asTexts? []
  | .array values =>
    (values.take names.length).mapM Toml.Value.asTexts? |>.map fun lists =>
      lists ++ List.replicate (names.length - lists.length) []
  | .time => some (names.map fun _ => [])
  | _ => none

/-- The configuration that the entries of a document give. Unknown fields are passed over. -/
def ofEntries (entries : List (String × Toml.Value)) : Option Config := do
  let empty : Toml.Value := .table []
  let resources := (entries.lookup "resources").getD empty
  let exclusions := (entries.lookup "exclude").getD empty
  match ← patternLists ["include", "embed"] resources, ← patternLists ["patterns"] exclusions with
  | [offered, embedded], [excluded] =>
    return {
      rootNamespace := ← field entries "root_namespace" (fun value => value.asText?.map some) none
      sources := ← field entries "sources"
        (fun value => value.asTexts?.map (List.map FilePath.mk)) defaultSources
      maxFileSize := ← field entries "max_file_size" size? default.maxFileSize
      ignoresNothing := ← field entries "disable_gitignore" Toml.Value.asFlag? false
      offered
      embedded
      excluded }
  | _, _ => none

/-! ### The configuration of a text -/

/-- The configuration without a blank namespace. -/
def withoutBlankNamespace (config : Config) : Warned Config := do
  if config.rootNamespace.any Text.isBlankText then
    Warned.raise .blankNamespace
    return { config with rootNamespace := none }
  else return config

/-- The configuration with the default folders in place of none. -/
def withSources (config : Config) : Warned Config := do
  if config.sources.isEmpty then
    Warned.raise .emptySources
    return { config with sources := defaultSources }
  else return config

/-- The configuration that a text gives. -/
def parse (text : String) : Except Failure (Warned Config) :=
  match (Toml.parse? text).bind ofEntries with
  | some config => .ok do (← config.withoutBlankNamespace).withSources
  | none => .error (.malformedConfig "the file is no configuration")

end Config

end ResourceAccessors
