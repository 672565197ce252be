import ResourceAccessors.Generation.State

/-!
# Embedded files

The files compiled into the crate: the configured ones, or else every file that a plan selects. They
are listed by their identities, and of several files with one identity the first is embedded. Of
several ways to write one path the last one counts.
-/

namespace ResourceAccessors.Generation

/-- Whether `left` does not come after `right`: by identity, then by path. -/
def embeddedAtMost (left right : Render.EmbeddedFile) : Bool :=
  ((compare left.resourceName right.resourceName).then (compare left.path right.path)).isLE

/-- The files without those that are equal to the file behind them. -/
def lastOfEqual : List Render.EmbeddedFile → List Render.EmbeddedFile
  | [] => []
  | [file] => [file]
  | file :: next :: rest =>
    if file == next then lastOfEqual (next :: rest) else file :: lastOfEqual (next :: rest)

/-- The files without those whose identity the file before them has. -/
def firstOfEachIdentity : List Render.EmbeddedFile → List Render.EmbeddedFile
  | [] => []
  | file :: rest =>
    match firstOfEachIdentity rest with
    | [] => [file]
    | next :: others =>
      if file.resourceName = next.resourceName then file :: others else file :: next :: others

/-- A configured file under its identity. -/
def embeddedAt (options : BuildOptions) (path : FilePath) : Render.EmbeddedFile :=
  ⟨Resource.identity path options.projectDir options.rootNamespace, path⟩

/-- The resource of an accessor. -/
def embeddedOf (property : Property) : Render.EmbeddedFile :=
  ⟨property.candidate.resourceName, property.candidate.path⟩

/-- The files that a pass embeds. -/
def embeddedFiles (input : Input) (plans : List Plan) : List Render.EmbeddedFile :=
  let wanted :=
    match input.embedded with
    | some paths => paths.map (embeddedAt input.options)
    | none => (plans.flatMap Plan.properties).map embeddedOf
  firstOfEachIdentity (lastOfEqual (wanted.mergeSort embeddedAtMost))

end ResourceAccessors.Generation
