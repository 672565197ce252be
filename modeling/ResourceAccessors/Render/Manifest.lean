import ResourceAccessors.Artifact.Name
import ResourceAccessors.FilePath.Order
import ResourceAccessors.Render.Layout
import ResourceAccessors.Text.Quoted

/-!
# The manifest and the index

The artifact that compiles the resources into the crate, and the artifact that includes every
other one.
-/

namespace ResourceAccessors.Render

/-- A file that is compiled into the crate, under its identity. -/
structure EmbeddedFile where
  resourceName : String
  path : FilePath
  deriving BEq, Inhabited

/-- How the code names an embedded file: from the folder of the crate where it lies there. -/
def includeSource (path projectDir : FilePath) : String :=
  match path.relativeTo? projectDir with
  | some relative =>
    "concat!(env!(\"CARGO_MANIFEST_DIR\"), " ++
      Text.quote ("/" ++ "/".intercalate
        (relative.map fun step => FilePath.shownText step.spelling)) ++ ")"
  | none => Text.quote path.shown

/-- The lines of one manifest entry. -/
def embeddedLines (projectDir : FilePath) (file : EmbeddedFile) : List String :=
  ["\t\t::embedres::EmbeddedResource::new(",
   "\t\t\t" ++ Text.quote file.resourceName ++ ",",
   "\t\t\tinclude_bytes!(" ++ includeSource file.path projectDir ++ "),",
   "\t\t),"]

/-- The lines of the manifest artifact. -/
def manifestLines (files : List EmbeddedFile) (projectDir : FilePath) : List String :=
  header ++
  ["/// Resources compiled into this crate, read by the generated accessors.",
   "#[doc(hidden)]",
   "#[allow(dead_code)]",
   "pub(crate) mod __embedded_resources \x7b",
   "\tstatic RESOURCES: [::embedres::EmbeddedResource; " ++ toString files.length ++ "] = ["] ++
  files.flatMap (embeddedLines projectDir) ++
  ["\t];",
   "",
   "\tpub(crate) static MANIFEST: ::embedres::ResourceManifest =",
   "\t\t::embedres::ResourceManifest::new(&RESOURCES);",
   "",
   "\tpub(crate) fn read(resource_name: &str) -> " ++
     "::embedres::ResourceResult<::std::string::String> \x7b",
   "\t\tMANIFEST.read(resource_name)",
   "\t\x7d",
   "\x7d"]

/-- The text of the manifest artifact. -/
def manifest (files : List EmbeddedFile) (projectDir : FilePath) : String :=
  unlines (manifestLines files projectDir)

/-- The line that includes an artifact. -/
def includeLine (name : String) : String :=
  "include!(concat!(env!(\"OUT_DIR\"), " ++
    Text.quote ("/" ++ Artifact.folder ++ "/" ++ name) ++ "));"

/-- The text of the index: the manifest first, then the named artifacts. -/
def index (names : List String) : String :=
  unlines (header ++ (Artifact.manifestName :: names).map includeLine)

end ResourceAccessors.Render
