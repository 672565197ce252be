import ResourceAccessors.FilePath.Bytes
import ResourceAccessors.FilePath.Normal

/-!
# Resource identities

The name a file is embedded under: the root namespace, a dot, and the names on the way from the
project folder to the file with dots between them.
-/

namespace ResourceAccessors.Resource

/-- The text that is shown for a component that is a name. -/
def nameOf? : FilePath.Component → Option String
  | .name text => some (FilePath.shownText text)
  | _ => none

/-- The identity of the file at `path`. A file outside the project folder is named by its whole
path, and an empty namespace is left out together with its dot. -/
def identity (path projectDir : FilePath) (rootNamespace : String) : String :=
  let path := path.normal
  let relative := (path.relativeTo? projectDir.normal).getD path.components
  let dotted := ".".intercalate (relative.filterMap nameOf?)
  if rootNamespace.isEmpty then dotted else rootNamespace ++ "." ++ dotted

end ResourceAccessors.Resource
