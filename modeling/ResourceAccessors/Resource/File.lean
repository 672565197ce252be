import ResourceAccessors.FilePath.Bytes
import ResourceAccessors.FilePath.Normal
import ResourceAccessors.Text.Encoding

/-!
# Project files

A file that is offered to the declarations of a project: its normal path, and its text where its
content is valid UTF-8.
-/

namespace ResourceAccessors.Resource

/-- A file with its decoded content. -/
structure File where
  path : FilePath
  text : Option String
  deriving BEq, Inhabited

/-- The file at `path` with a decoded content. -/
def File.make (path : FilePath) (text : Option String) : File :=
  ⟨path.normal, text⟩

/-- The file at `path` with the content `bytes`. -/
def File.ofBytes (path : FilePath) (bytes : ByteArray) : File :=
  File.make path (Text.decode? bytes)

/-- The last name of the path; empty when the path does not end in a name, or in one that is not
text. -/
def File.fileName (file : File) : String :=
  file.path.textName?.getD ""

end ResourceAccessors.Resource
