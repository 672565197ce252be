import ResourceAccessors.BuildOptions
import ResourceAccessors.FilePath.FileName
import ResourceAccessors.FilePath.Order
import ResourceAccessors.Resource.File
import ResourceAccessors.Resource.Identity

/-!
# Selected resources

The files a declaration takes as its resources: those directly in its search folder with its
extension, in the order of their names.
-/

namespace ResourceAccessors.Resource

/-- A file selected for a declaration. -/
structure Candidate where
  path : FilePath
  fileName : String
  resourceName : String
  text : Option String
  deriving BEq, Inhabited

/-- The candidate that a file gives. -/
def Candidate.ofFile (options : BuildOptions) (file : File) : Candidate where
  path := file.path
  fileName := file.fileName
  resourceName := identity file.path options.projectDir options.rootNamespace
  text := file.text

/-- Whether a file lies directly in the folder `searchPath` and has exactly the extension. -/
def File.matchesSearch (searchPath : FilePath) (extension : String) (file : File) : Bool :=
  file.path.parent? == some searchPath && FileName.extension file.fileName == extension

/-- Whether `left` does not come after `right`: candidates stand in the order of their file names,
and those with one file name in the order of their paths. -/
def Candidate.atMost (left right : Candidate) : Bool :=
  ((compare left.fileName right.fileName).then (compare left.path right.path)).isLE

/-- The candidates among `files`, in order. -/
def select (searchPath : FilePath) (extension : String) (files : List File)
    (options : BuildOptions) : List Candidate :=
  ((files.filter (File.matchesSearch searchPath extension)).map
    (Candidate.ofFile options)).mergeSort Candidate.atMost

end ResourceAccessors.Resource
