import ResourceAccessors.FilePath.Order
import ResourceAccessors.Resource.File

/-!
# Files by folder

The files of a project, each filed under the folder that it lies in directly. The folders stand in the
order of their paths, and the files of a folder in the order in which they were offered.
-/

namespace ResourceAccessors.Resource

/-- A folder with the files that lie in it directly. -/
structure Folder where
  path : FilePath
  files : List File
  deriving Inhabited

/-- The folders with one more file behind those of the folder at `path`. -/
def fileUnder (path : FilePath) (file : File) : List Folder → List Folder
  | [] => [⟨path, [file]⟩]
  | first :: rest =>
    match compare path first.path with
    | .lt => ⟨path, [file]⟩ :: first :: rest
    | .eq => ⟨first.path, first.files ++ [file]⟩ :: rest
    | .gt => first :: fileUnder path file rest

/-- The folders with one more file. A file at a path without a parent lies in no folder. -/
def withFile (folders : List Folder) (file : File) : List Folder :=
  match file.path.parent? with
  | some path => fileUnder path file folders
  | none => folders

/-- Files by their folders. -/
def byFolder (files : List File) : List Folder :=
  files.foldl withFile []

/-- The files of the folder at `path`. -/
def filesAt (path : FilePath) (folders : List Folder) : List File :=
  match folders.find? (·.path == path) with
  | some folder => folder.files
  | none => []

end ResourceAccessors.Resource
