import ResourceAccessors.Artifact.Name
import ResourceAccessors.Disk.Change
import ResourceAccessors.FilePath.Order

/-!
# The artifact folder

Bringing the folder of artifacts in line with the artifacts of a pass. A file that has its content
already is left alone, and an artifact that is not produced any more is removed. Files that do not
have the suffix of artifacts belong to others, and so do those with names that are not text.
-/

namespace ResourceAccessors.Artifact

/-- Whether a file holds the artifact already. -/
def isWritten (disk : Disk) (path : FilePath) (artifact : Artifact) : Bool :=
  match disk.readFile path with
  | .ok content => content == artifact.text.toUTF8
  | .error _ => false

/-- Write those artifacts whose files are different or missing, and tell the paths of these. -/
def writeAll (folder : FilePath) : List Artifact → Disk.Change DiskError (List FilePath)
  | [] => return []
  | artifact :: rest => do
    let path := folder.child artifact.name
    if isWritten (← get) path artifact then writeAll folder rest
    else
      Disk.replaceFile path artifact.text.toUTF8
      return path :: (← writeAll folder rest)

/-- Whether a file of the folder is an artifact that is not produced. -/
def isStale (disk : Disk) (produced : List String) (path : FilePath) : Bool :=
  match path.textName? with
  | some name => suffix.toList.isSuffixOf name.toList && !produced.contains name && disk.isFile path
  | none => false

/-- Remove those files that are artifacts and not produced, and tell their paths. -/
def removeEach (produced : List String) : List FilePath → Disk.Change DiskError (List FilePath)
  | [] => return []
  | path :: rest => do
    if isStale (← get) produced path then
      Disk.removeFile path
      return path :: (← removeEach produced rest)
    else removeEach produced rest

/-- Remove the artifacts of a folder that are not produced, and tell their paths in ascending order. -/
def removeStale (folder : FilePath) (produced : List String) :
    Disk.Change DiskError (List FilePath) := do
  let removed ← removeEach produced (← (← get).childrenOf folder)
  return FilePath.ascending removed

end ResourceAccessors.Artifact
