import ResourceAccessors.Disk.Resolution

/-!
# Changing the disk

What a change did before it fails stays done. A file is replaced as a whole: its new content is
written under a temporary name in the same folder and then takes the place of the old one, so that a
failed replacement leaves the old file as it was.
-/

namespace ResourceAccessors.Disk

/-- A change of the disk that may fail. -/
abbrev Change (ε : Type) := ExceptT ε (StateM Disk)

/-! ### Folders -/

/-- The disk with a new folder. -/
def withFolder (disk : Disk) (path : FilePath) : Except DiskError Disk := do
  let location ← disk.place path
  match disk.entry? location with
  | some _ => .error .exists
  | none => return disk.put location .folder

/-- Fail, unless a path leads to a folder. -/
def failUnlessFolder (path : FilePath) (cause : DiskError) : Change DiskError Unit := do
  if (← get).isFolder path then return else throw cause

/-- Make a folder, unless it is there. -/
def makeFolder (path : FilePath) : Change DiskError Unit := do
  match (← get).withFolder path with
  | .ok disk => set disk
  | .error cause => failUnlessFolder path cause

/-- Make the folder with some components, last one first, and those above it that are missing. -/
def makeFoldersTo : List FilePath.Component → Change DiskError Unit
  | [] => return
  | last :: before => do
    let path := FilePath.ofComponents (last :: before).reverse
    match (← get).withFolder path with
    | .ok disk => set disk
    | .error .notFound => do
      makeFoldersTo before
      makeFolder path
    | .error cause => failUnlessFolder path cause

/-- Make a folder and those above it, as far as they are missing. -/
def makeFolders (path : FilePath) : Change DiskError Unit :=
  makeFoldersTo path.components.reverse

/-! ### Files and links -/

/-- How many digits the number of the process has that writes a file. -/
def processDigits : Nat :=
  4

/-- How many digits the time has in nanoseconds since 1970, from 2001 to 2286. -/
def clockDigits : Nat :=
  19

/-- By how many bytes a temporary name is longer than the name it stands for: it has a dot in front of
that name, and behind it `.tmp-`, the number of the process, a hyphen and the time. -/
def temporaryExcess : Nat :=
  ".".utf8ByteSize + ".tmp-".utf8ByteSize + processDigits + "-".utf8ByteSize + clockDigits

/-- The size of a name in bytes. The root has no name. -/
def nameSize : Location → Nat
  | [] => 0
  | name :: _ => FilePath.byteSize name

/-- Put a file in the place of the file or link with the same path. -/
def replaceFile (path : FilePath) (content : ByteArray) : Change DiskError Unit := do
  let disk ← get
  let location ← disk.place path
  if maxNameSize < nameSize location + temporaryExcess then throw .nameTooLong
  if disk.isFolderAt location then throw .isDirectory
  set (disk.put location (.file content))

/-- Write a file. A link stays a link, and the file is written where it leads. -/
def writeFile (path : FilePath) (content : ByteArray) : Change DiskError Unit := do
  let disk ← get
  let location ← disk.endFrom maxLinks disk.working path
  if disk.isFolderAt location then throw .isDirectory
  set (disk.put location (.file content))

/-- Make a link. -/
def makeLink (path target : FilePath) : Change DiskError Unit := do
  let disk ← get
  let location ← disk.place path
  match disk.entry? location with
  | some _ => throw .exists
  | none => set (disk.put location (.link target))

/-- Remove a file or a link. -/
def removeFile (path : FilePath) : Change DiskError Unit := do
  let disk ← get
  let location ← disk.place path
  match disk.entry? location with
  | none => throw .notFound
  | some .folder => throw .isDirectory
  | some _ => set (disk.erase location)

/-- Remove a file, a link, or a folder with all that stands below it. -/
def removeTree (path : FilePath) : Change DiskError Unit := do
  let disk ← get
  let location ← disk.place path
  if (disk.entry? location).isNone then throw .notFound
  set (disk.eraseTree location)

end ResourceAccessors.Disk
