import ResourceAccessors.Disk.Basic
import ResourceAccessors.Disk.Error
import ResourceAccessors.FilePath.Bytes

/-!
# Resolving paths

The location that a path leads to. Links on the way are followed, and so is one at the end; a path
that ends in a slash leads to a folder only.
-/

namespace ResourceAccessors

/-- Whether a path leads to a folder only, because nothing or a dot stands behind its last slash. -/
def FilePath.asksForFolder (path : FilePath) : Bool :=
  match (FilePath.pieces path.text.toList).getLast? with
  | some piece => piece == [] || piece == ['.']
  | none => false

/-- The components of a path, with a last `.` when it leads to a folder only. -/
def FilePath.steps (path : FilePath) : List FilePath.Component :=
  path.components ++ if path.asksForFolder then [.current] else []

namespace Disk

/-- How many links are followed for one path. -/
def maxLinks : Nat :=
  40

/-- The largest size of a name in bytes. -/
def maxNameSize : Nat :=
  255

/-- How many steps an entry stands for: as many as its target has when it is a link. -/
def Entry.linkedSteps : Entry → Nat
  | .link target => target.steps.length
  | _ => 0

/-- How many steps all links of a disk stand for together. -/
def linkedSteps (disk : Disk) : Nat :=
  disk.entries.foldr (fun found total => found.2.linkedSteps + total) 0

/-- A link stands for at most as many steps as all links together. -/
theorem length_steps_le {disk : Disk} {name : String} {here : Location} {target : FilePath}
    (stands : disk.entry? (name :: here) = some (.link target)) :
    target.steps.length ≤ disk.linkedSteps := by
  have mem := mem_entries_of_stands (by simp) stands
  rw [linkedSteps]
  generalize disk.entries = entries at mem
  induction entries with
  | nil => cases mem
  | cons first rest ih =>
    rw [List.foldr_cons]
    rcases List.mem_cons.1 mem with rfl | later
    · exact Nat.le_add_right _ _
    · exact Nat.le_trans (ih later) (Nat.le_add_left _ _)

/-- The location that some steps lead to from `here`, when at most `links` links are to be
followed. -/
def follow (disk : Disk) (links : Nat) (here : Location) :
    List FilePath.Component → Except DiskError Location
  | [] => .ok here
  | .root :: rest => disk.follow links [] rest
  | .current :: rest =>
    if disk.isFolderAt here then disk.follow links here rest else .error .notDirectory
  | .parent :: rest =>
    if disk.isFolderAt here then disk.follow links here.tail rest else .error .notDirectory
  | .name name :: rest =>
    if !disk.isFolderAt here then .error .notDirectory
    else if maxNameSize < FilePath.byteSize name then .error .nameTooLong
    else
      match _stands : disk.entry? (name :: here) with
      | none => .error .notFound
      | some (.link target) =>
        if links = 0 then .error .tooManyLinks
        else if target.text.isEmpty then .error .notFound
        else disk.follow (links - 1) here (target.steps ++ rest)
      | some (.file _) => disk.follow links (name :: here) rest
      | some .folder => disk.follow links (name :: here) rest
  termination_by steps => links * disk.linkedSteps + steps.length
  decreasing_by
    · exact Nat.lt_succ_self _
    · exact Nat.lt_succ_self _
    · exact Nat.lt_succ_self _
    · have atMost := length_steps_le _stands
      have fewer := Nat.sub_one_mul links disk.linkedSteps
      have once := Nat.le_mul_of_pos_left disk.linkedSteps (Nat.pos_of_ne_zero ‹_›)
      rw [List.length_append, List.length_cons]
      omega
    · exact Nat.lt_succ_self _
    · exact Nat.lt_succ_self _

/-- The location of the entry that a path leads to from `here`. -/
def resolveFrom (disk : Disk) (here : Location) (path : FilePath) : Except DiskError Location :=
  if path.text.isEmpty then .error .notFound
  else disk.follow maxLinks here path.steps

/-- The location of the entry that a path leads to. -/
def resolve (disk : Disk) (path : FilePath) : Except DiskError Location :=
  disk.resolveFrom disk.working path

/-- The location at which an entry with a path from `here` stands or would stand. A link there is
not followed. -/
def placeFrom (disk : Disk) (here : Location) (path : FilePath) : Except DiskError Location :=
  match path.components.reverse with
  | .name name :: before => do
    let folder ← disk.follow maxLinks here before.reverse
    if !disk.isFolderAt folder then .error .notDirectory
    else if maxNameSize < FilePath.byteSize name then .error .nameTooLong
    else return name :: folder
  | _ => disk.resolveFrom here path

/-- The location at which an entry with a path stands or would stand. -/
def place (disk : Disk) (path : FilePath) : Except DiskError Location :=
  disk.placeFrom disk.working path

/-- The location at which a path from `here` ends when at most `links` links there are followed,
whether or not the last of them leads to an entry. -/
def endFrom (disk : Disk) (links : Nat) (here : Location) (path : FilePath) :
    Except DiskError Location := do
  let location ← disk.placeFrom here path
  match disk.entry? location, links with
  | some (.link _), 0 => .error .tooManyLinks
  | some (.link target), links + 1 => disk.endFrom links location.tail target
  | _, _ => return location

/-! ### What a path leads to -/

/-- The location and the entry that a path leads to. -/
def find? (disk : Disk) (path : FilePath) : Option (Location × Entry) :=
  match disk.resolve path with
  | .ok location => (disk.entry? location).map (location, ·)
  | .error _ => none

/-- Whether a path leads to an entry. -/
def exists? (disk : Disk) (path : FilePath) : Bool :=
  (disk.find? path).isSome

/-- Whether a path leads to a file. -/
def isFile (disk : Disk) (path : FilePath) : Bool :=
  match disk.find? path with
  | some (_, .file _) => true
  | _ => false

/-- Whether a path leads to a folder. -/
def isFolder (disk : Disk) (path : FilePath) : Bool :=
  match disk.find? path with
  | some (_, .folder) => true
  | _ => false

/-- The content of the file that a path leads to. -/
def readFile (disk : Disk) (path : FilePath) : Except DiskError ByteArray := do
  match disk.entry? (← disk.resolve path) with
  | some (.file content) => return content
  | some .folder => .error .isDirectory
  | _ => .error .notFound

/-- The text of the file that a path leads to. -/
def readText (disk : Disk) (path : FilePath) : Except DiskError String := do
  match String.fromUTF8? (← disk.readFile path) with
  | some text => return text
  | none => .error .notText

/-- The paths of the entries of the folder that a path leads to. -/
def childrenOf (disk : Disk) (path : FilePath) : Except DiskError (List FilePath) := do
  let location ← disk.resolve path
  if disk.isFolderAt location then return (disk.namesIn location).map path.child
  else .error .notDirectory

end Disk

end ResourceAccessors
