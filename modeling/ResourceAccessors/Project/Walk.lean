import ResourceAccessors.Disk.Resolution
import ResourceAccessors.Failure
import ResourceAccessors.FilePath.Normal
import ResourceAccessors.FilePath.Order
import ResourceAccessors.Pattern.IgnoreRule

/-!
# Walking a project

The files of a crate: all below its folder, except for those in folders that are hidden, hold build
output or belong to another crate, and except for what ignore rules pass over. Links are followed.
Each folder is entered once; a second way to it counts as a cycle.
-/

namespace ResourceAccessors.Project

open Pattern

/-- What decides which entries of a project are passed over. -/
structure Filter where
  /-- The folder of the crate. -/
  root : FilePath
  /-- The rules of the ignore file. -/
  ignored : IgnoreRules
  /-- The configured rules. -/
  excluded : IgnoreRules

/-- The text of a path as seen from the folder of the crate. -/
def relativeText (root path : FilePath) : String :=
  match path.relativeTo? root with
  | some relative => (FilePath.ofComponents relative).text
  | none => path.text

/-- Whether a folder is passed over because of its name: it is hidden or holds build output. -/
def isPrivateName (name : String) : Bool :=
  name.toList.head? == some '.' || name == "target"

/-- Whether a folder holds a crate of its own. -/
def holdsCrate (disk : Disk) (folder : FilePath) : Bool :=
  disk.isFile (folder.child "Cargo.toml")

/-- Whether the rules pass over a path. -/
def Filter.ignores (filter : Filter) (path : FilePath) (isFolder : Bool) : Bool :=
  let text := relativeText filter.root path
  filter.ignored.ignores text isFolder || filter.excluded.ignores text isFolder

/-- Whether an entry is passed over. -/
def Filter.skips (filter : Filter) (disk : Disk) (path : FilePath) : Bool :=
  if disk.isFolder path then
    path.textName?.any isPrivateName || filter.ignores path true || holdsCrate disk path
  else filter.ignores path false

/-- How many names some folders list together. -/
def listedNames (disk : Disk) (folders : List Disk.Location) : Nat :=
  folders.foldr (fun folder total => (disk.namesIn folder).length + total) 0

/-- Without one of some folders, the others list as many names less as this one does. -/
theorem listedNames_erase (disk : Disk) {location : Disk.Location}
    {folders : List Disk.Location} (member : location ∈ folders) :
    (disk.namesIn location).length + listedNames disk (folders.erase location) =
      listedNames disk folders := by
  induction folders with
  | nil => cases member
  | cons first rest ih =>
    by_cases same : first = location
    · simp [same, listedNames]
    · have among := (List.mem_cons.1 member).resolve_left (Ne.symm same)
      have smaller := ih among
      rw [List.erase_cons_tail (by simpa using same)]
      simp only [listedNames, List.foldr_cons] at smaller ⊢
      omega

/-- The files that some paths lead to, directly or through folders that are not visited yet. -/
def walk (disk : Disk) (filter : Filter) (unvisited : List Disk.Location) :
    List FilePath → Except Failure (List FilePath)
  | [] => .ok []
  | path :: pending =>
    if filter.skips disk path then walk disk filter unvisited pending
    else
      match disk.find? path with
      | some (_, .file _) => return path.normal :: (← walk disk filter unvisited pending)
      | some (location, .folder) =>
        if _member : location ∈ unvisited then
          walk disk filter (unvisited.erase location)
            ((disk.namesIn location).map path.child ++ pending)
        else .error (.symlinkCycle path.shown)
      | _ => walk disk filter unvisited pending
  termination_by pending => listedNames disk unvisited + pending.length
  decreasing_by
    · exact Nat.lt_succ_self _
    · exact Nat.lt_succ_self _
    · have fewer := listedNames_erase disk _member
      simp only [List.length_append, List.length_map, List.length_cons]
      omega
    · exact Nat.lt_succ_self _

/-- The files of a crate in the order of their paths. A crate without a folder has none. -/
def filesOf (disk : Disk) (filter : Filter) : Except Failure (List FilePath) :=
  match disk.find? filter.root with
  | some (location, .folder) => do
    let found ← walk disk filter (disk.folders.erase location)
      ((disk.namesIn location).map filter.root.child)
    return FilePath.ascending found
  | _ => .ok []

end ResourceAccessors.Project
