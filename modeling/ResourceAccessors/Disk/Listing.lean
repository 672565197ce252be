import ResourceAccessors.Disk.Resolution

/-!
# Listing folders

The names of all that stands below a folder, in the order of their characters. The name of a folder
ends in a slash; links are named and not followed.
-/

namespace ResourceAccessors.Disk

/-- The names on the way down from a folder to a location, when it lies below the folder. -/
def namesBelow? (folder location : Location) : Option (List String) :=
  if folder.isSuffixOf location && folder != location then
    some (location.take (location.length - folder.length)).reverse
  else none

/-- An entry as it is listed for a folder. -/
def listed? (folder : Location) : Location × Entry → Option String
  | (location, .folder) => (namesBelow? folder location).map ("/".intercalate · ++ "/")
  | (location, _) => (namesBelow? folder location).map "/".intercalate

/-- The listing of the folder that a path leads to. A missing folder has none. -/
def listing (disk : Disk) (path : FilePath) : List String :=
  match disk.find? path with
  | some (folder, .folder) => (disk.entries.filterMap (listed? folder)).mergeSort
  | _ => []

end ResourceAccessors.Disk
