import ResourceAccessors.FilePath.Bytes

/-!
# The order of paths

Paths are ordered component by component, so that the files of a folder stand together: `a/b` comes
before `a-b`. A root comes before the other components and names come last, in the order of their
bytes.
-/

namespace ResourceAccessors.FilePath

/-- The place of a kind of component in the order. -/
def Component.rank : Component → Nat
  | .root => 0
  | .current => 1
  | .parent => 2
  | .name _ => 3

instance : Ord Component where
  compare left right :=
    (compare left.rank right.rank).then
      ((compare (bytesOf left.spelling) (bytesOf right.spelling)).then
        (compare left.spelling right.spelling))

instance : Ord FilePath where
  compare left right := List.compareLex compare left.components right.components

/-- Whether `left` does not come after `right`. -/
def atMost (left right : FilePath) : Bool :=
  (compare left right).isLE

/-- The paths with one more, kept in strictly ascending order. A path that is there stays as it
is. -/
def insertInOrder (path : FilePath) : List FilePath → List FilePath
  | [] => [path]
  | first :: rest =>
    match compare path first with
    | .lt => path :: first :: rest
    | .eq => first :: rest
    | .gt => first :: insertInOrder path rest

/-- The different paths of a list in ascending order, the first of equal ones standing for all. -/
def ascending (paths : List FilePath) : List FilePath :=
  paths.foldl (fun kept path => insertInOrder path kept) []

end ResourceAccessors.FilePath
