import ResourceAccessors.FilePath.Basic

/-!
# Normal paths

The lexical normal form of a path: no `.` is left, and `..` is left only where nothing stands before
it that it could take back. The file system is not consulted.
-/

namespace ResourceAccessors.FilePath

/-- The components of a normal form, last one first, after one more component. A `..` takes back a
name and has no effect at the root. -/
def Component.foldOnto (kept : List Component) : Component → List Component
  | .current => kept
  | .parent =>
    match kept with
    | .name _ :: before => before
    | .root :: _ => kept
    | _ => .parent :: kept
  | .root => .root :: kept
  | .name text => .name text :: kept

/-- The components of the normal form of a path. -/
def normalComponents (path : FilePath) : List Component :=
  (path.components.foldl Component.foldOnto []).reverse

/-- The normal form of a path. -/
def normal (path : FilePath) : FilePath :=
  ofComponents path.normalComponents

end ResourceAccessors.FilePath
