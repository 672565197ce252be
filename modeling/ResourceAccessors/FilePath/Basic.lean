/-!
# File paths

A path is kept as it was written, and means the sequence of its components: repeated slashes, a
slash at the end and a `.` inside the path carry no meaning. Equality and the view `components`
follow the meaning; only `text` follows the writing.
-/

namespace ResourceAccessors

/-- A path as written. -/
structure FilePath where
  text : String
  deriving Inhabited

namespace FilePath

/-- One step of a path. `current` stands only at the start of a path without a root. -/
inductive Component
  | root
  | current
  | parent
  | name (text : String)
  deriving DecidableEq, Repr, Inhabited

/-- A component as it is written. -/
def Component.spelling : Component → String
  | .root => "/"
  | .current => "."
  | .parent => ".."
  | .name text => text

/-- The pieces between slashes. A text without a slash is one piece. -/
def pieces : List Char → List (List Char)
  | [] => [[]]
  | c :: rest =>
    if c = '/' then [] :: pieces rest
    else
      match pieces rest with
      | [] => [[c]]
      | first :: others => (c :: first) :: others

/-- The component that a piece inside a path stands for, if it stands for one. -/
def Component.ofPiece? (piece : List Char) : Option Component :=
  if piece = [] ∨ piece = ['.'] then none
  else if piece = ['.', '.'] then some .parent
  else some (.name (String.ofList piece))

/-- Whether the path starts at the root. -/
def isAbsolute (path : FilePath) : Bool :=
  path.text.toList.head? == some '/'

/-- The components of a path, from the first to the last. -/
def components (path : FilePath) : List Component :=
  match path.isAbsolute, pieces path.text.toList with
  | true, all => .root :: all.filterMap Component.ofPiece?
  | false, ['.'] :: rest => .current :: rest.filterMap Component.ofPiece?
  | false, all => all.filterMap Component.ofPiece?

/-- The shortest text with the given components. -/
def ofComponents : List Component → FilePath
  | .root :: rest => ⟨"/" ++ "/".intercalate (rest.map Component.spelling)⟩
  | all => ⟨"/".intercalate (all.map Component.spelling)⟩

/-- Two paths are equal when they have the same components. -/
instance : BEq FilePath where
  beq left right := left.components == right.components

/-- The path of `added` as seen from `base`: an absolute path stands for itself. -/
def join (base added : FilePath) : FilePath :=
  if added.isAbsolute then added
  else if base.text.isEmpty ∨ base.text.toList.getLast? = some '/' then
    ⟨base.text ++ added.text⟩
  else ⟨base.text ++ "/" ++ added.text⟩

/-- The path of the piece `name` below `base`. -/
def child (base : FilePath) (name : String) : FilePath :=
  base.join ⟨name⟩

/-- The path without its last component. The root and the empty path have no parent. -/
def parent? (path : FilePath) : Option FilePath :=
  match path.components.reverse with
  | [] => none
  | .root :: _ => none
  | _ :: before => some (ofComponents before.reverse)

/-- The last component, when it is a name. -/
def fileName? (path : FilePath) : Option String :=
  match path.components.getLast? with
  | some (.name text) => some text
  | _ => none

/-- What is left of `path` after the components of `base`, when `path` starts with them. -/
def relativeTo? (path base : FilePath) : Option (List Component) :=
  if base.components.isPrefixOf path.components then
    some (path.components.drop base.components.length)
  else none

end FilePath

end ResourceAccessors
