import ResourceAccessors.Embedded.ReadError
import ResourceAccessors.Text.Encoding

/-!
# The manifest of embedded resources

The resources compiled into a crate, sorted by their names, and their lookup by bisection.
-/

namespace ResourceAccessors.Embedded

/-- A file compiled into the crate under its identity. -/
structure Entry where
  name : String
  bytes : ByteArray
  deriving Inhabited

/-- The embedded resources, which the generated code lists in ascending order of their names. -/
structure Manifest where
  entries : Array Entry
  deriving Inhabited

namespace Manifest

/-- The entry with the given name between the positions `low` and `high`, the second of which lies
outside. -/
def findBetween (manifest : Manifest) (name : String) (low high : Nat) : Option Entry :=
  if low < high then
    let middle := (low + high) / 2
    match manifest.entries[middle]? with
    | none => none
    | some entry =>
      match compare entry.name name with
      | .eq => some entry
      | .lt => manifest.findBetween name (middle + 1) high
      | .gt => manifest.findBetween name low middle
  else none
termination_by high - low

/-- The entry with the given name. -/
def find? (manifest : Manifest) (name : String) : Option Entry :=
  manifest.findBetween name 0 manifest.entries.size

/-- The text of the resource with the given name, without a byte-order mark. -/
def read (manifest : Manifest) (name : String) : Except ReadError String :=
  match manifest.find? name with
  | none => .error (.notFound name)
  | some entry =>
    match Text.decode? entry.bytes with
    | none => .error (.notText name)
    | some text => .ok text

/-- The names of the resources, in their order. -/
def names (manifest : Manifest) : List String :=
  manifest.entries.toList.map Entry.name

/-- How many resources there are. -/
def size (manifest : Manifest) : Nat :=
  manifest.entries.size

/-- Whether there is no resource. -/
def isEmpty (manifest : Manifest) : Bool :=
  manifest.entries.isEmpty

end Manifest

end ResourceAccessors.Embedded
