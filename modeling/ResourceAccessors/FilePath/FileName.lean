/-!
# File names

A file name splits at its last dot. The part before it is the stem; the part from it on, the dot
included, is the extension. A name without a dot is all stem.
-/

namespace ResourceAccessors.FileName

/-- The characters before the last dot and those from it on, when there is a dot. -/
def splitAtLastDot? : List Char → Option (List Char × List Char)
  | [] => none
  | c :: rest =>
    match splitAtLastDot? rest with
    | some (stem, extension) => some (c :: stem, extension)
    | none => if c = '.' then some ([], c :: rest) else none

/-- The part of a file name before its last dot. -/
def stem (name : String) : String :=
  match splitAtLastDot? name.toList with
  | some (stem, _) => String.ofList stem
  | none => name

/-- The part of a file name from its last dot on; empty when there is no dot. -/
def extension (name : String) : String :=
  match splitAtLastDot? name.toList with
  | some (_, extension) => String.ofList extension
  | none => ""

end ResourceAccessors.FileName
