import ResourceAccessors.FilePath.Bytes
import ResourceAccessors.Pattern.Glob

/-!
# Matching globs

A glob is matched against the bytes of a path. Each piece takes some bytes from the front, and of
what may be left behind it the next piece takes more. A character of several bytes in a class stands
for any one of its bytes.
-/

namespace ResourceAccessors.Pattern

/-- Bytes of a text. -/
abbrev Bytes := List UInt8

/-- The bytes of a text. -/
def bytesOf (text : String) : Bytes :=
  text.toUTF8.data.toList

/-- The byte of a slash. -/
def slashByte : UInt8 :=
  0x2f

/-- All that may be left behind any number of bytes. -/
def tails : Bytes → List Bytes
  | [] => [[]]
  | byte :: rest => (byte :: rest) :: tails rest

/-- All that may be left behind any number of bytes that are no slashes. -/
def tailsInFolder : Bytes → List Bytes
  | [] => [[]]
  | byte :: rest => (byte :: rest) :: if byte = slashByte then [] else tailsInFolder rest

/-- What is left behind each slash. -/
def afterSlashes : Bytes → List Bytes
  | [] => []
  | byte :: rest => if byte = slashByte then rest :: afterSlashes rest else afterSlashes rest

/-- The different rests of one text, which have different lengths. -/
def distinctRests : List Bytes → List Bytes
  | [] => []
  | first :: others => first :: (distinctRests others).filter (·.length != first.length)

/-- Whether a byte lies between the bytes at the ends of a range. -/
def rangeContains (low high : Char) (byte : UInt8) : Bool :=
  let lowBytes := bytesOf low.toString
  let highBytes := bytesOf high.toString
  if low = high then lowBytes.contains byte
  else
    lowBytes.dropLast.contains byte || (highBytes.drop 1).contains byte ||
      match lowBytes.getLast?, highBytes.head? with
      | some first, some last => first ≤ byte && byte ≤ last
      | _, _ => false

mutual

/-- Whether a piece is a choice without any alternative. -/
def Piece.isVoid : Piece → Bool
  | .choice branches => areAllVoid branches
  | _ => false

/-- Whether no piece of a branch takes part in matching. -/
def isVoidBranch : List Piece → Bool
  | [] => true
  | piece :: rest => piece.isVoid && isVoidBranch rest

/-- Whether no branch takes part in matching. -/
def areAllVoid : List (List Piece) → Bool
  | [] => true
  | branch :: rest => isVoidBranch branch && areAllVoid rest

end

mutual

/-- What may be left of some bytes behind a piece. -/
def Piece.rests (keepsSlashes : Bool) (bytes : Bytes) : Piece → List Bytes
  | .literal char =>
    let wanted := bytesOf char.toString
    if wanted.isPrefixOf bytes then [bytes.drop wanted.length] else []
  | .anyByte =>
    match bytes with
    | byte :: rest => if keepsSlashes && byte == slashByte then [] else [rest]
    | [] => []
  | .anyBytes => if keepsSlashes then tailsInFolder bytes else tails bytes
  | .leadingFolders => bytes :: afterSlashes bytes
  | .trailingFolders =>
    match bytes with
    | byte :: rest => if byte == slashByte then tails rest else []
    | [] => []
  | .innerFolders =>
    match bytes with
    | byte :: rest => if byte == slashByte then rest :: afterSlashes rest else []
    | [] => []
  | .oneOf isNegated ranges =>
    match bytes with
    | byte :: rest =>
      if (ranges.any fun (low, high) => rangeContains low high byte) != isNegated then [rest]
      else []
    | [] => []
  | .choice branches =>
    if areAllVoid branches then [bytes] else restsOfChoice keepsSlashes bytes branches

/-- What may be left of some bytes behind some pieces. -/
def restsOfBranch (keepsSlashes : Bool) (starts : List Bytes) : List Piece → List Bytes
  | [] => starts
  | piece :: rest =>
    restsOfBranch keepsSlashes
      (distinctRests (starts.flatMap fun bytes => piece.rests keepsSlashes bytes)) rest

/-- What may be left of some bytes behind one of the alternatives. A branch without pieces is none. -/
def restsOfChoice (keepsSlashes : Bool) (bytes : Bytes) : List (List Piece) → List Bytes
  | [] => []
  | branch :: rest =>
    (if isVoidBranch branch then [] else restsOfBranch keepsSlashes [bytes] branch) ++
      restsOfChoice keepsSlashes bytes rest

end

/-- Whether a glob is two stars and nothing else. -/
def Glob.isEverything (glob : Glob) : Bool :=
  match glob.pieces with
  | [.leadingFolders] => true
  | _ => false

/-- Whether a path with the text `path` matches a glob. -/
def Glob.isMatch (glob : Glob) (path : String) : Bool :=
  glob.isEverything || (restsOfBranch glob.keepsSlashes [FilePath.bytesOf path] glob.pieces).contains []

end ResourceAccessors.Pattern
