/-!
# Globs

A glob describes texts of paths: a star stands for any characters, two stars between slashes for any
folders, a class in brackets for one of some characters, and braces hold alternatives.
-/

namespace ResourceAccessors.Pattern

/-- A piece of a glob. -/
inductive Piece
  | literal (char : Char)
  /-- One byte. -/
  | anyByte
  /-- Any number of bytes. -/
  | anyBytes
  /-- Two stars at the start: nothing, or folders with the slash behind them. -/
  | leadingFolders
  /-- Two stars behind a slash at the end: a slash and all behind it. -/
  | trailingFolders
  /-- Two stars between slashes: a slash, or folders between two slashes. -/
  | innerFolders
  /-- One byte in some ranges, or in none of them. -/
  | oneOf (isNegated : Bool) (ranges : List (Char × Char))
  /-- One of some alternatives. -/
  | choice (branches : List (List Piece))
  deriving Repr, Inhabited

/-- Why a text is no glob. -/
inductive GlobFault
  | unclosedClass
  | reversedRange (low high : Char)
  | unopenedChoice
  | unclosedChoice
  | danglingEscape
  deriving DecidableEq, Repr, Inhabited

/-- The text of a fault. -/
def GlobFault.message : GlobFault → String
  | .unclosedClass => "unclosed character class; missing ']'"
  | .reversedRange low high =>
    "invalid range; '" ++ low.toString ++ "' > '" ++ high.toString ++ "'"
  | .unopenedChoice =>
    "unopened alternate group; missing '\x7b' (maybe escape '\x7d' with '[\x7d]'?)"
  | .unclosedChoice =>
    "unclosed alternate group; missing '\x7d' (maybe escape '\x7b' with '[\x7b]'?)"
  | .danglingEscape => "dangling '\\'"

/-- The text of a fault in the glob `glob`. -/
def GlobFault.describe (fault : GlobFault) (glob : String) : String :=
  "error parsing glob '" ++ glob ++ "': " ++ fault.message

/-- A glob. -/
structure Glob where
  pieces : List Piece
  /-- Whether a star and a question mark stand for no slash. -/
  keepsSlashes : Bool
  deriving Repr, Inhabited

end ResourceAccessors.Pattern
