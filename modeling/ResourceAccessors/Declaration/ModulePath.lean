import ResourceAccessors.FilePath.Bytes

/-!
# Modules of source files

The module that a source file defines, by its place below a source root.
-/

namespace ResourceAccessors.Declaration

/-- A file name without the ending of a source file, when it has that ending. -/
def sourceStem? (fileName : String) : Option String :=
  let chars := fileName.toList
  let ending := ['.', 'r', 's']
  if ending.isSuffixOf chars then some (String.ofList (chars.dropLast.dropLast.dropLast)) else none

/-- The module with the stem `stem` in the module of its folder. At the source root, `lib` and
`main` are the crate itself; `mod` is the module of its folder. -/
def moduleOfStem (folders : List String) (stem : String) : List String :=
  if folders.isEmpty ∧ (stem = "lib" ∨ stem = "main") then folders
  else if stem = "mod" then folders
  else folders ++ [stem]

/-- The modules from the crate root to the one that `file` defines. A file that is not a source
file below the root defines none, and the files under `bin` belong to other targets. -/
def modulePath? (sourceRoot file : FilePath) : Option (List String) := do
  let relative ← file.relativeTo? sourceRoot
  let spellings := relative.map fun step => FilePath.shownText step.spelling
  let fileName ← spellings.getLast?
  let stem ← sourceStem? fileName
  let folders := spellings.dropLast
  if folders.head? = some "bin" then none else some (moduleOfStem folders stem)

end ResourceAccessors.Declaration
