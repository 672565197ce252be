import ResourceAccessors.Generation.Plan
import ResourceAccessors.Render.Layout

/-!
# Documentation of accessors

The text that documents an `impl` block and each of its accessors. The preview of a resource stands
in a code fence that is longer than every run of backticks in the resource.
-/

namespace ResourceAccessors.Render

open Generation

/-- The length of the longest run of backticks, when `current` of them stand directly before and
the longest run so far has the length `longest`. -/
def longestRun (longest current : Nat) : List Char → Nat
  | [] => longest
  | c :: rest =>
    if c = '\x60' then longestRun (max longest (current + 1)) (current + 1) rest
    else longestRun longest 0 rest

/-- The code fence for a text: at least three backticks and more than any run in the text. -/
def fence (text : String) : String :=
  String.ofList (List.replicate (max (longestRun 0 0 text.toList) 2 + 1) '\x60')

/-- The preview of a resource text. -/
def preview (text : String) : String :=
  let text := Text.normalizeLineEndings text
  "\n" ++ fence text ++ "text\n" ++ unlines (Text.lines text) ++ fence text ++ "\n"

/-- The documentation of an accessor. -/
def propertyDoc (fileName resourceName : String) (shown : Option String) : String :=
  "Text of the embedded resource `" ++ fileName ++ "`.\n" ++
    ((shown.map preview).getD "") ++
    "\nRead from `" ++ resourceName ++ "` on first access, then cached.\n"

/-- The text that the documentation of an accessor shows; none in a build for an editor. -/
def shownText (plan : Plan) (property : Property) : Option String :=
  if plan.isDesignTime then none else property.candidate.text

/-- The documentation of an `impl` block. -/
def summary (plan : Plan) : String :=
  "Accessors for the embedded text resources that:\n\n- are in the folder `" ++
    plan.searchFolder ++ "`\n- have the extension `" ++ plan.site.arguments.extension ++ "`\n" ++
    (if plan.properties.isEmpty then
      "\nNo matching files were found, so there are no accessors.\n"
    else "")

end ResourceAccessors.Render
