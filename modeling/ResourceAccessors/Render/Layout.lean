import ResourceAccessors.Text.Lines

/-!
# The layout of generated code

Generated code is a sequence of lines, each with a break behind it. A documentation line is `///`,
with a space before its text where it has one.
-/

namespace ResourceAccessors.Render

/-- The version that the head of every artifact names. -/
def generatorVersion : String :=
  "0.3.0"

/-- The lines of a text with a break behind each. -/
def unlines (lines : List String) : String :=
  String.join (lines.map (· ++ "\n"))

/-- The head of every artifact. -/
def header : List String :=
  ["// <auto-generated>",
   "//     This code was generated by embedres_core " ++ generatorVersion ++ ".",
   "//     Changes to this file are overwritten on the next build.",
   "// </auto-generated>",
   ""]

/-- A line of documentation. -/
def docLine (line : String) : String :=
  if line.isEmpty then "///" else "/// " ++ line

/-- The lines of a text as documentation. -/
def docLines (text : String) : List String :=
  (Text.lines text).map docLine

end ResourceAccessors.Render
