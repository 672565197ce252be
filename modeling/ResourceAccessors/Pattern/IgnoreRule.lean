import ResourceAccessors.Pattern.GlobParser
import ResourceAccessors.Pattern.Matching
import ResourceAccessors.Text.Blank
import ResourceAccessors.Text.Encoding

/-!
# Ignore rules

The lines of an ignore file. A line is a glob for the paths that are passed over, or, with an
exclamation mark in front, for paths that are not. The last line that matches a path decides. A glob
with a slash in it starts at the folder of the rules, any other in any folder below, and one that
ends in a slash is for folders only.
-/

namespace ResourceAccessors.Pattern

/-- A rule. -/
structure IgnoreRule where
  glob : Glob
  /-- Whether the rule takes paths back in. -/
  isExemption : Bool
  onlyFolders : Bool
  deriving Inhabited

/-- A line without the blanks at its end, unless the last one is escaped. -/
def withoutEndBlanks (line : List Char) : List Char :=
  if "\\ ".toList.isSuffixOf line then line else Text.trimEnd line

/-- A line as its glob is read from it. -/
structure RuleLine where
  text : List Char
  isExemption : Bool
  /-- Whether the rule starts at the folder of the rules whatever its glob holds. -/
  isAnchored : Bool

/-- Read what stands in front of the glob. A number sign or an exclamation mark at the start of a glob
is escaped. -/
def RuleLine.ofChars : List Char → RuleLine
  | '\\' :: '!' :: rest => ⟨'!' :: rest, false, false⟩
  | '\\' :: '#' :: rest => ⟨'#' :: rest, false, false⟩
  | '!' :: '/' :: rest => ⟨rest, true, true⟩
  | '!' :: rest => ⟨rest, true, false⟩
  | '/' :: rest => ⟨rest, false, true⟩
  | chars => ⟨chars, false, false⟩

/-- The text without a slash at its end and without an escape of it, and whether there was one. -/
def splitFolderSign (text : List Char) : List Char × Bool :=
  match text.reverse with
  | '/' :: '\\' :: before => (before.reverse, true)
  | '/' :: before => (before.reverse, true)
  | _ => (text, false)

/-- The text of the glob that a rule matches with. -/
def globText (text : List Char) (isAnchored : Bool) : List Char :=
  let isDeep := !isAnchored && !text.contains '/' && text != "**".toList
  let placed := if isDeep then "**/".toList ++ text else text
  if "/**".toList.isSuffixOf placed then placed ++ "/*".toList else placed

/-- The rule that a line gives. An empty line and a comment give none. -/
def IgnoreRule.ofLine (line : String) : Except String (Option IgnoreRule) :=
  let chars := withoutEndBlanks line.toList
  if chars.isEmpty || line.toList.head? == some '#' then .ok none
  else
    let read := RuleLine.ofChars chars
    let (text, onlyFolders) := splitFolderSign read.text
    match Glob.parse true true (String.ofList (globText text read.isAnchored)) with
    | .ok glob => .ok (some ⟨glob, read.isExemption, onlyFolders⟩)
    | .error fault => .error (fault.describe (String.ofList chars))

/-- Whether a rule is for a path, which is seen from the folder of the rules. -/
def IgnoreRule.applies (rule : IgnoreRule) (path : String) (isFolder : Bool) : Bool :=
  rule.glob.isMatch path && (isFolder || !rule.onlyFolders)

/-- Rules in their written order. -/
abbrev IgnoreRules := List IgnoreRule

namespace IgnoreRules

/-- Whether a path is passed over. -/
def ignores (rules : IgnoreRules) (path : String) (isFolder : Bool) : Bool :=
  match rules.reverse.find? fun rule => IgnoreRule.applies rule path isFolder with
  | some rule => !rule.isExemption
  | none => false

/-- The rules that some patterns give, or the first pattern that is none and why. -/
def ofPatterns (patterns : List String) : Except (String × String) IgnoreRules := do
  let rules ← patterns.mapM fun pattern => (IgnoreRule.ofLine pattern).mapError (pattern, ·)
  return rules.filterMap id

/-! ### Ignore files -/

/-- What was read of an ignore file. -/
structure Reading where
  rules : IgnoreRules
  /-- Whether all lines could be read. -/
  isComplete : Bool

/-- The lines that end in a line feed, and what stands behind the last of them. -/
def splitAtLineFeeds : Bytes → List Bytes × Bytes
  | [] => ([], [])
  | byte :: rest =>
    match byte == 0x0a, splitAtLineFeeds rest with
    | true, (lines, last) => ([] :: lines, last)
    | false, ([], last) => ([], byte :: last)
    | false, (first :: others, last) => ((byte :: first) :: others, last)

/-- A line without the carriage return at its end. -/
def withoutReturn (line : Bytes) : Bytes :=
  if line.getLast? == some 0x0d then line.dropLast else line

/-- The lines of a file without their line breaks. An empty line at the end is none. -/
def linesOf (bytes : Bytes) : List Bytes :=
  let (lines, last) := splitAtLineFeeds bytes
  lines.map withoutReturn ++ if last.isEmpty then [] else [last]

/-- Read lines. A line that is no text ends the file, and one that is no rule is passed over. -/
def readLines : List Bytes → Reading
  | [] => ⟨[], true⟩
  | line :: rest =>
    match String.fromUTF8? ⟨line.toArray⟩ with
    | none => ⟨[], false⟩
    | some text =>
      let others := readLines rest
      match IgnoreRule.ofLine text with
      | .ok rule => ⟨rule.toList ++ others.rules, others.isComplete⟩
      | .error _ => ⟨others.rules, false⟩

/-- The bytes without the byte order marks at their start. -/
def withoutMarks : Bytes → Bytes
  | 0xef :: 0xbb :: 0xbf :: rest => withoutMarks rest
  | bytes => bytes

/-- The rules of an ignore file. -/
def ofFile (content : ByteArray) : Reading :=
  readLines (linesOf (withoutMarks content.data.toList))

end IgnoreRules

end ResourceAccessors.Pattern
