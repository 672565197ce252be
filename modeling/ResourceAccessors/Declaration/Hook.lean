import ResourceAccessors.Syntax.SourceFile
import ResourceAccessors.Warning

/-!
# Hooks

A hook is a function that is named by a path. The path is written where the type is declared and
used at the crate root, so it is made to mean the same function there.
-/

namespace ResourceAccessors.Declaration

/-- The segments from the crate root on of a path that is written in the module `modulePath`; nothing
when the path leaves the crate. -/
def fromCrateRoot? (segments modulePath : List String) : Option (List String) :=
  match segments with
  | "Self" :: _ => some segments
  | "crate" :: _ => some segments
  | "self" :: rest => some ("crate" :: modulePath ++ rest)
  | _ =>
    let climbs := (segments.takeWhile (· == "super")).length
    if climbs ≤ modulePath.length then
      some ("crate" :: modulePath.take (modulePath.length - climbs) ++ segments.drop climbs)
    else none

/-- The path of a hook as it is valid at the crate root, or why there is none. -/
def hookPath (text : String) (modulePath : List String) : Except Warning String :=
  match Syntax.pathOf? (Text.trim text) with
  | none => .error .hookNotPath
  | some path =>
    let segments := path.segments.map (·.name)
    if !path.isPlain then .error .hookGeneric
    else if path.isGlobal then .ok ("::" ++ "::".intercalate segments)
    else
      match fromCrateRoot? segments modulePath with
      | some resolved => .ok ("::".intercalate resolved)
      | none => .error .hookOutsideCrate

/-- The hook that a text names, if it names one. -/
def hook? (text : String) (modulePath : List String) : Warned (Option String) := do
  match hookPath text modulePath with
  | .ok path => return some path
  | .error warning =>
    Warned.raise warning
    return none

end ResourceAccessors.Declaration
