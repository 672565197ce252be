import ResourceAccessors.Generation.Plan
import ResourceAccessors.Keyed
import ResourceAccessors.Render.Manifest

/-!
# Diagnostics

What is worth reporting about the plans of a pass and does not stop it: types that the generated
code cannot name, resources that cannot be read, and accessors of one type with one name.
-/

namespace ResourceAccessors.Generation

/-- A problem of one type, which is named as displayed. -/
inductive Diagnostic
  | duplicateName (type name : String) (fileNames : List String)
  | unreachableType (type : String)
  | resourceNotText (type fileName : String)
  | resourceNotEmbedded (type resourceName : String)
  deriving DecidableEq, Repr, Inhabited

namespace Diagnostic

/-- The text of a diagnostic. -/
def message : Diagnostic → String
  | .duplicateName type name fileNames =>
    "`" ++ type ++ "`: files " ++ ", ".intercalate (fileNames.map fun file => "`" ++ file ++ "`") ++
      " all produce the accessor `" ++ name ++ "`"
  | .unreachableType type =>
    "`" ++ type ++ "` is private to its module; mark it `pub(crate)` so the generated " ++
      "accessors can extend it"
  | .resourceNotText type fileName =>
    "`" ++ type ++ "`: resource `" ++ fileName ++ "` is not valid UTF-8"
  | .resourceNotEmbedded type resourceName =>
    "`" ++ type ++ "`: resource `" ++ resourceName ++ "` is not in the `[resources] embed` set"

/-- The problems of one accessor. -/
def ofProperty (type : String) (embedded : List String) (property : Property) :
    List Diagnostic :=
  (if property.candidate.text.isNone then
    [.resourceNotText type property.candidate.fileName]
  else []) ++
  (if property.candidate.resourceName ∈ embedded then []
  else [.resourceNotEmbedded type property.candidate.resourceName])

/-- The file names behind each accessor name, in the order of the names. -/
def fileNamesByName (properties : List Property) : Keyed (List String) :=
  properties.foldl (fun map property =>
    map.insert property.name
      ((map.find? property.name).getD [] ++ [property.candidate.fileName])) .empty

/-- The accessor names that several files share. -/
def duplicates (type : String) (properties : List Property) : List Diagnostic :=
  (fileNamesByName properties).entries.filterMap fun (name, fileNames) =>
    if fileNames.length > 1 then some (.duplicateName type name fileNames) else none

/-- The problems of one plan. -/
def ofPlan (embedded : List String) (plan : Plan) : List Diagnostic :=
  let type := plan.site.display
  (if plan.site.isReachable then [] else [.unreachableType type]) ++
    plan.properties.flatMap (ofProperty type embedded) ++ duplicates type plan.properties

/-- The problems of some plans, given the files that are embedded. -/
def collect (plans : List Plan) (embedded : List Render.EmbeddedFile) : List Diagnostic :=
  plans.flatMap (ofPlan (embedded.map Render.EmbeddedFile.resourceName))

end Diagnostic

end ResourceAccessors.Generation
