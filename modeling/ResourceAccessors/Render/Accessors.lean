import ResourceAccessors.Render.Documentation
import ResourceAccessors.Text.Quoted

/-!
# The artifact of a declaration

An `impl` block with the hooks of the type and one accessor per resource.
-/

namespace ResourceAccessors.Render

open Generation

/-- The value of a hook constant. -/
def hookValue (path : Option String) (hookType : String) : String :=
  match path with
  | some path => "Some(" ++ path ++ " as ::embedres::" ++ hookType ++ ")"
  | none => "None"

/-- The lines of one accessor. -/
def accessorLines (plan : Plan) (property : Property) : List String :=
  [""] ++
  (docLines (propertyDoc property.candidate.fileName property.candidate.resourceName
    (shownText plan property))).map ("\t" ++ ·) ++
  ["\t" ++ plan.site.accessorVisibility ++ "fn " ++ property.name ++
      "() -> ::embedres::ResourceResult<::std::string::String> \x7b",
   "\t\tstatic BACKING_SLOT: ::embedres::BackingSlot = ::embedres::BackingSlot::new();",
   "\t\tconst RESOURCE_NAME: &str = " ++ Text.quote property.candidate.resourceName ++ ";",
   "",
   "\t\tBACKING_SLOT.load(",
   "\t\t\tRESOURCE_NAME,",
   "\t\t\t" ++ Text.quote property.name ++ ",",
   "\t\t\t&Self::EMBEDDED_RESOURCE_HOOKS,",
   "\t\t\tcrate::__embedded_resources::read,",
   "\t\t)",
   "\t\x7d"]

/-- The lines of the artifact of a declaration. -/
def accessorsLines (plan : Plan) : List String :=
  let site := plan.site
  header ++ docLines (summary plan) ++ site.cfgAttributes ++
  ["#[allow(non_snake_case, dead_code, unused_qualifications)]",
   "impl" ++ site.implGenerics ++ " " ++ site.selfType ++ site.whereClause ++ " \x7b",
   "\t#[doc(hidden)]",
   "\tconst EMBEDDED_RESOURCE_HOOKS: ::embedres::ResourceHooks = ::embedres::ResourceHooks \x7b",
   "\t\tbefore_read: " ++ hookValue site.arguments.beforeRead "BeforeRead" ++ ",",
   "\t\tafter_read: " ++ hookValue site.arguments.afterRead "AfterRead" ++ ",",
   "\t\x7d;"] ++
  plan.properties.flatMap (accessorLines plan) ++
  ["\x7d"]

/-- The text of the artifact of a declaration. -/
def accessors (plan : Plan) : String :=
  unlines (accessorsLines plan)

end ResourceAccessors.Render
