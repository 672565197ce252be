import ResourceAccessors.Declaration.Site
import ResourceAccessors.Stored.Decoder

/-!
# Stored declarations

The stored form of declaration sites.
-/

namespace ResourceAccessors.Stored

open Declaration

/-- A path, stored as it is written. -/
def path : Decoder FilePath := fun json =>
  (text json).map FilePath.mk

/-- The stored form of a path. -/
def ofPath (path : FilePath) : Json :=
  .string path.text

/-- The stored form of a kind of type. -/
def ofKind : Kind → Json
  | .struct => .string "Struct"
  | .tupleStruct => .string "TupleStruct"
  | .unitStruct => .string "UnitStruct"
  | .enum => .string "Enum"
  | .union => .string "Union"

/-- A kind of type. -/
def kind : Decoder Kind := fun json =>
  match variant json with
  | some ("Struct", .null) => some .struct
  | some ("TupleStruct", .null) => some .tupleStruct
  | some ("UnitStruct", .null) => some .unitStruct
  | some ("Enum", .null) => some .enum
  | some ("Union", .null) => some .union
  | _ => none

/-- The stored form of a visibility. -/
def ofVisibility : Visibility → Json
  | .everywhere => .string "Public"
  | .crate => .string "Crate"
  | .restricted tokens => .object [("Restricted", .string tokens)]
  | .inherited => .string "Inherited"

/-- A visibility. -/
def visibility : Decoder Visibility := fun json =>
  match variant json with
  | some ("Public", .null) => some .everywhere
  | some ("Crate", .null) => some .crate
  | some ("Restricted", .string tokens) => some (.restricted tokens)
  | some ("Inherited", .null) => some .inherited
  | _ => none

/-- The stored form of the arguments of the marker attribute. -/
def ofArguments (arguments : Arguments) : Json :=
  .object [("extension", .string arguments.extension), ("path", .string arguments.path),
    ("before_read", .ofOption .string arguments.beforeRead),
    ("after_read", .ofOption .string arguments.afterRead)]

/-- The arguments of the marker attribute. -/
def arguments : Decoder Arguments := fun json =>
  match structureFields ["extension", "path", "before_read", "after_read"] json with
  | some [extension, path, beforeRead, afterRead] => do
    return {
      extension := ← text extension
      path := ← text path
      beforeRead := ← optional text beforeRead
      afterRead := ← optional text afterRead }
  | _ => none

/-- The stored form of a site. -/
def ofSite (site : Site) : Json :=
  .object [("name", .string site.name), ("module_path", .ofStrings site.modulePath),
    ("source_file", ofPath site.sourceFile), ("visibility", ofVisibility site.visibility),
    ("kind", ofKind site.kind), ("impl_generics", .string site.implGenerics),
    ("ty_generics", .string site.typeGenerics), ("where_clause", .string site.whereClause),
    ("generic_names", .ofStrings site.genericNames), ("cfg", .ofStrings site.cfg),
    ("attribute", ofArguments site.arguments)]

/-- The names of the stored fields of a site. -/
def siteFields : List String :=
  ["name", "module_path", "source_file", "visibility", "kind", "impl_generics", "ty_generics",
   "where_clause", "generic_names", "cfg", "attribute"]

/-- A site. -/
def site : Decoder Site := fun json =>
  match structureFields siteFields json with
  | some [name, modulePath, sourceFile, seen, declared, implGenerics, typeGenerics, whereClause,
      genericNames, cfg, given] => do
    return {
      name := ← text name
      modulePath := ← list text modulePath
      sourceFile := ← path sourceFile
      visibility := ← visibility seen
      kind := ← kind declared
      implGenerics := ← text implGenerics
      typeGenerics := ← text typeGenerics
      whereClause := ← text whereClause
      genericNames := ← list text genericNames
      cfg := ← list text cfg
      arguments := ← arguments given }
  | _ => none

end ResourceAccessors.Stored
