import ResourceAccessors.Accessor.Name
import ResourceAccessors.Embedded.Manifest
import ResourceAccessors.Embedded.Slot
import ResourceAccessors.Resource.Identity
import ResourceAccessors.Text.Casing

/-!
# A crate of queries

A small crate with two resources and three types over them: one gives the queries as written, one
in lower case, and one with a query of its own in place of a resource.
-/

namespace ResourceAccessors.Sample

/-- The folder of the crate. -/
def crateDir : FilePath :=
  ⟨"/sql_queries"⟩

/-- The name of the crate, which is the front part of its resource identities. -/
def crateName : String :=
  "sql_queries"

/-- The file names of the queries with their texts, in the order of the names. -/
def queryFiles : List (String × String) :=
  [("OrderCount.sql", "SELECT COUNT(*) FROM Orders WHERE CustomerId = ?;\n"),
   ("SelectAll.sql", "SELECT * FROM Customers;\n")]

/-- The identity under which a query is embedded. -/
def identityOf (fileName : String) : String :=
  Resource.identity ((crateDir.join ⟨"src/SqlQueries"⟩).child fileName) crateDir crateName

/-- The queries as they are compiled into the crate. -/
def manifest : Embedded.Manifest :=
  ⟨(queryFiles.map fun (fileName, text) => ⟨identityOf fileName, text.toUTF8⟩).toArray⟩

/-- The types with accessors for the queries. -/
inductive QueryType
  | asWritten
  | lowercase
  | overrides
  deriving DecidableEq, Repr, Inhabited

/-- The name of a type. -/
def QueryType.name : QueryType → String
  | .asWritten => "SqlQuery"
  | .lowercase => "SqlQueryLowercase"
  | .overrides => "SqlQueryOverrides"

/-- The query that stands in place of `SelectAll` on the type with a query of its own. -/
def selectAllOverride : String :=
  "SELECT * FROM NewCustomersView;"

/-- Put a query of its own in the slot of `SelectAll`, unless the slot is set. -/
def overrideSelectAll : Embedded.BeforeRead := fun slot _ accessor =>
  if slot.isNone ∧ accessor = "SelectAll" then .returned (some selectAllOverride)
  else .returned slot

/-- The hooks of a type. -/
def QueryType.hooks : QueryType → Embedded.Hooks
  | .asWritten => .none
  | .lowercase => ⟨none, some fun value _ _ => some (Text.lower value)⟩
  | .overrides => ⟨some overrideSelectAll, none⟩

/-- The slots of all accessors by their qualified names; a slot that is not listed is unset. -/
abbrev Slots := List (String × Embedded.Slot)

/-- Call an accessor of a type for a query file. -/
def callAccessor (slots : Slots) (type : QueryType) (fileName : String) :
    Except Embedded.LoadError String × Slots :=
  let accessor := Accessor.name fileName type.name
  let key := type.name ++ "::" ++ accessor
  let loaded := Embedded.Slot.load ((slots.lookup key).getD none) (identityOf fileName) accessor
    type.hooks fun name => (manifest.read name).mapError .unreadable
  (loaded.result, (key, loaded.slot) :: slots)

/-- The type and the query file of an accessor given by its qualified name. -/
def accessorNamed? (qualified : String) : Option (QueryType × String) :=
  let types : List QueryType := [.asWritten, .lowercase, .overrides]
  (types.flatMap fun type => queryFiles.map fun (fileName, _) => (type, fileName)).find?
    fun (type, fileName) => type.name ++ "::" ++ Accessor.name fileName type.name = qualified

/-- Call accessors by their qualified names, one after the other. -/
def callAll (slots : Slots) : List String → List (Except Embedded.LoadError String)
  | [] => []
  | qualified :: rest =>
    match accessorNamed? qualified with
    | some (type, fileName) =>
      match callAccessor slots type fileName with
      | (result, slots) => result :: callAll slots rest
    | none => .error (.unreadable (.notFound qualified)) :: callAll slots rest

end ResourceAccessors.Sample
