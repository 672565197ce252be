import ResourceAccessors.Toml.Value

/-!
# Tables under construction

A table is made by its header, by the header of a table inside it, or by a dotted key, and what made
it decides what may still be added. A value is complete as it is written.
-/

namespace ResourceAccessors.Toml

/-- What made a table. -/
inductive Origin
  /-- Its own header, or the start of the document. -/
  | header
  /-- The header of a table inside it. -/
  | innerHeader
  /-- A dotted key. -/
  | dottedKey
  deriving DecidableEq, Repr, Inhabited

/-- What stands under a key. -/
inductive Node
  | value (value : Value)
  | table (origin : Origin) (entries : List (String × Node))
  /-- The tables of an array of tables, last one first. -/
  | tables (items : List (List (String × Node)))
  deriving Inhabited

/-- The entries of a table under construction. -/
abbrev Table := List (String × Node)

namespace Table

/-- The table with `node` under `key`, in place of what is there. -/
def put (key : String) (node : Node) : Table → Table
  | [] => [(key, node)]
  | first :: rest =>
    if first.1 = key then (key, node) :: rest else first :: put key node rest

/-- Change the table that is found along a path. Tables that are missing on the way are made, by a
dotted key or by a header. A dotted key goes through no table that a header made. -/
def changeAt (isDotted : Bool) (change : Origin → Table → Option Table) :
    List String → Origin → Table → Option Table
  | [], origin, table => change origin table
  | key :: path, _, table =>
    match table.lookup key with
    | none => do
      let made := if isDotted then Origin.dottedKey else .innerHeader
      return put key (.table made (← changeAt isDotted change path made [])) table
    | some (.table inner entries) =>
      if isDotted && inner == .header then none
      else do return put key (.table inner (← changeAt isDotted change path inner entries)) table
    | some (.tables (last :: before)) => do
      return put key (.tables ((← changeAt isDotted change path .header last) :: before)) table
    | some (.tables []) => none
    | some (.value _) => none

/-- An assignment of a value to a key with a path in front of it. -/
structure Assignment where
  path : List String
  key : String
  value : Value

/-- The table with the value that is assigned. No key is assigned twice, and a dotted key adds only to
a table that dotted keys made. -/
def assign (table : Table) (assignment : Assignment) : Option Table :=
  let isDotted := !assignment.path.isEmpty
  changeAt isDotted (fun origin found =>
    if (origin == .dottedKey) != isDotted then none
    else
      match found.lookup assignment.key with
      | none => some (put assignment.key (.value assignment.value) found)
      | some _ => none) assignment.path .header table

/-- The table with all assigned values. -/
def assignAll (table : Table) (assignments : List Assignment) : Option Table :=
  assignments.foldlM assign table

/-- The header of a table with the assignments below it. -/
structure Section where
  path : List String
  key : String
  /-- Whether the header adds a table to an array of tables. -/
  isItem : Bool
  assignments : List Assignment

/-- What stands under the key of a section afterwards. A table has one header at most, and only one
that was made by inner headers may be given it. -/
def Section.node (added : Section) (found : Option Node) : Option Node :=
  match added.isItem, found with
  | true, none => (assignAll [] added.assignments).map fun table => .tables [table]
  | true, some (.tables items) =>
    (assignAll [] added.assignments).map fun table => .tables (table :: items)
  | false, none => (assignAll [] added.assignments).map (.table .header)
  | false, some (.table .innerHeader entries) =>
    (assignAll entries added.assignments).map (.table .header)
  | _, _ => none

/-- The table with a section. -/
def addSection (table : Table) (added : Section) : Option Table :=
  changeAt false (fun _ found => do
    return put added.key (← added.node (found.lookup added.key)) found) added.path .header table

end Table

mutual

/-- The value that a complete node stands for. -/
def Node.complete : Node → Value
  | .value value => value
  | .table _ entries => .table (completeEntries entries)
  | .tables items => .array (completeItems items).reverse

/-- The values of complete entries. -/
def completeEntries : List (String × Node) → List (String × Value)
  | [] => []
  | (key, node) :: rest => (key, node.complete) :: completeEntries rest

/-- The tables of a complete array of tables, in the same order. -/
def completeItems : List (List (String × Node)) → List Value
  | [] => []
  | entries :: rest => .table (completeEntries entries) :: completeItems rest

end

end ResourceAccessors.Toml
