import Mathlib.Data.List.Forall2
import ResourceAccessors.Declaration.Extraction
import ResourceAccessors.Proofs.Syntax.Names

/-!
# The marked declarations of an item tree

A declaration is told apart from all others by its address: its index among the items around it, behind
the indices of the modules on the way to it. A source file has one site for each of its marked
declarations, in the order of their addresses, and a site records the modules around the declaration with
the conditions on them.
-/

namespace ResourceAccessors.Declaration

open Syntax

/-! ### Declarations in an item tree -/

/-- An inline module around a declaration, with its name as written. -/
structure Enclosing where
  attributes : List Attribute
  name : String

/-- A declaration with what leads to it in an item tree, outermost first. -/
structure Occurrence where
  /-- The index of each module among the items around it, and then that of the declaration. -/
  address : List Nat
  modules : List Enclosing
  declared : Container

namespace Occurrence

/-- The declaration as it occurs around the module that holds it. -/
def within (found : Occurrence) (index : Nat) (around : Enclosing) : Occurrence :=
  ⟨index :: found.address, around :: found.modules, found.declared⟩

/-- Where declarations occur: among the items themselves, or in an inline module among them. -/
inductive OccursIn : Occurrence → List Item → Prop
  | here {items : List Item} {index : Nat} {declared : Container}
      (item : items[index]? = some (.container declared)) : OccursIn ⟨[index], [], declared⟩ items
  | inside {items inner : List Item} {index : Nat} {attributes : List Attribute} {name : String}
      {found : Occurrence} (item : items[index]? = some (.module attributes name (some inner)))
      (within : found.OccursIn inner) : OccursIn (found.within index ⟨attributes, name⟩) items

/-- The names on the way to a declaration and its own are words of the source. -/
structure WellNamed (found : Occurrence) : Prop where
  modules : ∀ around ∈ found.modules, IsWord around.name
  name : IsWord found.declared.name
  generics : found.declared.generics.NamedPlainly

/-- Where all items are named by words, so are the declarations among them. -/
theorem OccursIn.wellNamed {found : Occurrence} {items : List Item} (occurs : found.OccursIn items)
    (wellNamed : ∀ item ∈ items, item.WellNamed) : found.WellNamed := by
  induction occurs with
  | here stands =>
    cases wellNamed _ (List.mem_of_getElem? stands) with
    | container name generics =>
      refine ⟨?_, name, generics⟩
      intro around mem
      cases mem
  | inside stands _ ih =>
    cases wellNamed _ (List.mem_of_getElem? stands) with
    | inline word inside =>
      have inner := ih inside
      refine ⟨?_, inner.name, inner.generics⟩
      intro around mem
      rcases List.mem_cons.1 mem with rfl | deeper
      · exact word
      · exact inner.modules around deeper

end Occurrence

/-- Whether a declared type has an attribute whose path ends in the name of the marker. -/
def IsMarked (declared : Container) : Prop :=
  ∃ marker ∈ declared.attributes, marker.path.segments.getLast? = some markerName

/-- All marked declarations among some items, in the order in which they are written. -/
structure ListsMarked (items : List Item) (found : List Occurrence) : Prop where
  ascending : found.Pairwise (·.address < ·.address)
  mem_iff : ∀ occurrence, occurrence ∈ found ↔
    occurrence.OccursIn items ∧ IsMarked occurrence.declared

mutual

/-- The marked declarations in the item with an index. -/
def markedInItem (index : Nat) : Item → List Occurrence
  | .container declared =>
    if declared.attributes.any isMarker then [⟨[index], [], declared⟩] else []
  | .module _ _ none => []
  | .module attributes name (some items) =>
    (markedInItems 0 items).map (·.within index ⟨attributes, name⟩)
  | .other => []

/-- The marked declarations in items, the first of which has an index. -/
def markedInItems (index : Nat) : List Item → List Occurrence
  | [] => []
  | item :: rest => markedInItem index item ++ markedInItems (index + 1) rest

end

/-! ### They are all listed, in order -/

/-- A declared type is marked when one of its attributes is the marker. -/
theorem any_isMarker_iff {declared : Container} :
    declared.attributes.any isMarker = true ↔ IsMarked declared := by
  simp [IsMarked, isMarker]

/-- What is found in an item has an address that starts with the index of the item. -/
theorem exists_address_of_mem_markedInItem {index : Nat} {item : Item} {found : Occurrence}
    (mem : found ∈ markedInItem index item) : ∃ rest, found.address = index :: rest := by
  unfold markedInItem at mem
  split at mem
  next declared =>
    split at mem
    · rw [List.mem_singleton.1 mem]
      exact ⟨[], rfl⟩
    · cases mem
  next => cases mem
  next attributes name items =>
    obtain ⟨inner, -, rfl⟩ := List.mem_map.1 mem
    exact ⟨inner.address, rfl⟩
  next => cases mem

/-- What is found in items has an address that starts no earlier than they do. -/
theorem exists_address_of_mem_markedInItems {start : Nat} {items : List Item} {found : Occurrence}
    (mem : found ∈ markedInItems start items) :
    ∃ index rest, start ≤ index ∧ found.address = index :: rest := by
  induction items generalizing start with
  | nil => cases mem
  | cons item others ih =>
    rw [markedInItems, List.mem_append] at mem
    rcases mem with ofItem | ofOthers
    · obtain ⟨rest, address⟩ := exists_address_of_mem_markedInItem ofItem
      exact ⟨start, rest, Nat.le_refl _, address⟩
    · obtain ⟨index, rest, later, address⟩ := ih ofOthers
      exact ⟨index, rest, by omega, address⟩

mutual

/-- The addresses of the marked types in an item ascend. -/
theorem ascending_markedInItem (index : Nat) (item : Item) :
    (markedInItem index item).Pairwise (·.address < ·.address) := by
  cases item with
  | container declared =>
    rw [markedInItem]
    split
    · exact List.pairwise_singleton _ _
    · exact .nil
  | module attributes name items =>
    cases items with
    | none => exact .nil
    | some items =>
      rw [markedInItem, List.pairwise_map]
      apply (ascending_markedInItems 0 items).imp
      intro first second before
      exact List.cons_lt_cons_iff.2 (.inr ⟨rfl, before⟩)
  | other => exact .nil

/-- Items are searched in the order of their addresses. -/
theorem ascending_markedInItems (start : Nat) (items : List Item) :
    (markedInItems start items).Pairwise (·.address < ·.address) := by
  cases items with
  | nil => exact .nil
  | cons item others =>
    rw [markedInItems, List.pairwise_append]
    refine ⟨ascending_markedInItem start item, ascending_markedInItems (start + 1) others, ?_⟩
    intro first firstMem second secondMem
    obtain ⟨_, firstAddress⟩ := exists_address_of_mem_markedInItem firstMem
    obtain ⟨index, _, later, secondAddress⟩ := exists_address_of_mem_markedInItems secondMem
    rw [firstAddress, secondAddress]
    exact List.cons_lt_cons_iff.2 (.inl (by omega))

end

/-- What is found in items is found in the item at some index. -/
theorem mem_markedInItems_iff {start : Nat} {items : List Item} {found : Occurrence} :
    found ∈ markedInItems start items ↔
      ∃ index item, items[index]? = some item ∧ found ∈ markedInItem (start + index) item := by
  induction items generalizing start with
  | nil => simp [markedInItems]
  | cons first rest ih =>
    rw [markedInItems, List.mem_append, ih]
    constructor
    · rintro (ofFirst | ⟨index, item, stands, ofItem⟩)
      · exact ⟨0, first, rfl, ofFirst⟩
      · exact ⟨index + 1, item, stands, by rwa [Nat.add_assoc, Nat.add_comm 1] at ofItem⟩
    · rintro ⟨index, item, stands, ofItem⟩
      cases index with
      | zero =>
        cases stands
        exact .inl ofItem
      | succ index =>
        exact .inr ⟨index, item, stands, by rwa [Nat.add_assoc, Nat.add_comm 1]⟩

/-- Every declaration that is found occurs at its address and is marked. -/
theorem occursIn_of_mem_markedInItems {items : List Item} {found : Occurrence}
    (mem : found ∈ markedInItems 0 items) : found.OccursIn items ∧ IsMarked found.declared := by
  obtain ⟨index, item, stands, mem⟩ := mem_markedInItems_iff.1 mem
  rw [Nat.zero_add] at mem
  unfold markedInItem at mem
  split at mem
  next declared =>
    split at mem
    next marked =>
      rw [List.mem_singleton.1 mem]
      exact ⟨.here stands, any_isMarker_iff.1 marked⟩
    next => cases mem
  next => cases mem
  next attributes name inner =>
    obtain ⟨deeper, deeperMem, rfl⟩ := List.mem_map.1 mem
    have smaller : sizeOf inner < sizeOf items := by
      have bound := List.sizeOf_lt_of_mem (List.mem_of_getElem? stands)
      simp only [Item.module.sizeOf_spec, Option.some.sizeOf_spec] at bound
      omega
    obtain ⟨occurs, marked⟩ := occursIn_of_mem_markedInItems deeperMem
    exact ⟨.inside stands occurs, marked⟩
  next => cases mem
termination_by sizeOf items

/-- Every marked declaration is found where it occurs. -/
theorem Occurrence.OccursIn.mem_markedInItems {items : List Item} {found : Occurrence}
    (occurs : found.OccursIn items) (marked : IsMarked found.declared) :
    found ∈ markedInItems 0 items := by
  induction occurs with
  | @here items index declared stands =>
    apply mem_markedInItems_iff.2
    refine ⟨index, _, stands, ?_⟩
    rw [Nat.zero_add, markedInItem, if_pos (any_isMarker_iff.2 marked)]
    exact List.mem_singleton_self _
  | @inside items inner index attributes name deeper stands within ih =>
    apply mem_markedInItems_iff.2
    refine ⟨index, _, stands, ?_⟩
    rw [Nat.zero_add, markedInItem]
    exact List.mem_map_of_mem (ih marked)

/-- The search finds all marked declarations. -/
theorem listsMarked (items : List Item) : ListsMarked items (markedInItems 0 items) where
  ascending := ascending_markedInItems 0 items
  mem_iff _ := ⟨occursIn_of_mem_markedInItems, fun ⟨occurs, marked⟩ => occurs.mem_markedInItems marked⟩

/-! ### What a site records -/

/-- The condition that an attribute states, as written, when it is a `cfg` attribute with arguments. -/
def predicate? (condition : Attribute) : Option String :=
  if condition.path.isIdentifier "cfg" then
    match condition.content with
    | .arguments tokens => some tokens.print
    | _ => none
  else none

/-- The conditions that attributes state, in the order in which they are written. -/
def predicates (attributes : List Attribute) : List String :=
  attributes.filterMap predicate?

/-- Whether a declared type is marked first by an attribute. -/
def IsFirstMarker (marker : Attribute) (declared : Container) : Prop :=
  ∃ before after, declared.attributes = before ++ marker :: after ∧ isMarker marker = true ∧
    ∀ earlier ∈ before, isMarker earlier = false

/-- What a site records of a declaration that occurs in a place. -/
structure Records (place : Place) (found : Occurrence) (site : Site) : Prop where
  name : site.name = unraw found.declared.name
  /-- The modules of the place, and behind them those around the declaration. -/
  modulePath : site.modulePath = place.modulePath ++ found.modules.map (unraw ·.name)
  sourceFile : site.sourceFile = place.file
  visibility : site.visibility = found.declared.visibility
  kind : site.kind = found.declared.kind
  implGenerics : site.implGenerics = found.declared.generics.implText
  typeGenerics : site.typeGenerics = found.declared.generics.typeText
  whereClause : site.whereClause = found.declared.generics.whereText
  genericNames : site.genericNames = found.declared.generics.names
  /-- The conditions of the place, those of the modules from the outermost one on, and those of the
  declaration. -/
  cfg : site.cfg = place.cfg ++
    ((found.modules.flatMap (predicates ·.attributes)) ++ predicates found.declared.attributes)
  arguments : ∃ marker, IsFirstMarker marker found.declared ∧
    site.arguments = (argumentsOf site.modulePath site.name marker.content).value

/-- The predicates in force behind attributes are those before them and those that they state. -/
theorem value_predicatesWith (outer : List String) (attributes : List Attribute) :
    (predicatesWith outer attributes).value = outer ++ predicates attributes := by
  induction attributes generalizing outer with
  | nil => simp [predicatesWith, predicates]
  | cons first rest ih =>
    simp only [predicatesWith] at ih ⊢
    by_cases condition : first.path.isIdentifier "cfg" = true
    · rw [List.filter_cons, if_pos condition, List.foldlM_cons, Warned.value_bind, ih]
      cases content : first.content <;> simp [predicates, predicate?, condition, content]
    · rw [List.filter_cons, if_neg condition, ih]
      simp [predicates, predicate?, condition]

/-- The site of a declaration records it, and a declaration that is not marked has none. -/
theorem records_siteOf? (place : Place) (index : Nat) (declared : Container) :
    List.Forall₂ (Records place)
      (if declared.attributes.any isMarker then [⟨[index], [], declared⟩] else [])
      (siteOf? place declared).value.toList := by
  rw [siteOf?]
  cases first : declared.attributes.find? isMarker with
  | none =>
    have unmarked : declared.attributes.any isMarker = false := by
      rw [← Bool.not_eq_true, List.any_eq_true]
      rintro ⟨marker, mem, marks⟩
      exact List.find?_eq_none.1 first marker mem marks
    rw [unmarked]
    exact .nil
  | some marker =>
    obtain ⟨marks, before, after, split, earlier⟩ := List.find?_eq_some_iff_append.1 first
    have marked : declared.attributes.any isMarker = true :=
      List.any_eq_true.2 ⟨marker, List.mem_of_find?_eq_some first, marks⟩
    rw [if_pos marked]
    refine .cons ?_ .nil
    exact {
      name := rfl
      modulePath := (List.append_nil _).symm
      sourceFile := rfl
      visibility := rfl
      kind := rfl
      implGenerics := rfl
      typeGenerics := rfl
      whereClause := rfl
      genericNames := rfl
      cfg := value_predicatesWith _ _
      arguments := ⟨marker, ⟨before, after, split, marks, by simpa using earlier⟩, rfl⟩ }

/-- Inside a module, a site records what it does around the module too. -/
theorem Records.within {place : Place} {found : Occurrence} {site : Site} {around : Enclosing}
    (records : Records { place with
      modulePath := place.modulePath ++ [unraw around.name]
      cfg := place.cfg ++ predicates around.attributes } found site) (index : Nat) :
    Records place (found.within index around) site := by
  exact { records with
    modulePath := by simp [records.modulePath, Occurrence.within]
    cfg := by simp [records.cfg, Occurrence.within] }

mutual

/-- The sites in an item record its marked types, one for each in their order. -/
theorem records_sitesOfItem (place : Place) (index : Nat) (item : Item) :
    List.Forall₂ (Records place) (markedInItem index item) (sitesOfItem place item).value := by
  cases item with
  | container declared => exact records_siteOf? place index declared
  | module attributes name items =>
    cases items with
    | none => exact .nil
    | some items =>
      rw [markedInItem, sitesOfItem, Warned.value_bind, value_predicatesWith,
        List.forall₂_map_left_iff]
      exact (records_sitesOfItems _ 0 items).imp fun found site records =>
        records.within index
  | other => exact .nil

/-- The sites of items record their marked declarations, one each. -/
theorem records_sitesOfItems (place : Place) (start : Nat) (items : List Item) :
    List.Forall₂ (Records place) (markedInItems start items) (sitesOfItems place items).value := by
  cases items with
  | nil => exact .nil
  | cons first rest =>
    exact List.rel_append (records_sitesOfItem place start first)
      (records_sitesOfItems place (start + 1) rest)

end

/-- The sites of a source file record its marked declarations, one each. -/
theorem records_sitesOf (file : FilePath) (modulePath : List String) {text : String}
    {items : List Item} (parsed : itemsOfFile? text = some items) :
    List.Forall₂ (Records ⟨file, modulePath, []⟩) (markedInItems 0 items)
      (sitesOf file modulePath text).value := by
  rw [sitesOf, parsed]
  exact records_sitesOfItems _ 0 items

/-- Each site of a source file records one of its marked declarations. -/
theorem exists_records_of_mem_sitesOf (file : FilePath) (modulePath : List String) {text : String}
    {items : List Item} (parsed : itemsOfFile? text = some items) {site : Site}
    (mem : site ∈ (sitesOf file modulePath text).value) :
    ∃ found ∈ markedInItems 0 items, Records ⟨file, modulePath, []⟩ found site := by
  obtain ⟨same, records⟩ := List.forall₂_iff_get.1 (records_sitesOf file modulePath parsed)
  obtain ⟨⟨index, inside⟩, rfl⟩ := List.get_of_mem mem
  exact ⟨_, List.get_mem _ _, records index (same ▸ inside) inside⟩

/-- The marked declarations in a source file are named by its words. -/
theorem wellNamed_of_mem_markedInItems {text : String} {items : List Item}
    (parsed : itemsOfFile? text = some items) :
    ∀ found ∈ markedInItems 0 items, found.WellNamed := by
  intro found mem
  exact (occursIn_of_mem_markedInItems mem).1.wellNamed (wellNamed_of_itemsOfFile? parsed)

/-- A source file that parses has one site for each of its marked declarations, in the order in which
they are written, and no other. Each site records its declaration, the modules around it and the
conditions on all of them, and its arguments are those of the first marker. -/
theorem sitesOf_records_marked (file : FilePath) (modulePath : List String) {text : String}
    {items : List Item} (parsed : itemsOfFile? text = some items) :
    ∃ found, ListsMarked items found ∧
      List.Forall₂ (Records ⟨file, modulePath, []⟩) found (sitesOf file modulePath text).value :=
  ⟨markedInItems 0 items, listsMarked items, records_sitesOf file modulePath parsed⟩

/-- A source with a marked type, and another one in a module. -/
def nestedSource : String :=
  "#[embedded_resource_properties]\nstruct First;\n#[cfg(x)]\nmod inner \x7b\n" ++
    "#[a::embedded_resource_properties]\n#[cfg(y)]\nenum Second \x7b\x7d\n\x7d\n"

/-- The two marked types of the source are recorded with the modules and conditions around them. -/
theorem sitesOf_records_marked_nestedSource :
    ∃ items found, itemsOfFile? nestedSource = some items ∧ ListsMarked items found ∧
      List.Forall₂ (Records ⟨⟨"/project/src/a.rs"⟩, ["a"], []⟩) found
        (sitesOf ⟨"/project/src/a.rs"⟩ ["a"] nestedSource).value ∧
      (sitesOf ⟨"/project/src/a.rs"⟩ ["a"] nestedSource).value.map
          (fun site => (site.display, site.cfg)) =
        [("a::First", []), ("a::inner::Second", ["x", "y"])] := by
  have sites : (sitesOf ⟨"/project/src/a.rs"⟩ ["a"] nestedSource).value.map
      (fun site => (site.display, site.cfg)) =
        [("a::First", []), ("a::inner::Second", ["x", "y"])] := by
    decide +kernel
  obtain ⟨items, parsed⟩ : ∃ items, itemsOfFile? nestedSource = some items := by
    apply Option.ne_none_iff_exists'.1
    intro unparsed
    rw [sitesOf, unparsed] at sites
    cases sites
  obtain ⟨found, lists, records⟩ := sitesOf_records_marked ⟨"/project/src/a.rs"⟩ ["a"] parsed
  exact ⟨items, found, parsed, lists, records, sites⟩

end ResourceAccessors.Declaration
