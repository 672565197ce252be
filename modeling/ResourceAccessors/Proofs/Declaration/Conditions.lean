import ResourceAccessors.Proofs.Declaration.Marked

/-!
# When a declared type exists

A site repeats the conditions on its declaration and on the modules around it, so these hold under a truth
assignment exactly when those do. The conditions that a file states on all that is in it are not repeated,
so what the site repeats says less when they state something that is not stated again behind them.
-/

namespace ResourceAccessors.Syntax

open ResourceAccessors.Syntax.Parser

/-- The attributes that a source file has itself, and its items, when it parses. -/
def fileOf? (source : String) : Option (List Attribute × List Item) := do
  let tokens ← tokenize? (withoutInterpreter source.toList)
  let g := Grammar.for tokens
  runAll (do
    let own ← g.innerAttributes
    let items ← toEnd g.item
    return (own, items)) tokens

/-- Discarding keeps the cursor and drops what was found. -/
theorem Parser.run_discard {α : Type} (parser : Parser α) (cursor : Cursor) :
    (discard parser).run cursor = (parser.run cursor).map fun found => ((), found.2) := by
  show (parser >>= fun _ => pure ()).run cursor = _
  rw [run_bind]
  cases parser.run cursor <;> rfl

/-- The items of a source file are those next to its own attributes. -/
theorem itemsOfFile?_eq (source : String) : itemsOfFile? source = (fileOf? source).map (·.2) := by
  rw [itemsOfFile?, fileOf?]
  cases tokenize? (withoutInterpreter source.toList) with
  | none => rfl
  | some tokens =>
    simp only [Option.bind_eq_bind, Option.bind_some, runAll, run_bind, run_discard]
    cases (Grammar.for tokens).innerAttributes.run ⟨tokens, []⟩ with
    | none => rfl
    | some own =>
      simp only [Option.map_some, Option.bind_some]
      cases (toEnd (Grammar.for tokens).item).run own.2 with
      | none => rfl
      | some items =>
        show (if items.2.rest.isEmpty then some items.1 else none) =
          (if items.2.rest.isEmpty then some (own.1, items.1) else none).map (·.2)
        split <;> rfl

end ResourceAccessors.Syntax

namespace ResourceAccessors.Declaration

open Syntax

/-! ### Conditions under a truth assignment -/

/-- Whether all conditions that attributes state hold, where `holds` says which predicates do. -/
def Satisfied (holds : String → Prop) (attributes : List Attribute) : Prop :=
  ∀ condition ∈ attributes, ∀ predicate ∈ predicate? condition, holds predicate

/-- Whether the conditions on a declaration and on the modules around it hold. -/
def Occurrence.IsPresent (holds : String → Prop) (found : Occurrence) : Prop :=
  (∀ around ∈ found.modules, Satisfied holds around.attributes) ∧
    Satisfied holds found.declared.attributes

/-- Whether all conditions that a site repeats hold. -/
def Site.Holds (holds : String → Prop) (site : Site) : Prop :=
  ∀ predicate ∈ site.cfg, holds predicate

variable {holds : String → Prop}

/-- Attributes are satisfied when all their predicates hold. -/
theorem satisfied_iff {attributes : List Attribute} :
    Satisfied holds attributes ↔ ∀ predicate ∈ predicates attributes, holds predicate := by
  simp only [Satisfied, predicates, List.mem_filterMap]
  constructor
  · rintro satisfied predicate ⟨condition, mem, stated⟩
    exact satisfied condition mem predicate stated
  · intro all condition mem predicate stated
    exact all predicate ⟨condition, mem, stated⟩

/-- What a site repeats holds exactly when the conditions on its declaration and around it do. -/
theorem Records.holds_iff {file : FilePath} {modulePath : List String} {found : Occurrence}
    {site : Site} (records : Records ⟨file, modulePath, []⟩ found site) :
    site.Holds holds ↔ found.IsPresent holds := by
  simp only [Site.Holds, records.cfg, Occurrence.IsPresent, satisfied_iff, List.nil_append,
    List.mem_append, List.mem_flatMap]
  constructor
  · intro all
    refine ⟨fun around mem predicate stated => all predicate (.inl ⟨around, mem, stated⟩), ?_⟩
    exact fun predicate stated => all predicate (.inr stated)
  · rintro ⟨around, own⟩ predicate (⟨enclosing, mem, stated⟩ | stated)
    · exact around enclosing mem predicate stated
    · exact own predicate stated

/-- What is repeated says as much as together with further conditions, exactly when they are among it. -/
theorem forall_holds_iff {site : Site} {attributes : List Attribute} :
    (∀ holds, site.Holds holds ↔ Satisfied holds attributes ∧ site.Holds holds) ↔
      ∀ predicate ∈ predicates attributes, predicate ∈ site.cfg := by
  constructor
  · intro same
    -- The assignment under which nothing holds but what the site repeats.
    exact satisfied_iff.1 ((same (· ∈ site.cfg)).1 fun _ mem => mem).1
  · intro among holds
    refine ⟨fun repeated => ⟨satisfied_iff.2 ?_, repeated⟩, And.right⟩
    exact fun predicate stated => repeated predicate (among predicate stated)

/-- The conditions that a site repeats hold under a truth assignment exactly when those on its declaration
and on the modules around it do. They hold exactly when the file's own conditions hold as well, whatever
the assignment, exactly when each of the file's own conditions is stated again behind them. -/
theorem site_holds_iff (file : FilePath) (modulePath : List String) {text : String}
    {own : List Attribute} {items : List Item} (parsed : fileOf? text = some (own, items)) :
    ∃ found, ListsMarked items found ∧ List.Forall₂ (fun occurrence site =>
      (∀ holds, site.Holds holds ↔ occurrence.IsPresent holds) ∧
        ((∀ holds, site.Holds holds ↔ Satisfied holds own ∧ occurrence.IsPresent holds) ↔
          ∀ predicate ∈ predicates own, predicate ∈ site.cfg))
      found (sitesOf file modulePath text).value := by
  have parsedItems : itemsOfFile? text = some items := by
    rw [itemsOfFile?_eq, parsed]
    rfl
  refine ⟨markedInItems 0 items, listsMarked items, ?_⟩
  apply (records_sitesOf file modulePath parsedItems).imp
  intro occurrence site records
  refine ⟨fun holds => records.holds_iff, ?_⟩
  simp only [← records.holds_iff]
  exact forall_holds_iff

/-- The source of a module with a condition on all that is in it, and a marked type. -/
def conditionalSource : String :=
  "#![cfg(x)]\n#[embedded_resource_properties]\npub struct Notes;\n"

/-- The condition is one of the file, and the site of the type does not repeat it. -/
theorem predicates_conditionalSource :
    ∃ own items, fileOf? conditionalSource = some (own, items) ∧ predicates own = ["x"] ∧
      (sitesOf ⟨"/project/src/a.rs"⟩ ["a"] conditionalSource).value.map Site.cfg = [[]] := by
  have found : (fileOf? conditionalSource).map (predicates ·.1) = some ["x"] ∧
      (sitesOf ⟨"/project/src/a.rs"⟩ ["a"] conditionalSource).value.map Site.cfg = [[]] := by
    decide +kernel
  obtain ⟨⟨own, items⟩, parsed, stated⟩ := Option.map_eq_some_iff.1 found.1
  exact ⟨own, items, parsed, stated, found.2⟩

/-- The source has one marked type, and its site repeats what stands on the type only. -/
theorem site_holds_iff_conditionalSource :
    ∃ own items found, fileOf? conditionalSource = some (own, items) ∧ ListsMarked items found ∧
      List.Forall₂ (fun occurrence site =>
          (∀ holds, site.Holds holds ↔ occurrence.IsPresent holds) ∧
            ((∀ holds, site.Holds holds ↔ Satisfied holds own ∧ occurrence.IsPresent holds) ↔
              ∀ predicate ∈ predicates own, predicate ∈ site.cfg))
        found (sitesOf ⟨"/project/src/a.rs"⟩ ["a"] conditionalSource).value ∧ found.length = 1 := by
  obtain ⟨own, items, parsed, -, repeated⟩ := predicates_conditionalSource
  obtain ⟨found, lists, all⟩ := site_holds_iff ⟨"/project/src/a.rs"⟩ ["a"] parsed
  have one := congrArg List.length repeated
  rw [List.length_map] at one
  exact ⟨own, items, found, parsed, lists, all, all.length_eq.trans one⟩

/-- Where nothing holds, what the site of the type repeats does, and the file's own condition does not. -/
theorem not_satisfied_conditionalSource :
    ∃ own items, fileOf? conditionalSource = some (own, items) ∧
      ∃ site ∈ (sitesOf ⟨"/project/src/a.rs"⟩ ["a"] conditionalSource).value,
        site.Holds (fun _ => False) ∧ ¬ Satisfied (fun _ => False) own := by
  obtain ⟨own, items, parsed, stated, repeated⟩ := predicates_conditionalSource
  obtain ⟨site, mem, none⟩ : ∃ site ∈
      (sitesOf ⟨"/project/src/a.rs"⟩ ["a"] conditionalSource).value, site.cfg = [] := by
    apply List.mem_map.1
    rw [repeated]
    exact List.mem_singleton_self _
  refine ⟨own, items, parsed, site, mem, ?_, ?_⟩
  · intro predicate repeated
    rw [none] at repeated
    cases repeated
  · rw [satisfied_iff, stated]
    exact fun all => all "x" (List.mem_singleton_self _)

end ResourceAccessors.Declaration
