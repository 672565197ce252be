import ResourceAccessors.Proofs.Declaration.Marked
import ResourceAccessors.Proofs.Generation.ArtifactNames
import ResourceAccessors.Proofs.Generation.DuplicateNames
import ResourceAccessors.Proofs.Syntax.Visibility

/-!
# Types that the crate root cannot name

The artifacts of a pass stand at the crate root, and a visibility extends from the module of a type to the one
that it names. Every declared type that the crate root is taken not to name is reported, once for each
declaration, and no other type is. This is told by whether a visibility is written at all, which is right unless
the visibility names a module below the root.
-/

namespace ResourceAccessors

/-! ### Named modules -/

namespace Syntax

/-- The module that the words of a path lead to. The crate root stands for the module around it, and a word behind a
name is a name. -/
def climbed (modulePath : List String) : List String → List String
  | "super" :: rest => climbed modulePath.dropLast rest
  | names => modulePath ++ names

/-- The module that a path names in another one. -/
def PlainPath.moduleFrom (path : PlainPath) (modulePath : List String) : List String :=
  match path.isGlobal, path.segments with
  | true, names => names
  | false, "crate" :: names => names
  | false, "self" :: rest => climbed modulePath rest
  | false, segments => climbed modulePath segments

/-- A type with a written visibility in a module is visible at the crate root. -/
def WrittenVisibility.ExtendsToRoot (modulePath : List String) : WrittenVisibility → Prop
  | .everywhere | .inCrate => True
  | .inherited | .inSelf => modulePath = []
  | .inSuper => modulePath.length ≤ 1
  | .inPath path => path.moduleFrom modulePath = []

/-- Items whose declared types all have a property, at any depth. -/
inductive Item.Declares (right : Container → Prop) : Item → Prop
  | container {declared : Container} (holds : right declared) : Declares right (.container declared)
  | elsewhere {attributes : List Attribute} {name : String} :
      Declares right (.module attributes name none)
  | inline {attributes : List Attribute} {name : String} {items : List Item}
      (inside : ∀ item ∈ items, Declares right item) :
      Declares right (.module attributes name (some items))
  | other : Declares right .other

/-- The types in a source file have visibilities as they are written. -/
theorem declares_of_itemsOfFile? {source : String} {items : List Item}
    (found : itemsOfFile? source = some items) : ∀ item ∈ items,
      item.Declares fun declared => ∃ written : WrittenVisibility, declared.visibility = written.stored :=
  admitted_of_itemsOfFile? ⟨fun _ _ holds => .container holds, fun _ _ => .elsewhere, fun _ => .inline, .other⟩
    Grammar.gives_visibility found

end Syntax

namespace Declaration

open Syntax

/-- What holds of all declared types among items holds of each one that occurs. -/
theorem Occurrence.OccursIn.right {right : Container → Prop} {found : Occurrence} {items : List Item}
    (occurs : found.OccursIn items) (declares : ∀ item ∈ items, item.Declares right) :
    right found.declared := by
  induction occurs with
  | here stands =>
    cases declares _ (List.mem_of_getElem? stands) with
    | container holds => exact holds
  | inside stands _ ih =>
    cases declares _ (List.mem_of_getElem? stands) with
    | inline inside => exact ih inside

/-! ### Sites -/

/-- The visibility of a site is kept in the form in which it is written. -/
theorem exists_written_of_mem_sitesOf {file : FilePath} {modulePath : List String} {text : String}
    {site : Site} (mem : site ∈ (sitesOf file modulePath text).value) :
    ∃ written : WrittenVisibility, site.visibility = written.stored := by
  cases parsed : itemsOfFile? text with
  | none =>
    rw [sitesOf, parsed] at mem
    cases mem
  | some items =>
    obtain ⟨found, among, records⟩ := exists_records_of_mem_sitesOf file modulePath parsed mem
    rw [records.visibility]
    exact (occursIn_of_mem_markedInItems among).1.right (declares_of_itemsOfFile? parsed)

namespace Site

variable {site : Site} {written : WrittenVisibility}

/-- The crate root is taken to name a type when the visibility extends to it, and whenever a module is named. -/
theorem isReachable_iff (stored : site.visibility = written.stored) :
    site.isReachable = true ↔ written.ExtendsToRoot site.modulePath ∨ written.namesModule = true := by
  rw [isReachable, stored]
  cases written <;>
    simp [WrittenVisibility.stored, WrittenVisibility.ExtendsToRoot, WrittenVisibility.namesModule]

/-- The answer for a type is right exactly when a named module is the crate root or one that stands for it. -/
theorem isReachable_right_iff (stored : site.visibility = written.stored) :
    (site.isReachable = true ↔ written.ExtendsToRoot site.modulePath) ↔
      (written.namesModule = true → written.ExtendsToRoot site.modulePath) := by
  rw [isReachable_iff stored]
  tauto

end Site

end Declaration

namespace Generation

open Spelled
open Syntax (WrittenVisibility)

namespace Diagnostic

/-- Whether a problem is that of a type that the crate root cannot name. -/
def isUnreachableType : Diagnostic → Bool
  | .unreachableType _ => true
  | _ => false

/-- Of the problems of a plan only the first one is that of its type. -/
theorem filter_isUnreachableType_ofPlan (embedded : List String) (plan : Plan) :
    (ofPlan embedded plan).filter isUnreachableType =
      if plan.site.isReachable then [] else [.unreachableType plan.site.display] := by
  have ofProperty (property : Property) :
      (ofProperty plan.site.display embedded property).filter isUnreachableType = [] := by
    rw [Diagnostic.ofProperty, List.filter_append]
    split <;> split <;> rfl
  have named : (duplicates plan.site.display plan.properties).filter isUnreachableType = [] := by
    rw [duplicates_eq]
    exact List.filter_eq_nil_iff.2 (List.forall_mem_map.2 fun _ _ => Bool.false_ne_true)
  have reachable : ((if plan.site.isReachable then [] else [.unreachableType plan.site.display] :
      List Diagnostic)).filter isUnreachableType =
        if plan.site.isReachable then [] else [.unreachableType plan.site.display] := by
    split <;> rfl
  rw [ofPlan]
  simp only [List.filter_append, reachable, List.filter_flatMap, ofProperty, named]
  simp

end Diagnostic

section Pass

variable {previous : State} {input : Input} {outcome : Outcome}

/-- The plans of a pass are those of the declarations, one each. -/
theorem Steps.map_site_plans_perm (steps : Steps previous input outcome) (sound : previous.Sound) {β : Type}
    (shown : Declaration.Site → β) (blind : ∀ site, shown (plain site) = shown site) :
    (outcome.plans.map fun plan => shown plan.site).Perm (input.declared.map shown) := by
  have ofRecord (item : String × PlanInput) :
      shown (Step.recordOf PlanInput.plan previous.plans item).2.output.site = shown item.2.site := by
    have made := Step.plain_outputFor respects_plan sound.plans item.1 item.2
    exact eq_of_plain (f := fun plan : Plan => shown plan.site) (fun plan => blind plan.site) made
  have ofItems : (planItems input outcome.sites).map (fun item => shown item.2.site) =
      (planItems input input.declared).map fun item => shown item.2.site :=
    map_eq_of_plain (fun _ _ same => eq_of_plain (f := fun item : String × PlanInput => shown item.2.site)
      (fun item => blind item.2.site) same) (steps.plain_planItems_declared sound)
  have ofDeclared : (planItems input input.declared).map (fun item => shown item.2.site) =
      input.declared.map shown := by
    have given : (planItems input input.declared).map Prod.snd = input.declared.map (planInput input) :=
      List.map_snd_zip (by simp)
    have split := congrArg (List.map fun given : PlanInput => shown given.site) given
    rwa [List.map_map, List.map_map] at split
  have records : (Step.recordsOf PlanInput.plan previous.plans (planItems input outcome.sites)).entries.Perm _ :=
    Step.recordsOf_perm (steps.nodup_planItems sound)
  have entries := records.map fun entry => shown entry.2.output.site
  rw [← steps.plans, List.map_map] at entries
  rw [← ofDeclared, ← ofItems, ← List.map_congr_left fun item _ => ofRecord item, Outcome.plans, outputs,
    Keyed.values, List.map_map, List.map_map]
  exact entries

/-- A pass reports the types of the declarations that the crate root is taken not to name, once each. -/
theorem Steps.filter_isUnreachableType_perm (steps : Steps previous input outcome) (sound : previous.Sound) :
    (outcome.diagnostics.filter Diagnostic.isUnreachableType).Perm
      ((input.declared.filter (!·.isReachable)).map fun site => .unreachableType site.display) := by
  have sites := steps.map_site_plans_perm sound
    (fun site => (if site.isReachable then [] else [.unreachableType site.display] : List Diagnostic))
    fun _ => rfl
  have kept : (input.declared.map fun site =>
      (if site.isReachable then [] else [.unreachableType site.display] : List Diagnostic)).flatten =
        (input.declared.filter (!·.isReachable)).map fun site => .unreachableType site.display := by
    induction input.declared with
    | nil => rfl
    | cons first rest ih => cases reachable : first.isReachable <;> simp [reachable, ih]
  rw [steps.diagnostics, Diagnostic.collect, List.filter_flatMap, List.flatMap_def, ← kept]
  simp only [Diagnostic.filter_isUnreachableType_ofPlan]
  exact sites.flatten

end Pass

/-- What a pass reports about types that the crate root cannot name, and where it is right. -/
structure Outcome.UnreachableReported (outcome : Outcome) (input : Input) : Prop where
  /-- The declarations that are taken not to be reachable are reported, once each. -/
  reported : (outcome.diagnostics.filter Diagnostic.isUnreachableType).Perm
    ((input.declared.filter (!·.isReachable)).map fun site => .unreachableType site.display)
  silent_iff : (∀ type, .unreachableType type ∉ outcome.diagnostics) ↔
    ∀ site ∈ input.declared, site.isReachable = true
  /-- Every declaration has a visibility in one of the forms in which it is written. -/
  written : ∀ site ∈ input.declared, ∃ written : WrittenVisibility, site.visibility = written.stored
  /-- What is reported depends on whether the visibility extends to the crate root, unless it names a module. -/
  reachable_iff : ∀ site ∈ input.declared, ∀ written : WrittenVisibility, site.visibility = written.stored →
    (site.isReachable = true ↔ written.ExtendsToRoot site.modulePath ∨ written.namesModule = true)
  right_iff : ∀ site ∈ input.declared, ∀ written : WrittenVisibility, site.visibility = written.stored →
    ((site.isReachable = true ↔ written.ExtendsToRoot site.modulePath) ↔
      (written.namesModule = true → written.ExtendsToRoot site.modulePath))

namespace Generator

/-- For every run, the declared types that are private to a module below the crate root are reported, once each. A
type is wrongly left out exactly when its visibility names a module and does not extend to the crate root. -/
theorem unreachable_types_reported (events : List Event) {input : Input} {token : Cancellation}
    {outcome : Outcome} {next : Generator}
    (ran : (new.afterAll events).run input token = (.ok outcome, next)) :
    outcome.UnreachableReported input := by
  have reported := (steps_of_run ran).1.filter_isUnreachableType_perm (sound_afterAll events)
  refine ⟨reported, ?silent_iff, ?written, ?reachable_iff, ?right_iff⟩
  case silent_iff =>
    constructor
    · intro silent site declared
      by_contra unreachable
      have mem := reported.mem_iff.2
        (List.mem_map_of_mem (List.mem_filter.2 ⟨declared, by simpa using unreachable⟩))
      exact silent _ (List.mem_filter.1 mem).1
    · intro reachable type mem
      have among := reported.mem_iff.1 (List.mem_filter.2 ⟨mem, rfl⟩)
      obtain ⟨site, kept, -⟩ := List.mem_map.1 among
      obtain ⟨declared, unreachable⟩ := List.mem_filter.1 kept
      simp [reachable site declared] at unreachable
  case written =>
    intro site declared
    obtain ⟨source, -, found⟩ := Input.exists_source declared
    exact Declaration.exists_written_of_mem_sitesOf found
  case reachable_iff => exact fun site _ written stored => Declaration.Site.isReachable_iff stored
  case right_iff => exact fun site _ written stored => Declaration.Site.isReachable_right_iff stored

/-- A project without resources and with one source, which stands at the crate root. -/
def onlySource (text : String) : Input where
  options := ⟨false, ⟨"/project"⟩, "Demo"⟩
  sources := [⟨⟨"/project/src/lib.rs"⟩, [], text⟩]
  files := []
  embedded := none

/-- Two types in a module, one of which is visible in the module around it. -/
def nestedTypes : Input :=
  onlySource ("mod a \x7b\n#[embedded_resource_properties]\nstruct B;\n#[embedded_resource_properties]\n" ++
    "pub(super) struct C;\n\x7d\n")

/-- Of two nested types the one in a private module is reported. -/
theorem unreachable_types_reported_nestedTypes :
    nestedTypes.declared.map (fun site => (site.display, site.isReachable)) = [("a::B", false), ("a::C", true)] ∧
      ∃ outcome, (new.afterAll [.run (onlyResource "a") .never, .reload]).run nestedTypes .never =
          (.ok outcome, ⟨outcome.state⟩) ∧
        outcome.UnreachableReported nestedTypes := by
  obtain ⟨outcome, ran⟩ := run_never (new.afterAll [.run (onlyResource "a") .never, .reload]) nestedTypes
  exact ⟨by decide +kernel, outcome, ran,
    unreachable_types_reported [.run (onlyResource "a") .never, .reload] ran⟩

/-- A type in a module below the crate root that is visible there only. -/
def privateType : Input :=
  onlySource "mod a \x7b\n#[embedded_resource_properties]\npub(self) struct Notes;\n\x7d\n"

/-- The type is taken for one that the crate root can name, which its visibility rules out. -/
theorem isReachable_privateType : ∃ site ∈ privateType.declared,
    site.visibility = WrittenVisibility.inSelf.stored ∧ site.modulePath = ["a"] ∧ site.isReachable = true ∧
      ¬ (site.isReachable = true ↔ WrittenVisibility.inSelf.ExtendsToRoot site.modulePath) := by
  have sites : privateType.declared.map (fun site => (site.visibility, site.modulePath, site.isReachable)) =
      [(WrittenVisibility.inSelf.stored, ["a"], true)] := by decide +kernel
  obtain ⟨site, declared, same⟩ := List.mem_map.1 (sites ▸ List.mem_singleton_self _)
  obtain ⟨stored, modulePath, reachable⟩ : site.visibility = WrittenVisibility.inSelf.stored ∧
      site.modulePath = ["a"] ∧ site.isReachable = true := by simpa using same
  refine ⟨site, declared, stored, modulePath, reachable, fun right => ?_⟩
  have root : site.modulePath = [] := right.1 reachable
  rw [modulePath] at root
  cases root

end Generator

end Generation

end ResourceAccessors
