import Mathlib.Data.List.Pairwise
import ResourceAccessors.Proofs.Generation.FirstPass
import ResourceAccessors.Proofs.Generation.SourceKeys
import ResourceAccessors.Proofs.Resource.Selection

/-!
# The order of the inputs has no influence

What a new generator gives does not depend on the order in which the sources, the files and the
configured files are listed, where no two sources have one key and no two files have one path. Every
list that a pass makes stands in an order of its own: that of the keys, of the names or of the paths.
-/

namespace ResourceAccessors.Generation

open Spelled

/-- Two inputs list the same in different orders. -/
structure Input.Rearranges (one other : Input) : Prop where
  options : one.options = other.options
  sources : one.sources.Perm other.sources
  files : one.files.Perm other.files
  embedded : Option.Rel List.Perm one.embedded other.embedded

/-- No two sources are filed under one key, no two files have equal paths, and the configured files
are given by normal paths. -/
structure Input.ToldApart (input : Input) : Prop where
  sources : input.SourcesApart
  files : input.files.Pairwise fun one other => ¬ (one.path == other.path) = true
  embedded : ∀ paths ∈ input.embedded, ∀ path ∈ paths, path.normal = path

/-- The same lists from the end. -/
def Input.reversed (input : Input) : Input :=
  { input with
    sources := input.sources.reverse
    files := input.files.reverse
    embedded := input.embedded.map List.reverse }

/-- An input that lists all the other way round lists the same. -/
theorem Input.rearranges_reversed (input : Input) : input.Rearranges input.reversed where
  options := rfl
  sources := (List.reverse_perm _).symm
  files := (List.reverse_perm _).symm
  embedded := by
    rw [reversed]
    cases input.embedded with
    | none => exact .none
    | some paths => exact .some (List.reverse_perm paths).symm

/-- What a pass gives, without the state that it leaves behind. -/
def Outcome.withoutState (outcome : Outcome) : Outcome :=
  { outcome with state := .empty }

/-! ### Sorting -/

/-- Lists with the same items are sorted in the same way when only equal items compare as equal. -/
theorem mergeSort_eq_of_perm {α : Type} (order : α → α → Ordering) [Std.TransCmp order]
    {items others : List α} (same : items.Perm others)
    (apart : ∀ one ∈ items, ∀ other ∈ items, order one other = .eq → one = other) :
    items.mergeSort (fun one other => (order one other).isLE) =
      others.mergeSort fun one other => (order one other).isLE := by
  have arranged : ∀ list : List α,
      (list.mergeSort fun one other => (order one other).isLE).Perm list :=
    fun list => List.mergeSort_perm list _
  refine List.Perm.eq_of_pairwise ?_ (pairwise_mergeSort_isLE order items)
    (pairwise_mergeSort_isLE order others)
    ((arranged items).trans (same.trans (arranged others).symm))
  intro one other oneMem otherMem before after
  refine apart one (List.mem_mergeSort.1 oneMem) other ?_
    (Std.OrientedCmp.isLE_antisymm before after)
  exact same.mem_iff.2 (List.mem_mergeSort.1 otherMem)

/-! ### Selected files -/

/-- The same candidates are selected from files in another order when these have different paths. -/
theorem select_eq_of_perm {files others : List Resource.File} (same : files.Perm others)
    (apart : files.Pairwise fun one other => ¬ (one.path == other.path) = true)
    (searchPath : FilePath) (extension : String) (options : BuildOptions) :
    Resource.select searchPath extension files options =
      Resource.select searchPath extension others options := by
  have listed := (same.filter (Resource.File.matchesSearch searchPath extension)).map
    (Resource.Candidate.ofFile options)
  refine mergeSort_eq_of_perm Resource.compareCandidates listed ?_
  intro one oneMem other otherMem equal
  obtain ⟨oneFile, oneSelected, rfl⟩ := List.mem_map.1 oneMem
  obtain ⟨otherFile, otherSelected, rfl⟩ := List.mem_map.1 otherMem
  have paths : (oneFile.path == otherFile.path) = true :=
    (FilePath.compare_eq_iff_beq _ _).1 (Ordering.then_eq_eq.1 equal).2
  have symmetric : Std.Symm fun one other : Resource.File =>
      ¬ (one.path == other.path) = true :=
    ⟨fun _ _ differ same => differ ((beq_iff _ _).2 ((beq_iff _ _).1 same).symm)⟩
  have sameFile : oneFile = otherFile := by
    by_contra differ
    exact apart.forall (List.mem_filter.1 oneSelected).1
      (List.mem_filter.1 otherSelected).1 differ paths
  rw [sameFile]

/-! ### Embedded files -/

variable {one other : Input}

/-- Either no files are configured in both inputs, or the same ones are listed in two orders. -/
theorem Input.Rearranges.embedded_cases (rearranges : one.Rearranges other) :
    (one.embedded = none ∧ other.embedded = none) ∨ ∃ paths others,
      one.embedded = some paths ∧ other.embedded = some others ∧ paths.Perm others := by
  have configured := rearranges.embedded
  generalize one.embedded = ones at configured
  generalize other.embedded = others at configured
  cases configured with
  | none => exact .inl ⟨rfl, rfl⟩
  | some perm => exact .inr ⟨_, _, rfl, rfl, perm⟩

/-- Configured files that are given by normal paths are sorted in the same way in every order. -/
theorem mergeSort_embeddedAt_eq_of_perm (options : BuildOptions) {paths others : List FilePath}
    (perm : paths.Perm others) (normal : ∀ path ∈ paths, path.normal = path) :
    (paths.map (embeddedAt options)).mergeSort embeddedAtMost =
      (others.map (embeddedAt options)).mergeSort embeddedAtMost := by
  refine mergeSort_eq_of_perm compareFiles (perm.map (embeddedAt options)) ?_
  intro left leftMem right rightMem equal
  obtain ⟨leftPath, leftGiven, rfl⟩ := List.mem_map.1 leftMem
  obtain ⟨rightPath, rightGiven, rfl⟩ := List.mem_map.1 rightMem
  have same : leftPath.plain = rightPath.plain :=
    (beq_iff _ _).1 ((FilePath.compare_eq_iff_beq _ _).1 (Ordering.then_eq_eq.1 equal).2)
  rw [FilePath.plain_of_normal (normal leftPath leftGiven),
    FilePath.plain_of_normal (normal rightPath rightGiven)] at same
  rw [same]

/-- The same files are embedded for some plans when the configured ones are listed in another
order. -/
theorem Input.Rearranges.embeddedFiles_eq (rearranges : one.Rearranges other)
    (apart : one.ToldApart) (plans : List Plan) :
    embeddedFiles one plans = embeddedFiles other plans := by
  rcases rearranges.embedded_cases with ⟨ones, others⟩ | ⟨paths, listed, ones, others, perm⟩
  · simp only [embeddedFiles, ones, others]
  · have sorted := mergeSort_embeddedAt_eq_of_perm one.options perm (apart.embedded paths ones)
    rw [Generation.embeddedFiles_eq, Generation.embeddedFiles_eq, wantedFiles, wantedFiles, ones,
      others, ← rearranges.options]
    exact congrArg (fun files => firstOfEachIdentity (lastOfEqual files)) sorted

/-! ### Declarations and plans -/

/-- The sources are filed in the same way in every order. -/
theorem Input.Rearranges.filed_eq (rearranges : one.Rearranges other) (apart : one.ToldApart) :
    one.filed = other.filed := by
  have distinct : ((extractionItems one.sources).map Prod.fst).Nodup := by
    rw [keys_extractionItems]
    exact apart.sources
  exact Keyed.ofList_eq_of_perm distinct (rearranges.sources.map _)

/-- The declarations are found in the same order. -/
theorem Input.Rearranges.declared_eq (rearranges : one.Rearranges other)
    (apart : one.ToldApart) : one.declared = other.declared := by
  rw [Input.declared_eq, Input.declared_eq, rearranges.filed_eq apart]

/-- The declarations are planned under the same keys. -/
theorem Input.Rearranges.planned_eq (rearranges : one.Rearranges other)
    (apart : one.ToldApart) : one.planned = other.planned := by
  rw [Input.planned, Input.planned, Input.planKeys, Input.planKeys,
    rearranges.declared_eq apart]

/-- Every declaration has the same plan. -/
theorem Input.Rearranges.plan_eq (rearranges : one.Rearranges other) (apart : one.ToldApart)
    (site : Declaration.Site) : (planInput one site).plan = (planInput other site).plan := by
  have selected := fun searchPath extension => select_eq_of_perm
    (rearranges.files.filter (fun file : Resource.File =>
      file.path.parent? == some (site.searchPath one.options.projectDir)))
    (apart.files.filter _) searchPath extension one.options
  simp only [PlanInput.plan, planInput, filesIn_eq, ← rearranges.options, selected]

/-! ### Passes -/

/-- What first passes give does not depend on the order of the inputs. -/
theorem Outcome.IsFirst.withoutState_eq {first second : Outcome} (firstOf : first.IsFirst one)
    (secondOf : second.IsFirst other) (rearranges : one.Rearranges other)
    (apart : one.ToldApart) : second.withoutState = first.withoutState := by
  have plans : second.plans = first.plans := by
    rw [secondOf.plans, firstOf.plans, ← rearranges.planned_eq apart]
    exact List.map_congr_left fun site _ => (rearranges.plan_eq apart site).symm
  have embedded := (rearranges.embeddedFiles_eq apart first.plans).symm
  have options := rearranges.options.symm
  have artifacts : second.artifacts = first.artifacts := by
    rw [secondOf.artifacts, firstOf.artifacts, plans]
    simp only [Input.artifactsFor, Input.manifestFor, embedded, options]
  have diagnostics : second.diagnostics = first.diagnostics := by
    rw [secondOf.diagnostics, firstOf.diagnostics, plans, embedded]
  have tracked : second.tracked = first.tracked := by
    rw [secondOf.tracked, firstOf.tracked, plans, ← rearranges.filed_eq apart,
      ← rearranges.planned_eq apart]
  have searchPaths : second.searchPaths = first.searchPaths := by
    rw [secondOf.searchPaths, firstOf.searchPaths, ← rearranges.declared_eq apart, options]
  have listed : second.embedded = first.embedded := by
    rw [secondOf.embedded, firstOf.embedded, plans, embedded]
  rw [Outcome.withoutState, artifacts, diagnostics, tracked, searchPaths, listed]
  rfl

namespace Generator

/-- What a new generator gives does not depend on the order in which the sources, the files and the
configured files are listed; it gives something when it is not cancelled. -/
theorem new_run_eq_of_rearranges {one other : Input} (apart : one.ToldApart)
    (rearranges : one.Rearranges other) :
    (∀ token, (new.run other token).1.map Outcome.withoutState =
      (new.run one token).1.map Outcome.withoutState) ∧
    (∃ outcome, (new.run one .never).1 = .ok outcome) ∧
    ∃ outcome, (new.run other .never).1 = .ok outcome := by
  have gives : ∀ input, ∃ outcome, (new.run input .never).1 = .ok outcome := by
    intro input
    obtain ⟨outcome, ran⟩ := run_never new input
    exact ⟨outcome, congrArg Prod.fst ran⟩
  refine ⟨new_run_map_eq Outcome.withoutState ?_ ?_, gives one, gives other⟩
  · intro first second firstOf secondOf
    rw [Outcome.questions, Outcome.questions, rearranges.sources.length_eq, secondOf.sites,
      firstOf.sites, rearranges.declared_eq apart, secondOf.plans, firstOf.plans, List.length_map,
      List.length_map, rearranges.planned_eq apart]
  · intro first second firstOf secondOf
    exact firstOf.withoutState_eq secondOf rearranges apart

/-- A project with two types that look into one folder. -/
def sharedFolder : Input where
  options := ⟨false, ⟨"/project"⟩, "Demo"⟩
  sources := [
    ⟨⟨"/project/src/a.rs"⟩, ["a"],
      "#[embedded_resource_properties(path = \"/texts\")]\npub struct Alpha;\n"⟩,
    ⟨⟨"/project/src/b.rs"⟩, ["b"],
      "#[embedded_resource_properties(path = \"/texts\")]\npub struct Beta;\n"⟩]
  files := [⟨⟨"/project/texts/one.txt"⟩, some "1"⟩, ⟨⟨"/project/texts/two.txt"⟩, none⟩]
  embedded := some [⟨"/project/texts/one.txt"⟩, ⟨"/project/texts/two.txt"⟩]

/-- Everything may be listed from the end. -/
theorem new_run_eq_of_rearranges_reversed :
    sharedFolder.ToldApart ∧ sharedFolder.Rearranges sharedFolder.reversed ∧
      sharedFolder.planned.entries.length = 2 ∧
      (new.run sharedFolder.reversed .never).1.map Outcome.withoutState =
        (new.run sharedFolder .never).1.map Outcome.withoutState := by
  have apart : sharedFolder.ToldApart := by
    constructor
    case sources =>
      rw [Input.SourcesApart]
      decide +kernel
    case files => decide +kernel
    case embedded =>
      intro paths given path mem
      have normal : ∀ path ∈ sharedFolder.embedded.getD [], path.normal.text = path.text := by
        decide +kernel
      rw [given] at normal
      exact congrArg FilePath.mk (normal path mem)
  refine ⟨apart, Input.rearranges_reversed _, by decide +kernel, ?_⟩
  exact (new_run_eq_of_rearranges apart (Input.rearranges_reversed _)).1 .never

end Generator

end ResourceAccessors.Generation
