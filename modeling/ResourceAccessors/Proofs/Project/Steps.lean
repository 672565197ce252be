import Mathlib.Data.List.Perm.Subperm
import ResourceAccessors.Proofs.Project.Exact

/-!
# A walk comes to its end

A walk takes one path at a time, and a folder may list its entries in any order. Links can make paths as long as
one likes, but every path comes from a name in a folder that was listed, and no folder is listed twice. A walk thus
looks at no more paths than the disk has entries.
-/

namespace ResourceAccessors.Project

open Disk (Location)

/-- How far a walk has come. -/
structure Progress where
  /-- The folders whose entries were listed, the last one first. -/
  listed : List Location
  /-- The files that were found, the last one first. -/
  found : List FilePath
  /-- The paths that are still to be looked at. -/
  pending : List FilePath

/-- What a walk does with the next path. The names of a folder come in any order. -/
inductive WalkStep (disk : Disk) (filter : Filter) : Progress → Progress → Prop
  | skip {listed found path pending} (skipped : filter.skips disk path = true) :
      WalkStep disk filter ⟨listed, found, path :: pending⟩ ⟨listed, found, pending⟩
  | file {listed found path pending location content} (kept : filter.skips disk path = false)
      (leads : disk.find? path = some (location, .file content)) :
      WalkStep disk filter ⟨listed, found, path :: pending⟩ ⟨listed, path.normal :: found, pending⟩
  | nothing {listed found path pending} (kept : filter.skips disk path = false)
      (notFile : ∀ location content, disk.find? path ≠ some (location, .file content))
      (notFolder : ∀ location, disk.find? path ≠ some (location, .folder)) :
      WalkStep disk filter ⟨listed, found, path :: pending⟩ ⟨listed, found, pending⟩
  | list {listed found path pending location} {names : List String} (kept : filter.skips disk path = false)
      (leads : disk.find? path = some (location, .folder)) (fresh : location ∉ listed)
      (order : names.Perm (disk.namesIn location)) :
      WalkStep disk filter ⟨listed, found, path :: pending⟩
        ⟨location :: listed, found, names.map path.child ++ pending⟩

/-- Steps one after the other, counted. -/
inductive WalkSteps (disk : Disk) (filter : Filter) : Nat → Progress → Progress → Prop
  | refl (progress : Progress) : WalkSteps disk filter 0 progress progress
  | step {count before middle after} (first : WalkStep disk filter before middle)
      (later : WalkSteps disk filter count middle after) : WalkSteps disk filter (count + 1) before after

/-- How a walk starts: the folder of the crate is listed, whatever it is called. -/
inductive WalkStarts (disk : Disk) (filter : Filter) : Progress → Prop
  | list {location} {names : List String} (leads : disk.find? filter.root = some (location, .folder))
      (order : names.Perm (disk.namesIn location)) :
      WalkStarts disk filter ⟨[location], [], names.map filter.root.child⟩
  | nothing (notFolder : ∀ location, disk.find? filter.root ≠ some (location, .folder)) :
      WalkStarts disk filter ⟨[], [], []⟩

/-- How a walk ends: all paths were looked at, or the next one leads to a folder that was listed. -/
inductive WalkEnds (disk : Disk) (filter : Filter) : Progress → Except Failure (List FilePath) → Prop
  | done {listed found} : WalkEnds disk filter ⟨listed, found, []⟩ (.ok (FilePath.ascending found.reverse))
  | cycle {listed found path pending location} (kept : filter.skips disk path = false)
      (leads : disk.find? path = some (location, .folder)) (again : location ∈ listed) :
      WalkEnds disk filter ⟨listed, found, path :: pending⟩ (.error (.symlinkCycle path.shown))

section Walk

variable {disk : Disk} {filter : Filter} {before after start state : Progress} {count : Nat}

/-! ### One step -/

/-- Folders that were listed, each once. -/
structure Progress.ListsOnce (disk : Disk) (progress : Progress) : Prop where
  distinct : progress.listed.Nodup
  folders : ∀ location ∈ progress.listed, disk.entry? location = some .folder

/-- No step lists a folder again. -/
theorem WalkStep.listsOnce (step : WalkStep disk filter before after) (once : before.ListsOnce disk) :
    after.ListsOnce disk := by
  cases step with
  | skip => exact ⟨once.distinct, once.folders⟩
  | file => exact ⟨once.distinct, once.folders⟩
  | nothing => exact ⟨once.distinct, once.folders⟩
  | list kept leads fresh order =>
    exact ⟨once.distinct.cons fresh,
      List.forall_mem_cons.2 ⟨(Disk.find?_eq_some_iff.1 leads).2, once.folders⟩⟩

/-- A step looks at one path, and adds one for each name that it lists. -/
theorem WalkStep.length_pending (step : WalkStep disk filter before after) :
    after.pending.length + 1 + listedNames disk before.listed =
      before.pending.length + listedNames disk after.listed := by
  cases step with
  | skip => rfl
  | file => rfl
  | nothing => rfl
  | list kept leads fresh order =>
    have names := order.length_eq
    simp only [listedNames, List.foldr_cons, List.length_append, List.length_map, List.length_cons]
    omega

/-- A walk goes on unless it has come to its end. -/
theorem exists_walkStep_iff (state : Progress) :
    (∃ next, WalkStep disk filter state next) ↔ ¬ ∃ outcome, WalkEnds disk filter state outcome := by
  constructor
  · rintro ⟨next, step⟩ ⟨outcome, ends⟩
    cases ends with
    | done => cases step
    | cycle kept leads again =>
      cases step with
      | skip skipped => simp [kept] at skipped
      | file _ file =>
        rw [leads] at file
        cases file
      | nothing _ _ notFolder => exact notFolder _ leads
      | list _ found fresh =>
        rw [leads] at found
        cases found
        exact fresh again
  · intro goesOn
    obtain ⟨listed, found, pending⟩ := state
    cases pending with
    | nil => exact absurd ⟨_, .done⟩ goesOn
    | cons path pending =>
      cases skipped : filter.skips disk path with
      | true => exact ⟨_, .skip skipped⟩
      | false =>
        by_cases file : ∃ location content, disk.find? path = some (location, .file content)
        · obtain ⟨location, content, leads⟩ := file
          exact ⟨_, .file skipped leads⟩
        by_cases folder : ∃ location, disk.find? path = some (location, .folder)
        · obtain ⟨location, leads⟩ := folder
          by_cases again : location ∈ listed
          · exact absurd ⟨_, .cycle skipped leads again⟩ goesOn
          · exact ⟨_, .list skipped leads again (.refl _)⟩
        · exact ⟨_, .nothing skipped (by simpa using file) (by simpa using folder)⟩

/-! ### All steps -/

/-- At its start a walk has listed the folder of the crate only. -/
theorem WalkStarts.listsOnce (starts : WalkStarts disk filter start) : start.ListsOnce disk := by
  cases starts with
  | list leads order =>
    exact ⟨List.nodup_singleton _, List.forall_mem_singleton.2 (Disk.find?_eq_some_iff.1 leads).2⟩
  | nothing => exact ⟨List.nodup_nil, List.forall_mem_nil _⟩

/-- Steps of a walk list no folder twice. -/
theorem WalkSteps.listsOnce (steps : WalkSteps disk filter count before after) (once : before.ListsOnce disk) :
    after.ListsOnce disk := by
  induction steps with
  | refl => exact once
  | step first later ih => exact ih (first.listsOnce once)

/-- Each step takes one path from those that are waiting, and adds what the new folder lists. -/
theorem WalkSteps.length_pending (steps : WalkSteps disk filter count before after) :
    after.pending.length + count + listedNames disk before.listed =
      before.pending.length + listedNames disk after.listed := by
  induction steps with
  | refl => rfl
  | step first later ih =>
    have one := first.length_pending
    omega

/-- What is pending at the start is what was listed. -/
theorem WalkStarts.length_pending (starts : WalkStarts disk filter start) :
    start.pending.length = listedNames disk start.listed := by
  cases starts with
  | list leads order => simp [listedNames, order.length_eq]
  | nothing => rfl

/-- Different folders list no more names than the disk has entries. -/
theorem listedNames_le_length_entries (disk : Disk) {folders : List Location} (distinct : folders.Nodup) :
    listedNames disk folders ≤ disk.entries.length := by
  have lengths : listedNames disk folders =
      (folders.flatMap fun folder => (disk.namesIn folder).map (· :: folder)).length := by
    induction folders with
    | nil => rfl
    | cons first rest ih =>
      rw [List.flatMap_cons, List.length_append, List.length_map, ← ih distinct.of_cons, listedNames,
        List.foldr_cons]
      rfl
  have apart : (folders.flatMap fun folder => (disk.namesIn folder).map (· :: folder)).Nodup := by
    refine List.nodup_flatMap.2 ⟨fun folder _ => ?_, distinct.imp ?_⟩
    · exact (Disk.nodup_namesIn disk folder).map fun _ _ same => (List.cons.inj same).1
    · intro one other differ location inOne inOther
      obtain ⟨name, -, rfl⟩ := List.mem_map.1 inOne
      obtain ⟨again, -, same⟩ := List.mem_map.1 inOther
      exact differ (List.cons.inj same).2.symm
  have among : (folders.flatMap fun folder => (disk.namesIn folder).map (· :: folder)) ⊆
      disk.entries.map Prod.fst := by
    intro location mem
    obtain ⟨folder, -, inside⟩ := List.mem_flatMap.1 mem
    obtain ⟨name, named, rfl⟩ := List.mem_map.1 inside
    obtain ⟨entry, stands⟩ := Option.isSome_iff_exists.1 (Disk.mem_namesIn_iff.1 named)
    exact List.mem_map_of_mem (Disk.mem_entries_of_stands (List.cons_ne_nil _ _) stands)
  calc listedNames disk folders
    _ = _ := lengths
    _ ≤ (disk.entries.map Prod.fst).length := (List.Nodup.subperm apart among).length_le
    _ = disk.entries.length := List.length_map _

/-- A walk takes at most one step for each entry of the disk. -/
theorem WalkSteps.count_le (steps : WalkSteps disk filter count start state)
    (starts : WalkStarts disk filter start) : count + state.pending.length ≤ disk.entries.length := by
  have pending := steps.length_pending
  have listed := starts.length_pending
  have atMost := listedNames_le_length_entries disk (steps.listsOnce starts.listsOnce).distinct
  omega

/-- A walk of some steps can take one more at its end. -/
theorem WalkSteps.concat (steps : WalkSteps disk filter count before state)
    (last : WalkStep disk filter state after) : WalkSteps disk filter (count + 1) before after := by
  induction steps with
  | refl => exact .step last (.refl _)
  | step first _ ih => exact .step first (ih last)

/-- Wherever a walk has come to, it comes to its end from there. -/
theorem WalkSteps.exists_ends {taken : Nat} {reached : Progress} (steps : WalkSteps disk filter taken start reached)
    (starts : WalkStarts disk filter start) : ∃ more last outcome,
      WalkSteps disk filter more reached last ∧ WalkEnds disk filter last outcome := by
  by_cases ended : ∃ outcome, WalkEnds disk filter reached outcome
  · obtain ⟨outcome, ends⟩ := ended
    exact ⟨0, reached, outcome, .refl _, ends⟩
  · obtain ⟨next, step⟩ := (exists_walkStep_iff reached).2 ended
    have onward := steps.concat step
    have atMost := onward.count_le starts
    obtain ⟨more, last, outcome, later, ends⟩ := onward.exists_ends starts
    exact ⟨more + 1, last, outcome, .step step later, ends⟩
termination_by disk.entries.length - taken

/-! ### The walk in the order of a disk -/

/-- The folders that a walk did not list, each once. -/
structure Leaves (disk : Disk) (listed unvisited : List Location) : Prop where
  distinct : unvisited.Nodup
  mem_iff : ∀ location, location ∈ unvisited ↔ disk.entry? location = some .folder ∧ location ∉ listed

/-- A folder that is listed is not left any more. -/
theorem Leaves.erase {listed unvisited : List Location} (leaves : Leaves disk listed unvisited)
    (location : Location) : Leaves disk (location :: listed) (unvisited.erase location) where
  distinct := leaves.distinct.erase location
  mem_iff folder := by
    rw [leaves.distinct.mem_erase_iff, leaves.mem_iff, List.mem_cons, not_or]
    tauto

variable {other : Disk} (same : disk.Rearranges other)

include same in
/-- Folders list the same names in another order. -/
theorem namesIn_perm_of_rearranges (location : Location) :
    (other.namesIn location).Perm (disk.namesIn location) :=
  same.entries.filterMap _

include same in
/-- A walk takes steps to its end, in the order in which the disk lists its entries. -/
theorem exists_walkSteps_of_walk (filter : Filter) {listed unvisited : List Location}
    (leaves : Leaves disk listed unvisited) (found pending : List FilePath) :
    ∃ count last, WalkSteps disk filter count ⟨listed, found, pending⟩ last ∧ WalkEnds disk filter last
      ((walk other filter unvisited pending).map fun more => FilePath.ascending (found.reverse ++ more)) := by
  have skips : filter.skips other = filter.skips disk := by
    funext path
    rw [Filter.skips, Filter.skips, same.isFolder_eq, holdsCrate, holdsCrate, same.isFile_eq]
  fun_induction walk other filter unvisited pending generalizing listed found with
  | case1 unvisited => exact ⟨0, _, .refl _, by simpa [Except.map] using .done⟩
  | case2 unvisited path pending skipped ih =>
    obtain ⟨count, last, steps, ends⟩ := ih leaves found
    exact ⟨_, last, .step (.skip (skips ▸ skipped)) steps, ends⟩
  | case3 unvisited path pending kept location content leads ih =>
    rw [Bool.not_eq_true, skips] at kept
    rw [same.find?_eq] at leads
    obtain ⟨count, last, steps, ends⟩ := ih leaves (path.normal :: found)
    refine ⟨_, last, .step (.file kept leads) steps, ?_⟩
    cases rest : walk other filter unvisited pending with
    | ok more => simpa [rest, Except.map, bind, Except.bind, pure, Except.pure] using ends
    | error cause => simpa [rest, Except.map, bind, Except.bind] using ends
  | case4 unvisited path pending kept location leads member ih =>
    rw [Bool.not_eq_true, skips] at kept
    rw [same.find?_eq] at leads
    obtain ⟨count, last, steps, ends⟩ := ih (leaves.erase location) found
    have fresh := ((leaves.mem_iff location).1 member).2
    exact ⟨_, last, .step (.list kept leads fresh (namesIn_perm_of_rearranges same location)) steps, ends⟩
  | case5 unvisited path pending kept location leads visited =>
    rw [Bool.not_eq_true, skips] at kept
    rw [same.find?_eq] at leads
    have again : location ∈ listed := by
      by_contra fresh
      exact visited ((leaves.mem_iff location).2 ⟨(Disk.find?_eq_some_iff.1 leads).2, fresh⟩)
    exact ⟨0, _, .refl _, .cycle kept leads again⟩
  | case6 unvisited path pending kept notFile notFolder ih =>
    rw [Bool.not_eq_true, skips] at kept
    rw [same.find?_eq] at notFile notFolder
    obtain ⟨count, last, steps, ends⟩ := ih leaves found
    exact ⟨_, last, .step (.nothing kept notFile notFolder) steps, ends⟩

include same in
/-- The files of a crate are what a walk ends with, in the order in which the disk lists its entries. -/
theorem exists_walkSteps_of_filesOf (tree : disk.IsTree) : ∃ start count last, WalkStarts disk filter start ∧
    WalkSteps disk filter count start last ∧ WalkEnds disk filter last (filesOf other filter) := by
  rw [filesOf]
  split
  next location leads =>
    rw [same.find?_eq] at leads
    have all : Leaves disk [] other.folders :=
      ⟨nodup_folders (same.isTree tree), fun folder => by rw [mem_folders_iff, same.entry?_eq]; simp⟩
    obtain ⟨count, last, steps, ends⟩ := exists_walkSteps_of_walk same filter (all.erase location) []
      ((other.namesIn location).map filter.root.child)
    refine ⟨_, count, last, .list leads (namesIn_perm_of_rearranges same location), steps, ?_⟩
    cases walked : walk other filter (other.folders.erase location)
        ((other.namesIn location).map filter.root.child) with
    | ok found => simpa [walked, Except.map, bind, Except.bind, pure, Except.pure] using ends
    | error cause => simpa [walked, Except.map, bind, Except.bind] using ends
  next notFolder =>
    rw [same.find?_eq] at notFolder
    exact ⟨_, 0, _, .nothing notFolder, .refl _, .done⟩

end Walk

/-- Every walk of a disk comes to its end, in whatever order folders are listed, and lists no folder twice. -/
structure WalksOnce (disk : Disk) (filter : Filter) : Prop where
  listsOnce : ∀ {start state count}, WalkStarts disk filter start → WalkSteps disk filter count start state →
    state.ListsOnce disk
  /-- No more paths are looked at than the disk has entries. -/
  bounded : ∀ {start state count}, WalkStarts disk filter start → WalkSteps disk filter count start state →
    count + state.pending.length ≤ disk.entries.length
  goesOn_iff : ∀ state, (∃ next, WalkStep disk filter state next) ↔
    ¬ ∃ outcome, WalkEnds disk filter state outcome
  ends : ∀ {start state count}, WalkStarts disk filter start → WalkSteps disk filter count start state →
    ∃ more last outcome, WalkSteps disk filter more state last ∧ WalkEnds disk filter last outcome
  /-- The files of a crate are what such a walk ends with, for each order of the entries on the disk. -/
  computed : ∀ other, disk.Rearranges other → ∃ start count last, WalkStarts disk filter start ∧
    WalkSteps disk filter count start last ∧ WalkEnds disk filter last (filesOf other filter)

/-- On every disk, whatever its links lead to and in whatever order its folders list their entries, a walk comes to
its end and lists the entries of each folder at most once. -/
theorem walksOnce_of_isTree {disk : Disk} (tree : disk.IsTree) (filter : Filter) : WalksOnce disk filter where
  listsOnce starts steps := steps.listsOnce starts.listsOnce
  bounded starts steps := steps.count_le starts
  goesOn_iff := exists_walkStep_iff
  ends starts steps := steps.exists_ends starts
  computed _ same := exists_walkSteps_of_filesOf same tree

/-- A crate with links to themselves, to each other, out of the crate and to a folder around them. -/
def linkedCrate : Disk where
  entries := [(["crate"], .folder), (["self", "crate"], .link ⟨"self"⟩), (["one", "crate"], .link ⟨"two"⟩),
    (["two", "crate"], .link ⟨"one"⟩), (["shared"], .folder), (["first.txt", "shared"], .file "one".toUTF8),
    (["out", "crate"], .link ⟨"../shared"⟩), (["up", "shared"], .link ⟨"../crate/out/../crate"⟩)]
  distinct := by decide
  working := []

/-- The walk of the crate ends where the last of its links leads back to the crate. -/
theorem walksOnce_linkedCrate :
    linkedCrate.IsTree ∧ WalksOnce linkedCrate (filterOf linkedCrate ⟨"/crate"⟩ .default []) ∧
      (match filesOf linkedCrate (filterOf linkedCrate ⟨"/crate"⟩ .default []) with
        | .error (.symlinkCycle path) => path
        | _ => "") = "/crate/out/up" :=
  ⟨by decide, walksOnce_of_isTree (by decide) _, by decide +kernel⟩

end ResourceAccessors.Project
