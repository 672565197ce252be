import ResourceAccessors.Proofs.Disk.Around
import ResourceAccessors.Proofs.Project.Walk

/-!
# Walking a project again

A walk of a project finds the same files when folders were made below the project in the meantime. The
new folders hold nothing but new folders, each is reached on one way only, and a walk passes through
them without finding anything.
-/

namespace ResourceAccessors

open Disk (Location)
open FilePath (IsEntryName)

/-- The path of an entry of the folder or of a folder below it. -/
def FilePath.Under (root path : FilePath) : Prop :=
  ∃ base name, root.Inside base ∧ IsEntryName name ∧ path = base.child name

/-- What lies under a folder lies inside it. -/
theorem FilePath.Under.inside {root path : FilePath} (under : root.Under path) :
    root.Inside path := by
  obtain ⟨base, name, inside, legal, rfl⟩ := under
  exact .child inside legal

namespace Project

section Passing

variable {before after : Disk} {filter : Filter} {path : FilePath} {unvisited : List Location}
  {pending : List FilePath}

/-- A walk passes over a path that leads nowhere. -/
theorem walk_cons_of_not_exists (disk : Disk) (nowhere : disk.exists? path = false) :
    walk disk filter unvisited (path :: pending) = walk disk filter unvisited pending := by
  have none : disk.find? path = none := by
    simpa [Disk.exists?] using nowhere
  rw [walk, none]
  exact ite_self _

/-- The next path that leads somewhere comes first in a walk. -/
theorem exists_walk_eq_of_filter_eq_cons (disk : Disk) {rest : List FilePath}
    (next : pending.filter disk.exists? = path :: rest) :
    ∃ later, later.filter disk.exists? = rest ∧
      walk disk filter unvisited pending = walk disk filter unvisited (path :: later) := by
  induction pending with
  | nil => cases next
  | cons first others ih =>
    by_cases leads : disk.exists? first = true
    · rw [List.filter_cons_of_pos leads] at next
      cases next
      exact ⟨others, rfl, rfl⟩
    · rw [List.filter_cons_of_neg leads] at next
      rw [walk_cons_of_not_exists disk (by simpa using leads)]
      exact ih next

/-- Without a path that leads somewhere a walk finds nothing. -/
theorem walk_eq_nil_of_filter_eq_nil (disk : Disk) (nowhere : pending.filter disk.exists? = []) :
    walk disk filter unvisited pending = .ok [] := by
  induction pending with
  | nil => rw [walk]
  | cons first others ih =>
    obtain ⟨here, later⟩ := List.filter_eq_nil_iff.1 nowhere |> List.forall_mem_cons.1
    rw [walk_cons_of_not_exists disk (by simpa using here)]
    exact ih (List.filter_eq_nil_iff.2 later)

end Passing

/-! ### New folders -/

/-- The location of the folder that a path leads to, when it led nowhere before. -/
def newFolder? (before after : Disk) (path : FilePath) : Option Location :=
  if before.exists? path then none
  else
    match after.find? path with
    | some (location, .folder) => some location
    | _ => none

section NewFolders

variable {before after : Disk} {root path : FilePath} {location : Location} {name : String}

/-- A folder is new when nothing was found before where it is now. -/
theorem newFolder?_eq_some_iff : newFolder? before after path = some location ↔
    before.find? path = none ∧ after.find? path = some (location, .folder) := by
  rw [newFolder?, Disk.exists?]
  cases before.find? path with
  | some place => simp
  | none =>
    simp only [Option.isSome_none, Bool.false_eq_true, if_false, true_and]
    split
    next found => simp [found]
    next notFolder =>
      constructor
      · intro absurd
        cases absurd
      · exact fun found => absurd found (notFolder location)

/-- A new folder is made where nothing stood, in the folder that the path before its name opens. -/
theorem opens_of_newFolder? (alike : before.Alike after root) (inside : root.Inside path)
    (legal : IsEntryName name) (made : newFolder? before after (path.child name) = some location) :
    ∃ parent, after.Opens path parent ∧ before.entry? (name :: parent) = none ∧
      location = name :: parent := by
  obtain ⟨nowhere, found⟩ := newFolder?_eq_some_iff.1 made
  rcases alike.find?_child inside legal with same | ⟨-, parent, opens, free, leads⟩
  · rw [same, nowhere] at found
    cases found
  · rw [leads] at found
    cases found
    exact ⟨parent, opens, free, rfl⟩

/-- A path below that led somewhere leads there still. -/
theorem find?_eq_of_exists (alike : before.Alike after root) (under : root.Under path)
    (leads : before.exists? path = true) : after.find? path = before.find? path := by
  obtain ⟨base, name, inside, legal, rfl⟩ := under
  refine (alike.find?_child inside legal).resolve_right fun made => ?_
  rw [Disk.exists?, made.1] at leads
  cases leads

end NewFolders

/-! ### The walk -/

section Walk

variable {before after : Disk} {root path : FilePath} {location : Location}
  {entered unvisited expected : List Location} {pending : List FilePath}

/-- A walk of the later disk that has entered some folders. On the earlier one the same walk still has
the folders `expected` before it. -/
structure Underway (before after : Disk) (root : FilePath) (entered unvisited expected : List Location)
    (pending : List FilePath) : Prop where
  under : ∀ path ∈ pending, root.Under path
  distinct : expected.Nodup
  stood : ∀ location ∈ expected, before.entry? location ≠ none
  ahead : ∀ location ∈ expected, location ∈ unvisited ∧ location ∉ entered
  /-- A new folder that is not entered yet can be entered. -/
  free : ∀ location, after.isFolderAt location = true → before.entry? location = none →
    location ∉ entered → location ∈ unvisited
  /-- A new folder is entered after the folder that it stands in. -/
  above : ∀ location ∈ entered, before.entry? location = none → location.tail ∈ entered
  /-- A new folder on a pending path is not entered yet, but the folder that it stands in is. -/
  waiting : ∀ location ∈ pending.filterMap (newFolder? before after),
    location ∉ entered ∧ location.tail ∈ entered
  once : (pending.filterMap (newFolder? before after)).Nodup

/-- A walk goes on after its next path. -/
theorem Underway.later (underway : Underway before after root entered unvisited expected
    (path :: pending)) : Underway before after root entered unvisited expected pending := by
  have sublist : (pending.filterMap (newFolder? before after)).Sublist
      ((path :: pending).filterMap (newFolder? before after)) :=
    (List.sublist_cons_self path pending).filterMap _
  exact {
    under := fun other mem => underway.under other (List.mem_cons_of_mem _ mem)
    distinct := underway.distinct
    stood := underway.stood
    ahead := underway.ahead
    free := underway.free
    above := underway.above
    waiting := fun location mem => underway.waiting location (sublist.subset mem)
    once := underway.once.sublist sublist }

/-- A new folder in a folder that a path leads to has its name there. -/
theorem eq_of_newFolder?_child (alike : before.Alike after root) (legal : after.Legal)
    (inside : root.Inside path) (found : after.find? path = some (location, .folder))
    {name : String} (named : name ∈ after.namesIn location) {made : Location}
    (new : newFolder? before after (path.child name) = some made) :
    made = name :: location ∧ before.entry? made = none := by
  obtain ⟨parent, opens, free, rfl⟩ := opens_of_newFolder? alike inside (legal.namesIn named) new
  obtain rfl := opens.eq (Disk.opens_of_find? found)
  exact ⟨rfl, free⟩

/-- The new folders in a folder are different. -/
theorem nodup_newFolders (alike : before.Alike after root) (legal : after.Legal)
    (inside : root.Inside path) (found : after.find? path = some (location, .folder)) :
    (((after.namesIn location).map path.child).filterMap (newFolder? before after)).Nodup := by
  have named : ∀ {name made}, name ∈ after.namesIn location →
      newFolder? before after (path.child name) = some made → made = name :: location :=
    fun mem new => (eq_of_newFolder?_child alike legal inside found mem new).1
  rw [List.filterMap_map, List.Nodup, List.pairwise_filterMap]
  refine (Disk.nodup_namesIn after location).imp_of_mem ?_
  intro name other nameMem otherMem differs made new another newOther same
  rw [named nameMem new, named otherMem newOther] at same
  exact differs (List.cons.inj same).1

/-- A walk enters a folder that it has not entered yet. -/
theorem Underway.enter (alike : before.Alike after root) (legal : after.Legal)
    (underway : Underway before after root entered unvisited expected (path :: pending))
    (found : after.find? path = some (location, .folder)) (fresh : location ∉ entered) :
    Underway before after root (location :: entered) (unvisited.erase location)
      (expected.erase location) ((after.namesIn location).map path.child ++ pending) := by
  have under := underway.under path List.mem_cons_self
  have later := underway.later
  -- a folder that was not there before is one that waits on this path
  have waits : before.entry? location = none → newFolder? before after path = some location := by
    intro free
    refine newFolder?_eq_some_iff.2 ⟨?_, found⟩
    cases earlier : before.find? path with
    | none => rfl
    | some place =>
      have same := find?_eq_of_exists alike under (by rw [Disk.exists?, earlier]; rfl)
      rw [found] at same
      have stands := (Disk.find?_eq_some_iff.1 same.symm).2
      rw [free] at stands
      cases stands
  have made : ∀ {name other}, name ∈ after.namesIn location →
      newFolder? before after (path.child name) = some other →
        other = name :: location ∧ before.entry? other = none :=
    fun named new => eq_of_newFolder?_child alike legal under.inside found named new
  have apart : location ∉ pending.filterMap (newFolder? before after) := by
    intro mem
    obtain ⟨other, otherMem, new⟩ := List.mem_filterMap.1 mem
    obtain ⟨base, name, inside, named, rfl⟩ := later.under other otherMem
    obtain ⟨parent, -, free, same⟩ := opens_of_newFolder? alike inside named new
    have once := underway.once
    rw [List.filterMap_cons_some (waits (same ▸ free))] at once
    exact (List.nodup_cons.1 once).1 mem
  constructor
  case under =>
    intro other mem
    rcases List.mem_append.1 mem with child | pending
    · obtain ⟨name, named, rfl⟩ := List.mem_map.1 child
      exact ⟨path, name, under.inside, legal.namesIn named, rfl⟩
    · exact later.under other pending
  case distinct => exact underway.distinct.erase location
  case stood => exact fun other mem => underway.stood other (List.mem_of_mem_erase mem)
  case ahead =>
    intro other mem
    obtain ⟨differs, among⟩ := (underway.distinct.mem_erase_iff).1 mem
    obtain ⟨unvisited, notEntered⟩ := underway.ahead other among
    exact ⟨(List.mem_erase_of_ne differs).2 unvisited, by simp [differs, notEntered]⟩
  case free =>
    intro other folder free notEntered
    obtain ⟨differs, notBefore⟩ := not_or.1 (mt List.mem_cons.2 notEntered)
    exact (List.mem_erase_of_ne differs).2 (underway.free other folder free notBefore)
  case above =>
    intro other mem free
    rcases List.mem_cons.1 mem with rfl | old
    · obtain ⟨-, parent⟩ := underway.waiting other
        (List.mem_filterMap.2 ⟨path, List.mem_cons_self, waits free⟩)
      exact List.mem_cons_of_mem _ parent
    · exact List.mem_cons_of_mem _ (underway.above other old free)
  case waiting =>
    intro other mem
    rw [List.filterMap_append] at mem
    rcases List.mem_append.1 mem with child | pending
    · obtain ⟨_, among, new⟩ := List.mem_filterMap.1 child
      obtain ⟨name, named, rfl⟩ := List.mem_map.1 among
      obtain ⟨rfl, free⟩ := made named new
      refine ⟨?_, List.mem_cons_self⟩
      intro mem
      rcases List.mem_cons.1 mem with same | old
      · exact List.cons_ne_self _ _ same
      · exact fresh (underway.above _ old free)
    · obtain ⟨notEntered, parent⟩ := later.waiting other pending
      refine ⟨?_, List.mem_cons_of_mem _ parent⟩
      intro mem
      rcases List.mem_cons.1 mem with rfl | old
      · exact apart pending
      · exact notEntered old
  case once =>
    rw [List.filterMap_append, List.nodup_append]
    refine ⟨nodup_newFolders alike legal under.inside found, later.once, ?_⟩
    rintro other child _ pending rfl
    obtain ⟨_, among, new⟩ := List.mem_filterMap.1 child
    obtain ⟨name, named, rfl⟩ := List.mem_map.1 among
    obtain ⟨rfl, -⟩ := made named new
    exact fresh (later.waiting _ pending).2

/-- A path that leads somewhere is passed over when it was before. -/
theorem skips_eq (filter : Filter) (alike : before.Alike after root) (under : root.Under path)
    (leads : before.exists? path = true) : filter.skips after path = filter.skips before path := by
  have folder : after.isFolder path = before.isFolder path := by
    rw [Disk.isFolder, Disk.isFolder, find?_eq_of_exists alike under leads]
  have crate : holdsCrate after path = holdsCrate before path :=
    alike.isFile_eq under.inside (by decide)
  rw [Filter.skips, Filter.skips, folder, crate]

/-- The entries of a folder that lead somewhere are those that did before. -/
theorem filter_exists_children (alike : before.Alike after root) (legal : after.Legal)
    (inside : root.Inside path) (leads : before.find? path = some (location, .folder))
    (found : after.find? path = some (location, .folder)) :
    ((after.namesIn location).map path.child).filter before.exists? =
      ((before.namesIn location).map path.child).filter before.exists? := by
  rw [← alike.namesIn_eq inside found, List.filter_map, List.filter_map, List.filter_filter]
  congr 1
  apply List.filter_congr
  intro name named
  symm
  rw [Function.comp_apply, Bool.and_eq_left_iff_imp]
  intro child
  obtain ⟨⟨place, entry⟩, below⟩ := Option.isSome_iff_exists.1 child
  obtain ⟨folder, opens, -, ending⟩ :=
    Disk.exists_opens_of_find?_child (legal.namesIn named) below
  obtain rfl := opens.eq (Disk.opens_of_find? leads)
  rcases ending with ⟨target, -, link, -⟩ | rfl
  · rw [link]
    rfl
  · rw [(Disk.find?_eq_some_iff.1 below).2]
    rfl

/-- Below a path that led nowhere nothing was found. -/
theorem filter_exists_children_of_not_exists (legal : after.Legal) (under : root.Under path)
    (nowhere : before.exists? path = false) :
    ((after.namesIn location).map path.child).filter before.exists? = [] := by
  rw [List.filter_eq_nil_iff]
  intro child mem leads
  obtain ⟨name, named, rfl⟩ := List.mem_map.1 mem
  obtain ⟨place, found⟩ := Option.isSome_iff_exists.1 leads
  obtain ⟨base, last, inside, isName, rfl⟩ := under
  obtain ⟨folder, opens, -⟩ := Disk.exists_opens_of_find?_child (legal.namesIn named) found
  rw [Disk.exists?, opens.find? (base.text_child_ne isName)] at nowhere
  cases nowhere

/-- A path that leads to a file led somewhere before. -/
theorem exists_of_file {content : ByteArray} (alike : before.Alike after root)
    (under : root.Under path) (leads : after.find? path = some (location, .file content)) :
    before.exists? path = true := by
  obtain ⟨base, name, inside, legal, rfl⟩ := under
  rcases alike.find?_child inside legal with same | ⟨-, parent, -, -, made⟩
  · rw [Disk.exists?, ← same, leads]
    rfl
  · rw [made] at leads
    cases leads

/-- A folder that a path leads to now and did not lead to before is new. -/
theorem newFolder?_of_not_exists (nowhere : before.exists? path = false)
    (leads : after.find? path = some (location, .folder)) :
    newFolder? before after path = some location :=
  newFolder?_eq_some_iff.2 ⟨by simpa [Disk.exists?] using nowhere, leads⟩

/-- A new folder has not been entered, and nothing stood there before. -/
theorem Underway.fresh (alike : before.Alike after root)
    (underway : Underway before after root entered unvisited expected (path :: pending))
    (new : newFolder? before after path = some location) :
    location ∉ entered ∧ before.entry? location = none := by
  obtain ⟨base, name, inside, legal, rfl⟩ := underway.under path List.mem_cons_self
  obtain ⟨parent, -, free, rfl⟩ := opens_of_newFolder? alike inside legal new
  exact ⟨(underway.waiting _ (List.mem_filterMap.2 ⟨_, List.mem_cons_self, new⟩)).1, free⟩

/-- The path in front of a walk comes next in the earlier walk too, when it led somewhere. -/
theorem exists_walk_cons {filter : Filter} {earlier found : List FilePath}
    (same : (path :: pending).filter before.exists? = earlier.filter before.exists?)
    (leads : before.exists? path = true)
    (walked : walk before filter expected earlier = .ok found) :
    ∃ later, pending.filter before.exists? = later.filter before.exists? ∧
      walk before filter expected (path :: later) = .ok found := by
  rw [List.filter_cons_of_pos leads] at same
  obtain ⟨later, rest, ahead⟩ := exists_walk_eq_of_filter_eq_cons before same.symm
  exact ⟨later, rest.symm, ahead ▸ walked⟩

/-- A walk of the later disk finds what a walk of the earlier one found. -/
theorem walk_again {filter : Filter} (alike : before.Alike after root) (legal : after.Legal)
    (underway : Underway before after root entered unvisited expected pending)
    {earlier found : List FilePath}
    (same : pending.filter before.exists? = earlier.filter before.exists?)
    (walked : walk before filter expected earlier = .ok found) :
    walk after filter unvisited pending = .ok found := by
  have dropped : ∀ {path : FilePath} {pending earlier : List FilePath},
      (path :: pending).filter before.exists? = earlier.filter before.exists? →
      ¬ before.exists? path = true →
        pending.filter before.exists? = earlier.filter before.exists? :=
    fun same nowhere => by rwa [List.filter_cons_of_neg nowhere] at same
  fun_induction walk after filter unvisited pending generalizing earlier expected entered found with
  | case1 unvisited =>
    rw [walk_eq_nil_of_filter_eq_nil before same.symm] at walked
    exact walked
  | case2 unvisited path pending skipped ih =>
    have under := underway.under path List.mem_cons_self
    by_cases stood : before.exists? path = true
    · obtain ⟨later, rest, walked⟩ := exists_walk_cons same stood walked
      rw [skips_eq filter alike under stood] at skipped
      rw [walk, if_pos skipped] at walked
      exact ih underway.later rest walked
    · exact ih underway.later (dropped same stood) walked
  | case3 unvisited path pending walkedOn location content leads ih =>
    have under := underway.under path List.mem_cons_self
    have stood := exists_of_file alike under leads
    obtain ⟨later, rest, walked⟩ := exists_walk_cons same stood walked
    rw [skips_eq filter alike under stood] at walkedOn
    rw [find?_eq_of_exists alike under stood] at leads
    rw [walk, if_neg walkedOn, leads] at walked
    obtain ⟨others, walkedRest, whole⟩ := Generation.Step.exists_of_bind_eq_ok walked
    rw [ih underway.later rest walkedRest]
    exact whole
  | case4 unvisited path pending walkedOn location leads member ih =>
    have under := underway.under path List.mem_cons_self
    by_cases stood : before.exists? path = true
    · obtain ⟨later, rest, walked⟩ := exists_walk_cons same stood walked
      rw [skips_eq filter alike under stood] at walkedOn
      have earlier := leads
      rw [find?_eq_of_exists alike under stood] at earlier
      rw [walk, if_neg walkedOn, earlier] at walked
      dsimp only at walked
      split at walked
      next among =>
        refine ih (underway.enter alike legal leads (underway.ahead location among).2) ?_ walked
        rw [List.filter_append, List.filter_append,
          filter_exists_children alike legal under.inside earlier leads, rest]
      next => cases walked
    · -- a new folder holds nothing that was there before
      have new := newFolder?_of_not_exists (by simpa using stood) leads
      obtain ⟨fresh, free⟩ := underway.fresh alike new
      have foreign : location ∉ expected := fun mem => underway.stood location mem free
      have onward := underway.enter alike legal leads fresh
      rw [List.erase_of_not_mem foreign] at onward
      refine ih onward ?_ walked
      rw [List.filter_append,
        filter_exists_children_of_not_exists legal under (by simpa using stood), List.nil_append]
      exact dropped same stood
  | case5 unvisited path pending walkedOn location leads notMember =>
    have under := underway.under path List.mem_cons_self
    by_cases stood : before.exists? path = true
    · obtain ⟨later, rest, walked⟩ := exists_walk_cons same stood walked
      rw [skips_eq filter alike under stood] at walkedOn
      rw [find?_eq_of_exists alike under stood] at leads
      rw [walk, if_neg walkedOn, leads] at walked
      dsimp only at walked
      split at walked
      next among => exact absurd (underway.ahead location among).1 notMember
      next => cases walked
    · have new := newFolder?_of_not_exists (by simpa using stood) leads
      obtain ⟨fresh, free⟩ := underway.fresh alike new
      have folder := Disk.isFolderAt_iff.2 (Disk.find?_eq_some_iff.1 leads).2
      exact absurd (underway.free location folder free fresh) notMember
  | case6 unvisited path pending walkedOn notFile notFolder ih =>
    have under := underway.under path List.mem_cons_self
    by_cases stood : before.exists? path = true
    · obtain ⟨later, rest, walked⟩ := exists_walk_cons same stood walked
      rw [skips_eq filter alike under stood] at walkedOn
      rw [find?_eq_of_exists alike under stood] at notFile notFolder
      rw [walk, if_neg walkedOn] at walked
      split at walked
      next found => exact absurd found (notFile _ _)
      next found => exact absurd found (notFolder _)
      next => exact ih underway.later rest walked
    · exact ih underway.later (dropped same stood) walked

end Walk

/-! ### The files of a project -/

section Files

variable {before after : Disk}

/-- The folders of a disk are those locations at which a folder stands. -/
theorem mem_folders_iff {disk : Disk} {location : Location} :
    location ∈ disk.folders ↔ disk.entry? location = some .folder := by
  rw [Disk.folders, List.mem_cons, List.mem_filter, Disk.isFolderAt_iff]
  constructor
  · rintro (rfl | ⟨-, stands⟩)
    · rfl
    · exact stands
  · intro stands
    cases location with
    | nil => exact .inl rfl
    | cons name parent =>
      have mem := Disk.mem_entries_of_stands (by simp) stands
      exact .inr ⟨List.mem_map_of_mem mem, stands⟩

/-- The folders of a tree are listed once. -/
theorem nodup_folders {disk : Disk} (tree : disk.IsTree) : disk.folders.Nodup := by
  rw [Disk.folders, List.nodup_cons]
  refine ⟨?_, disk.distinct.filter _⟩
  intro mem
  obtain ⟨found, foundMem, root⟩ := List.mem_map.1 (List.mem_filter.1 mem).1
  obtain ⟨name, parent, below, -⟩ := tree found foundMem
  rw [root] at below
  cases below

/-- A walk of the later disk starts as one of the earlier disk. -/
theorem underway_start {root : FilePath} {location : Location} (alike : before.Alike after root)
    (legal : after.Legal) (tree : before.IsTree) (keeps : before.Keeps after)
    (leads : before.find? root = some (location, .folder)) :
    Underway before after root [location] (after.folders.erase location)
      (before.folders.erase location) ((after.namesIn location).map root.child) := by
  have found := alike.find?_root.trans leads
  have stands := (Disk.find?_eq_some_iff.1 leads).2
  have distinct := nodup_folders tree
  constructor
  case under =>
    intro path mem
    obtain ⟨name, named, rfl⟩ := List.mem_map.1 mem
    exact ⟨root, name, .here, legal.namesIn named, rfl⟩
  case distinct => exact distinct.erase location
  case stood =>
    intro other mem
    rw [mem_folders_iff.1 (List.mem_of_mem_erase mem)]
    exact Option.some_ne_none _
  case ahead =>
    intro other mem
    obtain ⟨differs, folder⟩ := distinct.mem_erase_iff.1 mem
    have still := mem_folders_iff.2 (keeps.folders other (mem_folders_iff.1 folder))
    exact ⟨(List.mem_erase_of_ne differs).2 still, by simpa using differs⟩
  case free =>
    intro other folder _ notEntered
    have differs : other ≠ location := by simpa using notEntered
    exact (List.mem_erase_of_ne differs).2 (mem_folders_iff.2 (Disk.isFolderAt_iff.1 folder))
  case above =>
    intro other mem free
    rw [List.mem_singleton.1 mem, stands] at free
    cases free
  case waiting =>
    intro other mem
    obtain ⟨_, among, new⟩ := List.mem_filterMap.1 mem
    obtain ⟨name, named, rfl⟩ := List.mem_map.1 among
    obtain ⟨rfl, -⟩ := eq_of_newFolder?_child alike legal .here found named new
    exact ⟨by simp, List.mem_singleton_self _⟩
  case once => exact nodup_newFolders alike legal .here found

/-- The files of a crate are the same when folders were made in the meantime. -/
theorem filesOf_again {filter : Filter} (alike : before.Alike after filter.root)
    (legal : after.Legal) (tree : before.IsTree) (keeps : before.Keeps after)
    {paths : List FilePath} (collected : filesOf before filter = .ok paths) :
    filesOf after filter = .ok paths := by
  rw [filesOf] at collected ⊢
  rw [alike.find?_root]
  split at collected
  next location leads =>
    obtain ⟨found, walked, whole⟩ := Generation.Step.exists_of_bind_eq_ok collected
    have children := filter_exists_children alike legal .here leads (alike.find?_root.trans leads)
    have again := walk_again alike legal (underway_start alike legal tree keeps leads) children walked
    simp only [again]
    exact whole
  next => exact collected

end Files

end Project

end ResourceAccessors
