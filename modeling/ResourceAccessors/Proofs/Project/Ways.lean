import Mathlib.Data.List.Pairwise
import ResourceAccessors.Proofs.FilePath.Below
import ResourceAccessors.Proofs.Project.Outcome
import ResourceAccessors.Proofs.Project.Reached

/-!
# Ways to the folders of a project

A walk enters folders by ways through the names of entries, links among them. It comes to its end exactly
when no two ways lead to one folder. A way that comes back to a folder it went through is one reason why two
do; another one is a link to a folder that is entered anyway.
-/

namespace ResourceAccessors.Project

open Disk (Location)
open Pattern (IgnoreRules)

/-- A way from a folder through the names of entries to a folder, when nothing on the way is passed over. -/
inductive Way (disk : Disk) (filter : Filter) :
    (start : FilePath) → (names : List String) → (location : Location) → Prop
  | here {path location} (leads : disk.find? path = some (location, .folder)) :
      Way disk filter path [] location
  | into {path folder name names location} (leads : disk.find? path = some (folder, .folder))
      (named : name ∈ disk.namesIn folder) (kept : filter.skips disk (path.child name) = false)
      (onward : Way disk filter (path.child name) names location) :
      Way disk filter path (name :: names) location

/-- Two ways from the folder of the crate lead to one folder. -/
def ReachesTwice (disk : Disk) (filter : Filter) : Prop :=
  ∃ first second location, first ≠ second ∧ Way disk filter filter.root first location ∧
    Way disk filter filter.root second location

/-- A way from the folder of the crate leads to a folder that it went through before. -/
def ComesBack (disk : Disk) (filter : Filter) : Prop :=
  ∃ names more location, more ≠ [] ∧ Way disk filter filter.root names location ∧
    Way disk filter filter.root (names ++ more) location

/-- A way that comes back is a second way to the folder. -/
theorem ComesBack.reachesTwice {disk : Disk} {filter : Filter} (comesBack : ComesBack disk filter) :
    ReachesTwice disk filter := by
  obtain ⟨names, more, location, some, first, second⟩ := comesBack
  exact ⟨names, names ++ more, location, by simpa using some, first, second⟩

section Walk

variable {disk : Disk} {filter : Filter} {path start : FilePath} {names others : List String}
  {unvisited : List Location} {pending children : List FilePath} {location entered : Location}

/-! ### Ways -/

/-- A way ends at a folder. -/
theorem Way.folder (way : Way disk filter start names location) :
    disk.entry? location = some .folder := by
  induction way with
  | here leads => exact (Disk.find?_eq_some_iff.1 leads).2
  | into leads named kept onward ih => exact ih

/-- A way starts at a folder. -/
theorem Way.isFolder_start (way : Way disk filter start names location) :
    disk.isFolder start = true := by
  rw [Disk.isFolder]
  cases way with
  | here leads => rw [leads]
  | into leads => rw [leads]

/-- A way from a path that a walk comes to, and does not pass over. -/
structure Enters (disk : Disk) (filter : Filter) (start : FilePath) (names : List String)
    (location : Location) : Prop where
  kept : filter.skips disk start = false
  way : Way disk filter start names location

/-- The ways from a folder: to the folder itself, and through one of its names. -/
theorem way_iff (leads : disk.find? path = some (location, .folder)) :
    Way disk filter path names entered ↔ names = [] ∧ entered = location ∨
      ∃ name ∈ disk.namesIn location, ∃ rest, names = name :: rest ∧
        Enters disk filter (path.child name) rest entered := by
  constructor
  · intro way
    cases way with
    | here found =>
      rw [leads] at found
      cases found
      exact .inl ⟨rfl, rfl⟩
    | into found named kept onward =>
      rw [leads] at found
      cases found
      exact .inr ⟨_, named, _, rfl, kept, onward⟩
  · rintro (⟨rfl, rfl⟩ | ⟨name, named, rest, rfl, onward⟩)
    · exact .here leads
    · exact .into leads named onward.kept onward.way

/-- From a folder that lists no folders, no other folder is entered. -/
theorem Way.of_no_folders {folder : Location} (way : Way disk filter path names entered)
    (leads : disk.LeadsTo path folder)
    (files : ∀ name ∈ disk.namesIn folder, disk.isFolder (path.child name) = false) :
    names = [] ∧ entered = folder := by
  rcases (way_iff (leads.opens.find? leads.written)).1 way with here | ⟨name, named, rest, -, onward⟩
  · exact here
  · have file := files name named
    rw [onward.way.isFolder_start] at file
    cases file

/-- From a path that is passed over, or that leads to no folder, no folder is entered. -/
theorem not_enters (barred : filter.skips disk path = false → ∀ folder,
    disk.find? path ≠ some (folder, .folder)) : ¬ Enters disk filter path names location := by
  rintro ⟨kept, way⟩
  cases way with
  | here leads => exact barred kept _ leads
  | into leads => exact barred kept _ leads

/-! ### Folders that are entered once -/

/-- No folder is entered from both of two paths. -/
def Apart (disk : Disk) (filter : Filter) (start other : FilePath) : Prop :=
  ∀ names others location, Enters disk filter start names location →
    ¬ Enters disk filter other others location

instance : Std.Symm (Apart disk filter) :=
  ⟨fun _ _ apart _ _ _ enters again => apart _ _ _ again enters⟩

/-- The folders that a path has ways to are all unvisited, and there is one way to each. -/
structure OneWay (disk : Disk) (filter : Filter) (unvisited : List Location) (path : FilePath) :
    Prop where
  free : ∀ names location, Way disk filter path names location → location ∈ unvisited
  single : ∀ names others location, Way disk filter path names location →
    Way disk filter path others location → names = others

/-- The folders that are entered from some paths are all unvisited, and each is entered once. -/
structure Once (disk : Disk) (filter : Filter) (unvisited : List Location) (pending : List FilePath) :
    Prop where
  oneWay : ∀ start ∈ pending, filter.skips disk start = false → OneWay disk filter unvisited start
  apart : pending.Pairwise (Apart disk filter)

/-- A folder that is entered from a waiting path is not visited yet. -/
theorem Once.free (once : Once disk filter unvisited pending) (mem : start ∈ pending)
    (enters : Enters disk filter start names location) : location ∈ unvisited :=
  (once.oneWay start mem enters.kept).free _ _ enters.way

/-- One way to each folder is one where more are not visited. -/
theorem OneWay.mono {more : List Location} (oneWay : OneWay disk filter unvisited path)
    (among : ∀ location ∈ unvisited, location ∈ more) : OneWay disk filter more path :=
  ⟨fun names location way => among location (oneWay.free names location way), oneWay.single⟩

/-- Each folder is entered once from two groups of paths when it is from each, and no path enters
what one of the other group does. -/
theorem once_append : Once disk filter unvisited (children ++ pending) ↔
    Once disk filter unvisited children ∧ Once disk filter unvisited pending ∧
      ∀ child ∈ children, ∀ other ∈ pending, Apart disk filter child other := by
  constructor
  · intro once
    obtain ⟨inside, outside, across⟩ := List.pairwise_append.1 once.apart
    exact ⟨⟨fun start mem => once.oneWay start (List.mem_append_left _ mem), inside⟩,
      ⟨fun start mem => once.oneWay start (List.mem_append_right _ mem), outside⟩, across⟩
  · rintro ⟨inside, outside, across⟩
    refine ⟨fun start mem => ?_, List.pairwise_append.2 ⟨inside.apart, outside.apart, across⟩⟩
    rcases List.mem_append.1 mem with child | other
    · exact inside.oneWay start child
    · exact outside.oneWay start other

/-- A path that is not passed over comes with the ways from it. -/
theorem once_cons (kept : filter.skips disk path = false) :
    Once disk filter unvisited (path :: pending) ↔ OneWay disk filter unvisited path ∧
      Once disk filter unvisited pending ∧ ∀ other ∈ pending, Apart disk filter path other := by
  have single : Once disk filter unvisited [path] ↔ OneWay disk filter unvisited path := by
    constructor
    · exact fun once => once.oneWay path List.mem_cons_self kept
    · exact fun oneWay => ⟨by simpa using fun _ => oneWay, List.pairwise_singleton _ _⟩
  rw [← List.singleton_append, once_append, single]
  simp

/-- A path from which no folder is entered does not matter. -/
theorem once_cons_of_not_enters (barred : ∀ names location, ¬ Enters disk filter path names location) :
    Once disk filter unvisited (path :: pending) ↔ Once disk filter unvisited pending := by
  constructor
  · intro once
    exact ⟨fun start mem => once.oneWay start (List.mem_cons_of_mem _ mem), once.apart.of_cons⟩
  · intro once
    constructor
    case oneWay =>
      intro start mem kept
      rcases List.mem_cons.1 mem with rfl | later
      · exact ⟨fun names location way => absurd ⟨kept, way⟩ (barred names location),
          fun names _ location way _ => absurd ⟨kept, way⟩ (barred names location)⟩
      · exact once.oneWay start later kept
    case apart =>
      exact .cons (fun other _ names others location enters => absurd enters (barred _ _)) once.apart

/-- Where there is one way to each folder, each is entered once from the names of the first folder, which is
not entered again. -/
theorem OneWay.once_children (oneWay : OneWay disk filter unvisited path)
    (leads : disk.find? path = some (location, .folder)) :
    Once disk filter (unvisited.erase location) ((disk.namesIn location).map path.child) := by
  have inside : ∀ {name rest entered}, name ∈ disk.namesIn location →
      Enters disk filter (path.child name) rest entered → Way disk filter path (name :: rest) entered :=
    fun named onward => .into leads named onward.kept onward.way
  constructor
  case oneWay =>
    intro start child kept
    obtain ⟨name, named, rfl⟩ := List.mem_map.1 child
    constructor
    case free =>
      intro names entered way
      have whole := inside named ⟨kept, way⟩
      refine (List.mem_erase_of_ne ?_).2 (oneWay.free _ _ whole)
      rintro rfl
      cases oneWay.single _ _ _ whole (.here leads)
    case single =>
      intro names others entered way again
      exact (List.cons.inj (oneWay.single _ _ _ (inside named ⟨kept, way⟩)
        (inside named ⟨kept, again⟩))).2
  case apart =>
    rw [List.pairwise_map]
    refine (Disk.nodup_namesIn disk location).imp_of_mem ?_
    intro name other named otherNamed differ names others entered enters again
    exact differ (List.cons.inj (oneWay.single _ _ _ (inside named enters)
      (inside otherNamed again))).1

/-- Where each folder is entered once from the names of a folder, which is not entered again, there is one
way to each. -/
theorem Once.oneWay_of_children
    (once : Once disk filter (unvisited.erase location) ((disk.namesIn location).map path.child))
    (distinct : unvisited.Nodup) (leads : disk.find? path = some (location, .folder))
    (unseen : location ∈ unvisited) : OneWay disk filter unvisited path := by
  have childMem : ∀ {name}, name ∈ disk.namesIn location →
      path.child name ∈ (disk.namesIn location).map path.child :=
    fun named => List.mem_map_of_mem named
  have gone : ∀ {name names}, name ∈ disk.namesIn location →
      ¬ Enters disk filter (path.child name) names location :=
    fun named enters => distinct.not_mem_erase (once.free (childMem named) enters)
  constructor
  case free =>
    intro names entered way
    rcases (way_iff leads).1 way with ⟨-, rfl⟩ | ⟨name, named, rest, -, onward⟩
    · exact unseen
    · exact List.mem_of_mem_erase (once.free (childMem named) onward)
  case single =>
    intro names others entered way again
    rcases (way_iff leads).1 way with ⟨rfl, rfl⟩ | ⟨name, named, rest, rfl, onward⟩ <;>
      rcases (way_iff leads).1 again with ⟨rfl, same⟩ | ⟨other, otherNamed, more, rfl, back⟩
    · rfl
    · exact absurd back (gone otherNamed)
    · exact absurd (same ▸ onward) (gone named)
    · by_cases same : name = other
      · subst same
        rw [(once.oneWay _ (childMem named) onward.kept).single _ _ _ onward.way back.way]
      · have apart := (List.pairwise_map.1 once.apart).forall named otherNamed same
        exact absurd back (apart _ _ _ onward)

/-- There is one way to each folder below a folder when from its names each is entered once, and the
folder itself is not entered again. -/
theorem oneWay_iff (distinct : unvisited.Nodup) (leads : disk.find? path = some (location, .folder))
    (unseen : location ∈ unvisited) : OneWay disk filter unvisited path ↔
      Once disk filter (unvisited.erase location) ((disk.namesIn location).map path.child) :=
  ⟨fun oneWay => oneWay.once_children leads, fun once => once.oneWay_of_children distinct leads unseen⟩

/-- A folder that is not visited yet is entered once when its names are, and it is not entered again. -/
theorem once_cons_of_folder (distinct : unvisited.Nodup) (kept : filter.skips disk path = false)
    (leads : disk.find? path = some (location, .folder)) (unseen : location ∈ unvisited) :
    Once disk filter unvisited (path :: pending) ↔ Once disk filter (unvisited.erase location)
      ((disk.namesIn location).map path.child ++ pending) := by
  rw [once_cons kept, oneWay_iff distinct leads unseen, once_append]
  refine and_congr_right fun children => ?_
  constructor
  · rintro ⟨later, apart⟩
    refine ⟨⟨?_, later.apart⟩, ?_⟩
    · intro start mem keptStart
      refine ⟨fun names entered way => ?_, (later.oneWay start mem keptStart).single⟩
      refine (List.mem_erase_of_ne ?_).2 (later.free mem ⟨keptStart, way⟩)
      rintro rfl
      exact apart start mem _ _ _ ⟨kept, .here leads⟩ ⟨keptStart, way⟩
    · intro child childMem other mem names others entered enters again
      obtain ⟨name, named, rfl⟩ := List.mem_map.1 childMem
      exact apart other mem _ _ _ ⟨kept, .into leads named enters.kept enters.way⟩ again
  · rintro ⟨later, apart⟩
    refine ⟨⟨fun start mem keptStart => (later.oneWay start mem keptStart).mono
      fun _ => List.mem_of_mem_erase, later.apart⟩, ?_⟩
    intro other mem names others entered enters again
    rcases (way_iff leads).1 enters.way with ⟨-, rfl⟩ | ⟨name, named, rest, -, onward⟩
    · exact distinct.not_mem_erase (later.free mem again)
    · exact apart _ (List.mem_map_of_mem named) other mem _ _ _ onward again

/-! ### The walk -/

/-- A walk comes to its end exactly when it enters each folder once. -/
theorem walk_isOk_iff (distinct : unvisited.Nodup) :
    (∃ found, walk disk filter unvisited pending = .ok found) ↔ Once disk filter unvisited pending := by
  fun_induction walk disk filter unvisited pending with
  | case1 unvisited =>
    exact ⟨fun _ => ⟨by simp, .nil⟩, fun _ => ⟨[], rfl⟩⟩
  | case2 unvisited path pending skipped ih =>
    rw [ih distinct, once_cons_of_not_enters]
    intro names location
    apply not_enters
    intro kept
    rw [skipped] at kept
    cases kept
  | case3 unvisited path pending kept location content leads ih =>
    rw [once_cons_of_not_enters, ← ih distinct]
    · constructor
      · rintro ⟨found, walked⟩
        obtain ⟨others, walkedRest, -⟩ := Generation.Step.exists_of_bind_eq_ok walked
        exact ⟨others, walkedRest⟩
      · rintro ⟨others, walkedRest⟩
        exact ⟨path.normal :: others, by rw [walkedRest]; rfl⟩
    · intro names entered
      apply not_enters
      intro _ folder absurd
      rw [leads] at absurd
      cases absurd
  | case4 unvisited path pending kept location leads member ih =>
    rw [ih (distinct.erase _), once_cons_of_folder distinct (by simpa using kept) leads member]
  | case5 unvisited path pending kept location leads visited =>
    constructor
    · rintro ⟨found, absurd⟩
      cases absurd
    · intro once
      exact absurd (once.free List.mem_cons_self ⟨by simpa using kept, .here leads⟩) visited
  | case6 unvisited path pending kept notFile notFolder ih =>
    rw [ih distinct, once_cons_of_not_enters]
    exact fun names location => not_enters fun _ folder => notFolder folder

/-- A walk fails at a folder that it has entered before. -/
theorem exists_of_walk_eq_error {cause : Failure}
    (failed : walk disk filter unvisited pending = .error cause) : ∃ text, cause = .symlinkCycle text := by
  fun_induction walk disk filter unvisited pending with
  | case1 => cases failed
  | case2 unvisited path pending skipped ih => exact ih failed
  | case3 unvisited path pending kept location content leads ih =>
    cases walked : walk disk filter unvisited pending with
    | ok found =>
      rw [walked] at failed
      cases failed
    | error found =>
      rw [walked] at failed
      obtain rfl := Except.error.inj failed
      exact ih walked
  | case4 unvisited path pending kept location leads member ih => exact ih failed
  | case5 unvisited path pending kept location leads visited =>
    cases failed
    exact ⟨path.shown, rfl⟩
  | case6 unvisited path pending kept notFile notFolder ih => exact ih failed

/-! ### The files of a project -/

/-- From the folder of the crate each folder is entered once, unless two ways lead to one. -/
theorem oneWay_root_iff : OneWay disk filter disk.folders filter.root ↔ ¬ ReachesTwice disk filter := by
  constructor
  · rintro oneWay ⟨first, second, location, differ, way, again⟩
    exact differ (oneWay.single _ _ _ way again)
  · intro never
    refine ⟨fun names location way => mem_folders_iff.2 way.folder, ?_⟩
    intro names others location way again
    by_contra differ
    exact never ⟨names, others, location, differ, way, again⟩

/-- The files of a crate are found exactly when no two ways lead to one folder. -/
theorem filesOf_isOk_iff (tree : disk.IsTree) :
    (∃ paths, filesOf disk filter = .ok paths) ↔ ¬ ReachesTwice disk filter := by
  have distinct := nodup_folders tree
  rw [filesOf, ← oneWay_root_iff]
  split
  next location leads =>
    have folder := mem_folders_iff.2 (Disk.find?_eq_some_iff.1 leads).2
    rw [oneWay_iff distinct leads folder, ← walk_isOk_iff (distinct.erase location)]
    constructor
    · rintro ⟨paths, collected⟩
      obtain ⟨found, walked, -⟩ := Generation.Step.exists_of_bind_eq_ok collected
      exact ⟨found, walked⟩
    · rintro ⟨found, walked⟩
      exact ⟨FilePath.ascending found, by rw [walked]; rfl⟩
  next notFolder =>
    have none : ∀ names location, ¬ Way disk filter filter.root names location := by
      intro names location way
      cases way with
      | here leads => exact notFolder _ leads
      | into leads => exact notFolder _ leads
    refine iff_of_true ⟨[], rfl⟩ ⟨fun names location way => absurd way (none _ _), ?_⟩
    exact fun names _ location way => absurd way (none _ _)

/-- The files of a crate are not found only because a folder is entered twice. -/
theorem exists_of_filesOf_eq_error {cause : Failure} (failed : filesOf disk filter = .error cause) :
    ∃ text, cause = .symlinkCycle text := by
  rw [filesOf] at failed
  split at failed
  next location leads =>
    cases walked : walk disk filter (disk.folders.erase location)
        ((disk.namesIn location).map filter.root.child) with
    | ok found =>
      rw [walked] at failed
      cases failed
    | error found =>
      rw [walked] at failed
      obtain rfl := Except.error.inj failed
      exact exists_of_walk_eq_error walked
  next => cases failed

/-- The files of a crate that are found can be read. -/
theorem readable_of_mem_filesOf {root : FilePath} {config : Config} {excluded : IgnoreRules}
    (legal : disk.Legal) {paths : List FilePath}
    (walked : filesOf disk (filterOf disk root config excluded) = .ok paths) :
    ∀ path ∈ paths, ∃ content, disk.readFile path = .ok content := by
  have shape := FilePath.kept_of_wellFormed (FilePath.wellFormed_components root)
  exact fun path mem => (isBelow_of_mem_filesOf legal shape rfl walked path mem).2

end Walk

/-! ### The project -/

section Project

variable {disk : Disk} {root : FilePath} {config : Config} {excluded : IgnoreRules}

/-- A pattern that is no glob is named. -/
theorem exists_of_mapM_glob_eq_error {patterns : List String} {cause : Failure}
    (failed : patterns.mapM glob = .error cause) :
    ∃ pattern reason, cause = .invalidPattern pattern reason := by
  obtain ⟨-, pattern, -, -, -, bad⟩ := mapM_eq_error_iff.1 failed
  rw [glob] at bad
  cases parsed : Pattern.Glob.parse false false pattern with
  | error fault =>
    rw [parsed] at bad
    cases bad
    exact ⟨pattern, _, rfl⟩
  | ok glob =>
    rw [parsed] at bad
    cases bad

/-- Once the files of a crate are found, no cycle is reported any more. -/
theorem collect_ne_symlinkCycle (legal : disk.Legal)
    (excluding : excludeRules config.excluded = .ok excluded) {paths : List FilePath}
    (walked : filesOf disk (filterOf disk root config excluded) = .ok paths) (text : String) :
    collect disk root config ≠ .error (.symlinkCycle text) := by
  have readable := readable_of_mem_filesOf legal walked
  have files := walked
  rw [filterOf] at files
  intro failed
  cases offering : config.offered.mapM glob with
  | error cause =>
    obtain ⟨pattern, reason, rfl⟩ := exists_of_mapM_glob_eq_error offering
    simp only [collect, excluding, files, offering, bind, Except.bind] at failed
    cases failed
  | ok offered =>
    cases embedding : config.embedded.mapM glob with
    | error cause =>
      obtain ⟨pattern, reason, rfl⟩ := exists_of_mapM_glob_eq_error embedding
      simp only [collect, excluding, files, offering, embedding, bind, Except.bind] at failed
      cases failed
    | ok embedded =>
      obtain ⟨warnings, collected⟩ := exists_collect_eq excluding walked offering embedding readable
      rw [collected] at failed
      cases read : (selectableAmong disk root config offered paths).mapM
          (readResource disk config.maxFileSize) with
      | ok found =>
        rw [read] at failed
        cases failed
      | error cause =>
        obtain ⟨-, path, -, content, -, -, -, -, rfl⟩ :=
          exists_of_mapM_readResource_eq_error (readable_of_mem_selectableAmong readable) read
        rw [read] at failed
        cases failed

/-- A cycle is reported exactly when two ways lead from the folder of the crate to one folder. A way that
comes back to a folder is one cause of this, a second way to a folder is another. Otherwise the walk finds
every file that is reached. -/
theorem symlinkCycle_iff_reachesTwice (legal : disk.Legal) (tree : disk.IsTree)
    (excluding : excludeRules config.excluded = .ok excluded) :
    ((∃ path, collect disk root config = .error (.symlinkCycle path)) ↔
      ReachesTwice disk (filterOf disk root config excluded)) ∧
    (ComesBack disk (filterOf disk root config excluded) →
      ReachesTwice disk (filterOf disk root config excluded)) ∧
    (¬ ReachesTwice disk (filterOf disk root config excluded) →
      ∃ paths, filesOf disk (filterOf disk root config excluded) = .ok paths ∧
        ∀ path, path ∈ paths ↔ Reached disk (filterOf disk root config excluded) path) := by
  have shape := FilePath.kept_of_wellFormed (FilePath.wellFormed_components root)
  refine ⟨?_, ComesBack.reachesTwice, ?_⟩
  · cases walked : filesOf disk (filterOf disk root config excluded) with
    | ok paths =>
      have never := (filesOf_isOk_iff tree).1 ⟨paths, walked⟩
      exact iff_of_false (not_exists.2 (collect_ne_symlinkCycle legal excluding walked)) never
    | error cause =>
      obtain ⟨path, rfl⟩ := exists_of_filesOf_eq_error walked
      refine iff_of_true ⟨path, ?_⟩ ?_
      · rw [filterOf] at walked
        simp only [collect, excluding, walked, bind, Except.bind]
      · by_contra never
        obtain ⟨paths, found⟩ := (filesOf_isOk_iff tree).2 never
        rw [walked] at found
        cases found
  · intro never
    obtain ⟨paths, walked⟩ := (filesOf_isOk_iff tree).2 never
    exact ⟨paths, walked, fun path => mem_filesOf_iff legal shape rfl walked⟩

/-- A crate with a source and three links to one folder beside it. -/
def sharedFolder : Disk where
  entries := [(["crate"], .folder), (["src", "crate"], .folder),
    (["lib.rs", "src", "crate"],
      .file "#[embedded_resource_properties(path = \"/de\")]\npub struct Notes;\n".toUTF8),
    (["shared"], .folder), (["first.txt", "shared"], .file "one".toUTF8),
    (["de", "crate"], .link ⟨"../shared"⟩), (["en", "crate"], .link ⟨"../shared"⟩),
    (["fr", "crate"], .link ⟨"../shared"⟩)]
  distinct := by decide
  working := []

/-- The ways to the folders of the crate with a shared folder. -/
theorem way_sharedFolder {filter : Filter} {names : List String} {location : Location}
    (way : Way sharedFolder filter ⟨"/crate"⟩ names location) :
    (names, location) ∈ [([], ["crate"]), (["src"], ["src", "crate"]), (["de"], ["shared"]),
      (["en"], ["shared"]), (["fr"], ["shared"])] := by
  have crate : sharedFolder.LeadsTo ⟨"/crate"⟩ ["crate"] := by decide +kernel
  have listed : sharedFolder.namesIn ["crate"] = ["src", "de", "en", "fr"] := by decide
  have inShared : ∀ name ∈ ["de", "en", "fr"],
      sharedFolder.LeadsTo ((⟨"/crate"⟩ : FilePath).child name) ["shared"] := by
    decide +kernel
  rcases (way_iff (crate.opens.find? crate.written)).1 way with
    ⟨rfl, rfl⟩ | ⟨name, named, rest, rfl, onward⟩
  · simp
  · rw [listed] at named
    simp only [List.mem_cons, List.not_mem_nil, or_false] at named
    rcases named with rfl | rfl | rfl | rfl
    · have leads : sharedFolder.LeadsTo ((⟨"/crate"⟩ : FilePath).child "src") ["src", "crate"] := by
        decide +kernel
      obtain ⟨rfl, rfl⟩ := onward.way.of_no_folders leads (by decide +kernel)
      simp
    all_goals
      obtain ⟨rfl, rfl⟩ := onward.way.of_no_folders (inShared _ (by simp)) (by decide +kernel)
      simp

/-- A cycle is reported for the crate with a shared folder. -/
theorem exists_collect_sharedFolder :
    ∃ path, collect sharedFolder ⟨"/crate"⟩ .default = .error (.symlinkCycle path) := by
  have failed : (match collect sharedFolder ⟨"/crate"⟩ .default with
      | .error (.symlinkCycle _) => true
      | _ => false) = true := by
    decide +kernel
  split at failed
  next path collected => exact ⟨path, collected⟩
  next => cases failed

/-- Two ways lead to the shared folder. -/
theorem symlinkCycle_iff_reachesTwice_sharedFolder :
    (∃ path, collect sharedFolder ⟨"/crate"⟩ .default = .error (.symlinkCycle path)) ∧
      ReachesTwice sharedFolder (filterOf sharedFolder ⟨"/crate"⟩ .default []) := by
  have legal : sharedFolder.Legal := ⟨by decide, by decide⟩
  exact ⟨exists_collect_sharedFolder,
    (symlinkCycle_iff_reachesTwice legal (by decide) rfl).1.1 exists_collect_sharedFolder⟩

/-- A cycle is reported for a crate in which no way comes back to a folder. -/
theorem collect_fails_without_cycle :
    (∃ path, collect sharedFolder ⟨"/crate"⟩ .default = .error (.symlinkCycle path)) ∧
      ¬ ComesBack sharedFolder (filterOf sharedFolder ⟨"/crate"⟩ .default []) := by
  refine ⟨exists_collect_sharedFolder, ?_⟩
  rintro ⟨names, more, location, some, first, second⟩
  have root : (⟨"/crate"⟩ : FilePath).normal = ⟨"/crate"⟩ := FilePath.normal_eq_iff.2 (by decide)
  simp only [filterOf, root] at first second
  have one := way_sharedFolder first
  have two := way_sharedFolder second
  simp only [List.mem_cons, Prod.mk.injEq, List.not_mem_nil, or_false] at one two
  rcases one with ⟨rfl, rfl⟩ | ⟨rfl, rfl⟩ | ⟨rfl, rfl⟩ | ⟨rfl, rfl⟩ <;> simp_all

end Project

end ResourceAccessors.Project
