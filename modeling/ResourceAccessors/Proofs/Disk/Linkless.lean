import ResourceAccessors.Proofs.Disk.Around

/-!
# Disks without links

Where no link stands and everything stands in a folder, each path at or below a folder has a place of its
own, and it leads to what stands there.
-/

namespace ResourceAccessors

open FilePath (IsEntryName)

/-- A location is reached from another one by the names that lead from a folder to a path. -/
def FilePath.LiesAt (root : FilePath) (top : Disk.Location) (path : FilePath)
    (location : Disk.Location) : Prop :=
  ∃ names : List String, location = names ++ top ∧
    path.components = root.components ++ names.reverse.map .name

/-- What lies below a folder is located below it. -/
theorem FilePath.LiesAt.suffix {root path : FilePath} {top location : Disk.Location}
    (lies : root.LiesAt top path location) : top <:+ location := by
  obtain ⟨names, rfl, -⟩ := lies
  exact List.suffix_append names top

/-- The location of a path below a folder tells its components. -/
theorem FilePath.LiesAt.components_eq {root path : FilePath} {top : Disk.Location}
    {names : List String} (lies : root.LiesAt top path (names ++ top)) :
    path.components = root.components ++ names.reverse.map .name := by
  obtain ⟨others, same, components⟩ := lies
  rw [List.append_cancel_right same, components]

namespace Disk

/-- Where a link leads. -/
def Entry.linkTarget? : Entry → Option FilePath
  | .link target => some target
  | _ => none

/-- No link stands on a disk. -/
def IsLinkless (disk : Disk) : Prop :=
  ∀ found ∈ disk.entries, found.2.linkTarget?.isNone = true

instance (disk : Disk) : Decidable disk.IsLinkless :=
  inferInstanceAs (Decidable (∀ found ∈ disk.entries, found.2.linkTarget?.isNone = true))

namespace IsLinkless

variable {before after disk : Disk} {root : FilePath} {top : Location}

/-- On a disk without links none stands anywhere. -/
theorem entry?_ne (linkless : disk.IsLinkless) (location : Location) (target : FilePath) :
    disk.entry? location ≠ some (.link target) := by
  intro stands
  cases location with
  | nil => cases stands
  | cons name folder =>
    have absent := linkless _ (mem_entries_of_stands (List.cons_ne_nil name folder) stands)
    cases absent

/-- On a disk without links none leads out of a folder. -/
theorem holdsWithin (linkless : disk.IsLinkless) (top : Location) : disk.HoldsWithin top :=
  fun _ _ _ _ stands => absurd stands (linkless.entry?_ne _ _)

/-- Where no link stands, nothing but the folder itself can open a way. -/
theorem opensNoWay (linkless : after.IsLinkless) (leads : before.LeadsTo root top)
    (leadsAfter : after.LeadsTo root top) : before.OpensNoWay after root := by
  intro path inside ending found stands
  rcases ending with rfl | ⟨location, target, -, link⟩
  · rw [leadsAfter.opens.find? leadsAfter.written] at stands
    rw [leads.opens.find? leads.written, stands]
  · exact absurd link (linkless.entry?_ne location target)

/-- Where no link stands, a path with a name at its end leads to the entry of a folder. -/
theorem exists_opens_of_find?_child (linkless : disk.IsLinkless) {path : FilePath} {name : String}
    (legal : IsEntryName name) {location : Location} {entry : Entry}
    (found : disk.find? (path.child name) = some (location, entry)) :
    ∃ folder, disk.Opens path folder ∧ FilePath.byteSize name ≤ maxNameSize ∧ location = name :: folder := by
  obtain ⟨folder, opens, short, link | same⟩ := Disk.exists_opens_of_find?_child legal found
  · obtain ⟨target, -, stands, -⟩ := link
    exact absurd stands (linkless.entry?_ne _ _)
  · exact ⟨folder, opens, short, same⟩

end IsLinkless

/-- Paths at and below a path that leads to a folder have a text. -/
theorem LeadsTo.text_ne_of_inside {disk : Disk} {root path : FilePath} {top : Location}
    (leads : disk.LeadsTo root top) (inside : root.Inside path) : path.text ≠ "" := by
  cases inside with
  | here => exact leads.written
  | child _ named => exact FilePath.text_child_ne _ named

/-! ### Plain disks -/

/-- A disk without links where everything stands in a folder, and a path that leads to one. -/
structure IsPlainAt (disk : Disk) (root : FilePath) (top : Location) : Prop where
  linkless : disk.IsLinkless
  tree : disk.IsTree
  leads : disk.LeadsTo root top

instance (disk : Disk) (root : FilePath) (top : Location) : Decidable (disk.IsPlainAt root top) :=
  decidable_of_iff (disk.IsLinkless ∧ disk.IsTree ∧ disk.LeadsTo root top)
    ⟨fun ⟨linkless, tree, leads⟩ => ⟨linkless, tree, leads⟩,
      fun ⟨linkless, tree, leads⟩ => ⟨linkless, tree, leads⟩⟩

/-! ### Writing files -/

section Files

variable {disk : Disk} {root : FilePath} {name : String} {parent top : Location}
  {content : ByteArray}

/-- An entry of the changed entries is the new one or was there. -/
theorem mem_entriesWith {location : Location} {entry : Entry} {found : Location × Entry}
    {entries : List (Location × Entry)} (mem : found ∈ entriesWith location entry entries) :
    found = (location, entry) ∨ found ∈ entries := by
  induction entries with
  | nil => exact .inl (List.mem_singleton.1 mem)
  | cons first rest ih =>
    rw [entriesWith] at mem
    split at mem
    next =>
      rcases List.mem_cons.1 mem with new | old
      · exact .inl new
      · exact .inr (List.mem_cons_of_mem _ old)
    next =>
      rcases List.mem_cons.1 mem with rfl | later
      · exact .inr List.mem_cons_self
      · exact (ih later).imp_right (List.mem_cons_of_mem _)

/-- A disk with a file in place of a file or nothing keeps its folders. -/
theorem keeps_put_file (free : disk.IsFileOrFree (name :: parent)) :
    disk.Keeps (disk.put (name :: parent) (.file content)) :=
  keeps_of_other free (fun _ differs => entry?_put_other disk differs _) rfl

/-- A file that is put in a folder leaves a disk without links one. -/
theorem IsPlainAt.put_file (plain : disk.IsPlainAt root top) (holds : disk.entry? parent = some .folder)
    (free : disk.IsFileOrFree (name :: parent)) :
    (disk.put (name :: parent) (.file content)).IsPlainAt root top where
  linkless found mem := by
    rcases mem_entriesWith mem with rfl | old
    · rfl
    · exact plain.linkless found old
  tree found mem := by
    rcases mem_entriesWith mem with rfl | old
    · exact ⟨name, parent, rfl, (keeps_put_file free).folders parent holds⟩
    · obtain ⟨first, above, location, stands⟩ := plain.tree found old
      exact ⟨first, above, location, (keeps_put_file free).folders above stands⟩
  leads := plain.leads.mono (keeps_put_file free)

end Files

/-! ### Places -/

/-- What stands at a place that a path may have. -/
def standing (disk : Disk) (place : Option Location) : Option (Location × Entry) :=
  place.bind fun location => (disk.entry? location).map (location, ·)

/-- What stands at a place is the entry at its location. -/
theorem standing_eq_some_iff {disk : Disk} {place : Option Location} {location : Location}
    {entry : Entry} : disk.standing place = some (location, entry) ↔
      place = some location ∧ disk.entry? location = some entry := by
  rw [standing, Option.bind_eq_some_iff]
  constructor
  · rintro ⟨found, placed, stands⟩
    obtain ⟨held, stands, same⟩ := Option.map_eq_some_iff.1 stands
    cases same
    exact ⟨placed, stands⟩
  · rintro ⟨placed, stands⟩
    exact ⟨location, placed, by rw [stands]; rfl⟩

/-- A path at or below a folder leads to what stands at its place, on every disk without links. The place
does not depend on the disk. -/
theorem exists_place_of_inside {root path : FilePath} (top : Location) (inside : root.Inside path) :
    ∃ place : Option Location, (∀ location ∈ place, root.LiesAt top path location) ∧
      ∀ disk : Disk, disk.IsPlainAt root top → disk.find? path = disk.standing place := by
  induction inside with
  | here =>
    refine ⟨some top, fun location same => ?_, fun disk plain => ?_⟩
    · cases same
      exact ⟨[], rfl, by simp⟩
    · rw [plain.leads.opens.find? plain.leads.written, standing, Option.bind_some, plain.leads.stands]
      rfl
  | @child path name inside legal ih =>
    obtain ⟨place, lies, leads⟩ := ih
    by_cases short : FilePath.byteSize name ≤ maxNameSize
    · refine ⟨place.map (name :: ·), ?_, fun disk plain => ?_⟩
      · intro location same
        obtain ⟨folder, placed, rfl⟩ := Option.map_eq_some_iff.1 same
        obtain ⟨names, rfl, components⟩ := lies folder placed
        refine ⟨name :: names, rfl, ?_⟩
        rw [path.components_child legal, components]
        simp
      · refine Option.ext fun ⟨location, entry⟩ => ?_
        rw [standing_eq_some_iff]
        constructor
        · intro found
          obtain ⟨folder, opens, -, rfl⟩ := plain.linkless.exists_opens_of_find?_child legal found
          have through := opens.find? (plain.leads.text_ne_of_inside inside)
          rw [leads disk plain, standing_eq_some_iff] at through
          exact ⟨by rw [through.1]; rfl, (find?_eq_some_iff.1 found).2⟩
        · rintro ⟨placed, stands⟩
          obtain ⟨folder, placedFolder, rfl⟩ := Option.map_eq_some_iff.1 placed
          obtain ⟨first, parent, same, holds⟩ := plain.tree _ (mem_entries_of_stands (by simp) stands)
          cases same
          have through : disk.find? path = some (folder, .folder) := by
            rw [leads disk plain, standing_eq_some_iff]
            exact ⟨placedFolder, holds⟩
          exact (opens_of_find? through).find?_child legal short stands fun target link =>
            plain.linkless.entry?_ne _ target (link ▸ stands)
    · refine ⟨none, nofun, fun disk plain => ?_⟩
      rw [standing, Option.bind_none, Option.eq_none_iff_forall_not_mem]
      rintro ⟨location, entry⟩ found
      obtain ⟨folder, -, fits, -⟩ := plain.linkless.exists_opens_of_find?_child legal found
      exact short fits

end Disk

end ResourceAccessors
