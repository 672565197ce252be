import ResourceAccessors.Proofs.Disk.Entries
import ResourceAccessors.Proofs.FilePath.Child
import ResourceAccessors.Proofs.Generation.Step

/-!
# Names on a disk

Every entry of a disk has a name that a path can lead to: it is not empty, not a dot or two dots, holds
no slash, and is not too long.
-/

namespace ResourceAccessors.Disk

open FilePath (IsEntryName)

/-- A name that an entry of a disk can have. -/
structure IsName (name : String) : Prop where
  entryName : IsEntryName name
  short : FilePath.byteSize name ≤ maxNameSize

instance (name : String) : Decidable (IsName name) :=
  decidable_of_iff (IsEntryName name ∧ FilePath.byteSize name ≤ maxNameSize)
    ⟨fun ⟨entryName, short⟩ => ⟨entryName, short⟩, fun ⟨entryName, short⟩ => ⟨entryName, short⟩⟩

/-- All names on the way to a location can be those of entries. -/
def Location.Legal (location : Location) : Prop :=
  ∀ name ∈ location, IsName name

instance (location : Location) : Decidable (Location.Legal location) :=
  inferInstanceAs (Decidable (∀ name ∈ location, IsName name))

/-- All names on a disk can be those of entries. -/
structure Legal (disk : Disk) : Prop where
  entries : ∀ entry ∈ disk.entries, Location.Legal entry.1
  working : Location.Legal disk.working

/-- Where something stands, the names are those of entries. -/
theorem Legal.names {disk : Disk} (legal : disk.Legal) {location : Location} {entry : Entry}
    (stands : disk.entry? location = some entry) : location.Legal := by
  cases location with
  | nil => exact fun name mem => nomatch mem
  | cons name folder => exact legal.entries _ (mem_entries_of_stands (by simp) stands)

/-- The entries of a folder have names of entries. -/
theorem Legal.isName {disk : Disk} (legal : disk.Legal) {folder : Location} {name : String}
    (mem : name ∈ disk.namesIn folder) : IsName name := by
  obtain ⟨entry, stands⟩ := Option.isSome_iff_exists.1 (mem_namesIn_iff.1 mem)
  exact legal.names stands name List.mem_cons_self

/-- The entries of a folder have names that a path can lead to. -/
theorem Legal.namesIn {disk : Disk} (legal : disk.Legal) {folder : Location} {name : String}
    (mem : name ∈ disk.namesIn folder) : IsEntryName name :=
  (legal.isName mem).entryName

/-! ### Locations that are reached -/

section Reached

variable {disk : Disk} {here location : Location}

/-- The folder of a legal location is legal. -/
theorem Location.Legal.tail (legal : location.Legal) : Location.Legal location.tail :=
  fun name mem => legal name (List.mem_of_mem_tail mem)

/-- Following leads to locations with the names of entries only. -/
theorem Legal.follow (legal : disk.Legal) {links : Nat} {steps : List FilePath.Component}
    (start : here.Legal) (followed : disk.follow links here steps = .ok location) :
    location.Legal := by
  fun_induction Disk.follow disk links here steps with
  | case1 links here =>
    cases followed
    exact start
  | case2 links here rest ih => exact ih (fun name mem => nomatch mem) followed
  | case3 links here rest inside ih => exact ih start followed
  -- following fails in these cases
  | case4 | case6 | case7 | case8 | case9 | case10 | case11 => cases followed
  | case5 links here rest inside ih => exact ih start.tail followed
  | case12 links here name rest inside short target stands more written ih =>
    exact ih start followed
  | case13 links here name rest inside short content stands ih =>
    exact ih (legal.names stands) followed
  | case14 links here name rest inside short stands ih =>
    exact ih (legal.names stands) followed

/-- A path is placed at a location with the names of entries only. -/
theorem Legal.place (legal : disk.Legal) {path : FilePath}
    (placed : disk.place path = .ok location) : location.Legal := by
  rw [Disk.place, placeFrom] at placed
  split at placed
  next name before last =>
    obtain ⟨folder, followed, placed⟩ := Generation.Step.exists_of_bind_eq_ok placed
    split at placed
    next => cases placed
    next =>
      split at placed
      next => cases placed
      next short =>
        cases placed
        intro found mem
        rcases List.mem_cons.1 mem with rfl | above
        · have among : FilePath.Component.name found ∈ path.components := by
            rw [← List.mem_reverse, last]
            exact List.mem_cons_self
          exact ⟨(FilePath.wellFormed_components path).isStep_of_name_mem among,
            Nat.not_lt.1 short⟩
        · exact legal.follow legal.working followed found above
  next =>
    rw [resolveFrom] at placed
    split at placed
    next => cases placed
    next => exact legal.follow legal.working placed

/-- Names of entries stay so when something is put under such names. -/
theorem Legal.put (legal : disk.Legal) (names : location.Legal) (entry : Entry) :
    (disk.put location entry).Legal where
  entries found mem := by
    rcases mem_map_fst_entriesWith (List.mem_map_of_mem mem) with same | old
    · rw [same]
      exact names
    · obtain ⟨kept, keptMem, same⟩ := List.mem_map.1 old
      rw [← same]
      exact legal.entries kept keptMem
  working := legal.working

/-- Names of entries stay so when something changes in one folder under such names. -/
theorem Legal.of_differsIn {after : Disk} {folder : Location} (legal : disk.Legal)
    (differs : DiffersIn folder disk after) (above : folder.Legal)
    (names : ∀ name ∈ after.namesIn folder, IsName name) (working : after.working = disk.working) :
    after.Legal where
  entries found mem := by
    obtain ⟨location, entry⟩ := found
    by_cases inside : location.tail = folder
    · cases location with
      | nil => exact fun name mem => nomatch mem
      | cons name parent =>
        obtain rfl : parent = folder := inside
        have named : name ∈ after.namesIn parent :=
          List.mem_filterMap.2 ⟨_, mem, by simp⟩
        intro other among
        rcases List.mem_cons.1 among with rfl | higher
        · exact names other named
        · exact above other higher
    · have outside : (location, entry) ∈ after.entries.filter fun found => found.1.tail != folder :=
        List.mem_filter.2 ⟨mem, by simpa using inside⟩
      rw [differs] at outside
      exact legal.entries _ (List.mem_filter.1 outside).1
  working := working ▸ legal.working

end Reached

end ResourceAccessors.Disk
