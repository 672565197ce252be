import ResourceAccessors.FilePath.Basic

/-!
# The disk

The files, folders and links that a build finds and changes. No two entries stand at one location, and
a folder lists its entries in the order of the disk.
-/

namespace ResourceAccessors

/-- What stands at a location. -/
inductive Disk.Entry
  | file (content : ByteArray)
  | folder
  | link (target : FilePath)
  deriving Inhabited

/-- The names on the way from an entry up to the root, the name of the entry first. The root itself
has none. Names are held as paths hold them, those that are not text too. -/
abbrev Disk.Location := List String

/-- Entries at different locations, and the location at which relative paths start. -/
structure Disk where
  entries : List (Disk.Location × Disk.Entry)
  distinct : (entries.map Prod.fst).Nodup
  working : Disk.Location

namespace Disk

/-- A disk without entries. -/
def empty : Disk :=
  ⟨[], List.nodup_nil, []⟩

instance : Inhabited Disk :=
  ⟨empty⟩

/-- The entry at a location. The root is a folder. -/
def entry? (disk : Disk) : Location → Option Entry
  | [] => some .folder
  | location => disk.entries.lookup location

/-- What stands at a location is among the entries. -/
theorem mem_entries_of_stands {disk : Disk} {location : Location} {entry : Entry}
    (below : location ≠ []) (stands : disk.entry? location = some entry) :
    (location, entry) ∈ disk.entries := by
  cases location with
  | nil => exact absurd rfl below
  | cons name folder =>
    obtain ⟨before, after, entries, -⟩ := List.lookup_eq_some_iff.1 stands
    rw [entries]
    simp

/-- Whether a folder stands at a location. -/
def isFolderAt (disk : Disk) (location : Location) : Bool :=
  match disk.entry? location with
  | some .folder => true
  | _ => false

/-- The locations of all folders. -/
def folders (disk : Disk) : List Location :=
  [] :: (disk.entries.map Prod.fst).filter disk.isFolderAt

/-- The names of the entries of a folder. -/
def namesIn (disk : Disk) (folder : Location) : List String :=
  disk.entries.filterMap fun
    | (name :: parent, _) => if parent = folder then some name else none
    | ([], _) => none

/-! ### Changes -/

/-- The entries with `entry` at a location, in place of the one that may stand there. -/
def entriesWith (location : Location) (entry : Entry) :
    List (Location × Entry) → List (Location × Entry)
  | [] => [(location, entry)]
  | (found, other) :: rest =>
    if found = location then (location, entry) :: rest
    else (found, other) :: entriesWith location entry rest

/-- An entry is added under its own location only. -/
theorem mem_map_fst_entriesWith {location found : Location} {entry : Entry}
    {entries : List (Location × Entry)}
    (member : found ∈ (entriesWith location entry entries).map Prod.fst) :
    found = location ∨ found ∈ entries.map Prod.fst := by
  induction entries with
  | nil => simp_all [entriesWith]
  | cons first rest ih =>
    obtain ⟨here, other⟩ := first
    by_cases same : here = location
    · simp_all [entriesWith]
    · rw [entriesWith, if_neg same, List.map_cons, List.mem_cons] at member
      rcases member with equal | below
      · exact .inr (by simp [equal])
      · rcases ih below with equal | known
        · exact .inl equal
        · exact .inr (by simp [known])

/-- Adding an entry lists no location twice. -/
theorem nodup_entriesWith (location : Location) (entry : Entry)
    {entries : List (Location × Entry)} (distinct : (entries.map Prod.fst).Nodup) :
    ((entriesWith location entry entries).map Prod.fst).Nodup := by
  induction entries with
  | nil => simp [entriesWith]
  | cons first rest ih =>
    obtain ⟨here, other⟩ := first
    rw [List.map_cons, List.nodup_cons] at distinct
    by_cases same : here = location
    · subst same
      rw [entriesWith, if_pos rfl, List.map_cons, List.nodup_cons]
      exact distinct
    · rw [entriesWith, if_neg same, List.map_cons, List.nodup_cons]
      refine ⟨fun member => ?_, ih distinct.2⟩
      rcases mem_map_fst_entriesWith member with equal | known
      · exact same equal
      · exact distinct.1 known

/-- The disk with `entry` at a location, in place of the one that may stand there. -/
def put (disk : Disk) (location : Location) (entry : Entry) : Disk where
  entries := entriesWith location entry disk.entries
  distinct := nodup_entriesWith location entry disk.distinct
  working := disk.working

/-- The disk with those entries whose locations pass a test. -/
def keep (disk : Disk) (stays : Location → Bool) : Disk where
  entries := disk.entries.filter fun found => stays found.1
  distinct := disk.distinct.sublist (List.filter_sublist.map Prod.fst)
  working := disk.working

/-- The disk without the entry at a location. -/
def erase (disk : Disk) (location : Location) : Disk :=
  disk.keep (· != location)

/-- The disk without the entry at a location and all that stands below it. -/
def eraseTree (disk : Disk) (location : Location) : Disk :=
  disk.keep fun found => !location.isSuffixOf found

/-- The disk with relative paths starting at a location. -/
def workingAt (disk : Disk) (location : Location) : Disk :=
  { disk with working := location }

end Disk

end ResourceAccessors
