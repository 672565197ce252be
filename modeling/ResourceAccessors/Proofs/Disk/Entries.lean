import ResourceAccessors.Disk.Basic

/-!
# Entries after a change

A change at one location leaves the entries at all others as they were, and what a folder lists is what
stands in it.
-/

namespace ResourceAccessors.Disk

/-! ### Putting and erasing -/

section Changes

variable {disk : Disk} {location found : Location} {entry : Entry}

/-- What was put at a location stands there. -/
theorem lookup_entriesWith_self (location : Location) (entry : Entry)
    (entries : List (Location × Entry)) :
    (entriesWith location entry entries).lookup location = some entry := by
  induction entries with
  | nil => simp [entriesWith]
  | cons first rest ih =>
    rw [entriesWith]
    split
    · rw [List.lookup_cons_self]
    next differs =>
      have apart : (location == first.1) = false := by
        rw [beq_eq_false_iff_ne]
        exact Ne.symm differs
      rw [List.lookup_cons, apart]
      exact ih

/-- What was put at a location leaves the others. -/
theorem lookup_entriesWith_other (differs : found ≠ location) (entry : Entry)
    (entries : List (Location × Entry)) :
    (entriesWith location entry entries).lookup found = entries.lookup found := by
  have apart : (found == location) = false := by simpa using differs
  induction entries with
  | nil => simp [entriesWith, List.lookup_cons, apart]
  | cons first rest ih =>
    rw [entriesWith]
    split
    next same =>
      rw [List.lookup_cons, List.lookup_cons, same, apart]
    next => rw [List.lookup_cons, List.lookup_cons, ih]

/-- An entry that is put somewhere stands there. -/
theorem entry?_put_self (disk : Disk) (below : location ≠ []) (entry : Entry) :
    entry? (disk.put location entry) location = some entry := by
  cases location with
  | nil => exact absurd rfl below
  | cons name folder => exact lookup_entriesWith_self _ entry disk.entries

/-- Putting an entry somewhere leaves the others. -/
theorem entry?_put_other (disk : Disk) (differs : found ≠ location) (entry : Entry) :
    entry? (disk.put location entry) found = disk.entry? found := by
  cases found with
  | nil => rfl
  | cons name folder => exact lookup_entriesWith_other differs entry disk.entries

/-- At a location that was erased nothing stands. -/
theorem lookup_filter_self (entries : List (Location × Entry)) :
    (entries.filter fun found => found.1 != location).lookup location = none := by
  rw [List.lookup_eq_none_iff]
  intro entry mem
  have kept := (List.mem_filter.1 mem).2
  rw [bne_iff_ne] at kept
  simpa using Ne.symm kept

/-- What was erased leaves the other locations. -/
theorem lookup_filter_other (differs : found ≠ location) (entries : List (Location × Entry)) :
    (entries.filter fun found => found.1 != location).lookup found = entries.lookup found := by
  induction entries with
  | nil => rfl
  | cons first rest ih =>
    by_cases same : first.1 = location
    · have apart : (found == first.1) = false := by
        rw [beq_eq_false_iff_ne, same]
        exact differs
      rw [List.filter_cons_of_neg (by simpa using same), List.lookup_cons, apart]
      exact ih
    · rw [List.filter_cons_of_pos (by simpa using same), List.lookup_cons, List.lookup_cons, ih]

/-- Nothing stands where an entry is erased. -/
theorem entry?_erase_self (disk : Disk) (below : location ≠ []) :
    entry? (disk.erase location) location = none := by
  cases location with
  | nil => exact absurd rfl below
  | cons name folder => exact lookup_filter_self disk.entries

/-- Erasing an entry leaves the others. -/
theorem entry?_erase_other (disk : Disk) (differs : found ≠ location) :
    entry? (disk.erase location) found = disk.entry? found := by
  cases found with
  | nil => rfl
  | cons name folder => exact lookup_filter_other differs disk.entries

/-- An entry that is put where nothing stands comes behind all others. -/
theorem entries_put_of_free (below : location ≠ []) (free : disk.entry? location = none) :
    (disk.put location entry).entries = disk.entries ++ [(location, entry)] := by
  have absent : disk.entries.lookup location = none := by
    cases location with
    | nil => exact absurd rfl below
    | cons name folder => exact free
  change entriesWith location entry disk.entries = _
  generalize disk.entries = entries at absent
  induction entries with
  | nil => rfl
  | cons first rest ih =>
    rw [List.lookup_cons] at absent
    split at absent
    next => cases absent
    next apart =>
      have other : first.1 ≠ location := fun same => by simp [same] at apart
      rw [entriesWith, if_neg other, ih absent, List.cons_append]

/-- An entry that is put where it stands changes nothing. -/
theorem put_of_stands (below : location ≠ []) (stands : disk.entry? location = some entry) :
    disk.put location entry = disk := by
  have found : disk.entries.lookup location = some entry := by
    cases location with
    | nil => exact absurd rfl below
    | cons name folder => exact stands
  have same : ∀ entries : List (Location × Entry), entries.lookup location = some entry →
      entriesWith location entry entries = entries := by
    intro entries present
    induction entries with
    | nil => cases present
    | cons first rest ih =>
      rw [entriesWith]
      split
      next here =>
        rw [List.lookup_cons, here, beq_self_eq_true] at present
        rw [← here, ← Option.some.inj present]
      next apart =>
        have other : (location == first.1) = false := by
          rw [beq_eq_false_iff_ne]
          exact Ne.symm apart
        rw [List.lookup_cons, other] at present
        rw [ih present]
  rw [put]
  simp only [same disk.entries found]

end Changes

/-! ### Changes in one folder -/

/-- Two disks that differ in what stands in one folder only. -/
def DiffersIn (folder : Location) (before after : Disk) : Prop :=
  (after.entries.filter fun found => found.1.tail != folder) =
    before.entries.filter fun found => found.1.tail != folder

section DiffersIn

variable {folder : Location} {before middle after : Disk}

/-- A disk does not differ from itself. -/
theorem DiffersIn.refl (folder : Location) (disk : Disk) : DiffersIn folder disk disk := rfl

/-- Two changes in a folder differ in this folder only. -/
theorem DiffersIn.trans (first : DiffersIn folder before middle)
    (second : DiffersIn folder middle after) : DiffersIn folder before after :=
  Eq.trans second first

/-- Putting an entry in a folder differs in this folder only. -/
theorem differsIn_put (disk : Disk) (name : String) (entry : Entry) :
    DiffersIn folder disk (disk.put (name :: folder) entry) := by
  unfold DiffersIn
  change (entriesWith (name :: folder) entry disk.entries).filter _ = _
  induction disk.entries with
  | nil => simp [entriesWith]
  | cons first rest ih =>
    rw [entriesWith]
    split
    next same => simp [same]
    next => rw [List.filter_cons, List.filter_cons, ih]

/-- Erasing an entry of a folder differs in this folder only. -/
theorem differsIn_erase (disk : Disk) (name : String) :
    DiffersIn folder disk (disk.erase (name :: folder)) := by
  change (disk.entries.filter fun found => found.1 != name :: folder).filter _ = _
  rw [List.filter_filter]
  apply List.filter_congr
  intro found _
  rw [Bool.and_eq_left_iff_imp]
  intro apart
  rw [bne_iff_ne] at apart ⊢
  rintro same
  exact apart (by rw [same, List.tail_cons])

/-- What stands in another folder stays. -/
theorem DiffersIn.entry?_eq (differs : DiffersIn folder before after) {location : Location}
    (apart : location.tail ≠ folder) : after.entry? location = before.entry? location := by
  have found : ∀ entries : List (Location × Entry),
      (entries.filter fun found => found.1.tail != folder).lookup location =
        entries.lookup location := by
    intro entries
    induction entries with
    | nil => rfl
    | cons first rest ih =>
      rw [List.filter_cons, List.lookup_cons]
      split
      next => rw [List.lookup_cons, ih]
      next inside =>
        have other : (location == first.1) = false := by
          rw [beq_eq_false_iff_ne]
          rintro rfl
          simp [apart] at inside
        rw [other]
        exact ih
  cases location with
  | nil => rfl
  | cons name parent =>
    change after.entries.lookup _ = before.entries.lookup _
    rw [← found after.entries, differs, found]

/-- Another folder lists the same names. -/
theorem DiffersIn.namesIn_eq (differs : DiffersIn folder before after) {location : Location}
    (apart : location ≠ folder) : after.namesIn location = before.namesIn location := by
  have listed : ∀ disk : Disk, disk.namesIn location =
      (disk.keep fun found => found.tail != folder).namesIn location := by
    intro disk
    rw [namesIn, namesIn, keep, List.filterMap_filter]
    congr 1
    funext ⟨found, entry⟩
    cases found with
    | nil => simp
    | cons name parent =>
      by_cases here : parent = location
      · simp [here, apart]
      · simp [here]
  rw [listed after, listed before, namesIn, namesIn]
  exact congrArg (List.filterMap _) differs

end DiffersIn

/-! ### Listed names -/

/-- A folder lists the names of what stands in it. -/
theorem mem_namesIn_iff {disk : Disk} {folder : Location} {name : String} :
    name ∈ disk.namesIn folder ↔ (disk.entry? (name :: folder)).isSome := by
  rw [namesIn, List.mem_filterMap]
  constructor
  · rintro ⟨⟨location, entry⟩, mem, named⟩
    cases location with
    | nil => cases named
    | cons first parent =>
      dsimp only at named
      split at named
      next same =>
        cases named
        subst same
        rw [Option.isSome_iff_ne_none]
        intro absent
        have apart := List.lookup_eq_none_iff.1 absent _ mem
        simp at apart
      next => cases named
  · intro stands
    obtain ⟨entry, found⟩ := Option.isSome_iff_exists.1 stands
    exact ⟨_, mem_entries_of_stands (by simp) found, by simp⟩

/-- A folder lists every name once. -/
theorem nodup_namesIn (disk : Disk) (folder : Location) : (disk.namesIn folder).Nodup := by
  have listed : disk.namesIn folder = (disk.entries.map Prod.fst).filterMap fun
      | name :: parent => if parent = folder then some name else none
      | [] => none := by
    rw [namesIn, List.filterMap_map]
    congr 1
    funext ⟨location, entry⟩
    cases location <;> rfl
  rw [listed]
  have whole : ∀ (name : String) (location : Location), (match location with
      | name :: parent => if parent = folder then some name else none
      | [] => none) = some name → location = name :: folder := by
    intro name location named
    cases location with
    | nil => cases named
    | cons first parent =>
      dsimp only at named
      split at named
      next same =>
        cases named
        rw [same]
      next => cases named
  refine List.Pairwise.filterMap _ ?_ disk.distinct
  intro one other differs name named _ again
  rintro rfl
  exact differs ((whole _ one named).trans (whole _ other again).symm)

/-! ### Folders and links -/

/-- A folder stands at a location exactly when it is the entry there. -/
theorem isFolderAt_iff {disk : Disk} {location : Location} :
    disk.isFolderAt location = true ↔ disk.entry? location = some .folder := by
  rw [isFolderAt]
  split
  next stands => simp [stands]
  next notFolder =>
    constructor
    · intro absurd
      cases absurd
    · exact fun stands => absurd stands notFolder

/-- A disk on which the folders and links of another one are still there. -/
structure Keeps (before after : Disk) : Prop where
  folders : ∀ location, before.entry? location = some .folder →
    after.entry? location = some .folder
  links : ∀ location target, before.entry? location = some (.link target) →
    after.entry? location = some (.link target)
  working : after.working = before.working

/-- A disk keeps what stands on it. -/
theorem Keeps.refl (disk : Disk) : disk.Keeps disk :=
  ⟨fun _ stands => stands, fun _ _ stands => stands, rfl⟩

/-- What is kept twice is kept. -/
theorem Keeps.trans {first second third : Disk} (one : first.Keeps second)
    (other : second.Keeps third) : first.Keeps third where
  folders location stands := other.folders location (one.folders location stands)
  links location target stands := other.links location target (one.links location target stands)
  working := other.working.trans one.working

/-- What may be replaced or erased without touching folders and links: a file, or nothing. -/
def IsFileOrFree (disk : Disk) (location : Location) : Prop :=
  disk.entry? location = none ∨ ∃ content, disk.entry? location = some (.file content)

/-- Where no folder and no link stands, there is a file, or nothing. -/
theorem isFileOrFree {disk : Disk} {location : Location}
    (notFolder : disk.isFolderAt location = false)
    (noLink : ∀ target, disk.entry? location ≠ some (.link target)) :
    disk.IsFileOrFree location := by
  rw [IsFileOrFree]
  cases stands : disk.entry? location with
  | none => exact .inl rfl
  | some entry =>
    cases entry with
    | file content => exact .inr ⟨content, rfl⟩
    | folder => simp [isFolderAt, stands] at notFolder
    | link target => exact absurd stands (noLink target)

/-- A change where a file or nothing stands keeps folders and links. -/
theorem keeps_of_other {before after : Disk} {location : Location}
    (free : before.IsFileOrFree location)
    (others : ∀ found, found ≠ location → after.entry? found = before.entry? found)
    (working : after.working = before.working) : before.Keeps after where
  folders found stands := by
    rw [others found, stands]
    rintro rfl
    rcases free with none | ⟨content, file⟩ <;> simp_all
  links found target stands := by
    rw [others found, stands]
    rintro rfl
    rcases free with none | ⟨content, file⟩ <;> simp_all
  working := working

end ResourceAccessors.Disk
