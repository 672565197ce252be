import ResourceAccessors.Proofs.Disk.Front

/-!
# What changes of the disk leave alone

A change that fails has done a part of its work. What holds of the disk after each step of a change
holds after the change, whether it succeeds or fails: making folders adds folders on the way of their
path only, and replacing and removing files touches nothing but entries with their names in the folder
of their paths.
-/

namespace ResourceAccessors.Disk

open FilePath (Component IsEntryName)

/-! ### Properties that a change preserves -/

/-- A change that keeps a property of the disk, whether it succeeds or fails. -/
def Preserves {ε α : Type} (holds : Disk → Prop) (change : Change ε α) : Prop :=
  ∀ disk, holds disk → holds (change.run disk).2

section Preserves

variable {ε α β : Type} {holds : Disk → Prop}

/-- Returning changes nothing. -/
theorem preserves_pure (value : α) : Preserves holds (pure value : Change ε α) :=
  fun _ held => held

/-- Failing changes nothing. -/
theorem preserves_throw (cause : ε) : Preserves holds (throw cause : Change ε α) :=
  fun _ held => held

/-- A disk that is set has what holds of it. -/
theorem preserves_set {disk : Disk} (held : holds disk) : Preserves holds (set disk : Change ε PUnit) :=
  fun _ _ => held

/-- A change of two parts keeps what the first part keeps, and the second one after it when the first
one has succeeded. -/
theorem Preserves.bind_of_run {first : Change ε α} {next : α → Change ε β}
    (preserves : Preserves holds first) (onward : ∀ disk value changed, holds disk →
      first.run disk = (.ok value, changed) → holds changed →
      holds ((next value).run changed).2) : Preserves holds (first >>= next) := by
  intro disk held
  have kept := preserves disk held
  rw [run_bind]
  split
  next value changed ran =>
    rw [ran] at kept
    exact onward disk value changed held ran kept
  next cause changed ran =>
    rw [ran] at kept
    exact kept

/-- A change of two parts keeps what both keep. -/
theorem Preserves.bind {first : Change ε α} {next : α → Change ε β}
    (preserves : Preserves holds first) (onward : ∀ value, Preserves holds (next value)) :
    Preserves holds (first >>= next) :=
  preserves.bind_of_run fun _ value changed _ _ held => onward value changed held

/-- A change that looks at the disk first keeps what it keeps of the disk that it sees. -/
theorem preserves_get_bind {next : Disk → Change ε α}
    (onward : ∀ disk, holds disk → holds ((next disk).run disk).2) :
    Preserves holds (get >>= next) := by
  intro disk held
  have got : (get : Change ε Disk).run disk = (.ok disk, disk) := rfl
  rw [run_bind_of_run got]
  exact onward disk held

/-- A change that starts with what is computed keeps what the rest keeps. -/
theorem preserves_lift_bind {computed : Except ε α} {next : α → Change ε β}
    (onward : ∀ value, computed = .ok value → Preserves holds (next value)) :
    Preserves holds (liftM computed >>= next) := by
  cases computed with
  | error cause => exact fun _ held => held
  | ok value =>
    intro disk held
    have lifted : (liftM (Except.ok value : Except ε α) : Change ε α).run disk = (.ok value, disk) := rfl
    rw [run_bind_of_run lifted]
    exact onward value rfl disk held

end Preserves

/-! ### Making folders -/

/-- A disk with folders that were made on the way of a path: where nothing stood, a front part of the
path leads now. -/
structure MadeOn (path : FilePath) (before after : Disk) : Prop where
  grows : before.Grows after
  onWay : ∀ location, before.entry? location = none → after.entry? location ≠ none →
    ∃ front, front <+: path.components ∧ after.LeadsTo (.ofComponents front) location

section Making

variable {before disk made : Disk} {path shorter : FilePath} {components : List FilePath.Component}

/-- Where nothing was made, no folder had to lie on the way. -/
theorem MadeOn.refl (path : FilePath) (disk : Disk) : disk.MadeOn path disk :=
  ⟨.refl disk, fun _ absent stands => absurd absent stands⟩

/-- One more folder on the way of a path. -/
theorem MadeOn.withFolder (madeOn : before.MadeOn path disk) (front : components <+: path.components)
    (withFolder : disk.withFolder (.ofComponents components) = .ok made) :
    before.MadeOn path made := by
  obtain ⟨location, placed, withFolder⟩ := Generation.Step.exists_of_bind_eq_ok withFolder
  split at withFolder
  next => cases withFolder
  next free =>
    cases withFolder
    have grows := grows_put_folder free fun legal => legal.place placed
    refine ⟨madeOn.grows.trans grows, fun found absent stands => ?_⟩
    by_cases same : found = location
    · rw [same]
      exact ⟨components, front, leadsTo_of_place placed free⟩
    · rw [entry?_put_other disk same] at stands
      obtain ⟨taken, front, leads⟩ := madeOn.onWay found absent stands
      exact ⟨taken, front, leads.mono grows.keeps⟩

/-- A check changes nothing. -/
theorem preserves_failUnlessFolder {holds : Disk → Prop} (cause : DiskError) :
    Preserves holds (failUnlessFolder path cause) := by
  apply preserves_get_bind
  intro disk held
  split <;> exact held

/-- Making a folder on the way of a path, or failing to, makes folders on this way only. -/
theorem preserves_makeFolder (front : components <+: path.components) :
    Preserves (before.MadeOn path) (makeFolder (.ofComponents components)) := by
  apply preserves_get_bind
  intro disk madeOn
  split
  next made withFolder => exact madeOn.withFolder front withFolder
  next cause _ => exact preserves_failUnlessFolder cause disk madeOn

/-- Making folders, or failing to, makes folders on the way of the path only. -/
theorem preserves_makeFoldersTo (front : components.reverse <+: path.components) :
    Preserves (before.MadeOn path) (makeFoldersTo components) := by
  induction components with
  | nil => exact preserves_pure _
  | cons last rest ih =>
    apply preserves_get_bind
    intro disk madeOn
    have shorter : rest.reverse <+: path.components := by
      rw [List.reverse_cons] at front
      exact (List.prefix_append _ _).trans front
    split
    next made withFolder => exact madeOn.withFolder front withFolder
    next => exact (ih shorter).bind (fun _ => preserves_makeFolder front) disk madeOn
    next cause _ _ => exact preserves_failUnlessFolder cause disk madeOn

/-- Making the folders of a path, or failing to, changes nothing but that some folders on its way are
new. -/
theorem madeOn_makeFolders (path : FilePath) (disk : Disk) :
    disk.MadeOn path ((makeFolders path).run disk).2 := by
  apply preserves_makeFoldersTo _ disk (.refl path disk)
  simp

/-- Where the path leads to a folder, no folders are made. -/
theorem MadeOn.entry?_eq {folder : Location} (madeOn : before.MadeOn path made)
    (leads : before.LeadsTo path folder) (plain : path.plain = path) (location : Location) :
    made.entry? location = before.entry? location := by
  cases stood : before.entry? location with
  | some entry => exact madeOn.grows.stays location entry stood
  | none =>
    by_contra new
    obtain ⟨front, onWay, leadsMade⟩ := madeOn.onWay location stood new
    have some : front ≠ [] := by
      rintro rfl
      exact leadsMade.written rfl
    obtain ⟨above, leadsAbove⟩ := leads.exists_of_prefix plain onWay some
    obtain rfl := (leadsAbove.mono madeOn.grows.keeps).opens.eq leadsMade.opens
    rw [leadsAbove.stands] at stood
    cases stood

end Making

/-! ### Replacing and removing files -/

/-- A disk after changes that touched nothing but files and links with some names in the folder of a
path. What is new is a file. -/
structure TouchesOnly (path : FilePath) (own : String → Prop) (before after : Disk) : Prop where
  /-- Folders and links are those that were there. -/
  keeps : after.Keeps before
  /-- No folder is gone. -/
  folders : ∀ location, before.entry? location = some .folder →
    after.entry? location = some .folder
  others : ∀ location, after.entry? location ≠ before.entry? location →
    ∃ name folder, location = name :: folder ∧ own name ∧ before.Opens path folder

section Touching

variable {before disk after : Disk} {path : FilePath} {own : String → Prop} {folder : Location}
  {name : String}

/-- Where nothing was changed, nothing was touched. -/
theorem TouchesOnly.refl (path : FilePath) (own : String → Prop) (disk : Disk) :
    disk.TouchesOnly path own disk :=
  ⟨.refl disk, fun _ stands => stands, fun _ differs => absurd rfl differs⟩

/-- A path opens a folder as long as folders and links stay. -/
theorem Opens.mono (opens : disk.Opens path folder) (keeps : disk.Keeps after) :
    after.Opens path folder := by
  obtain ⟨left, way⟩ := opens.way
  refine ⟨⟨left, ?_⟩, keeps.folders _ opens.stands⟩
  rw [keeps.working]
  exact way.mono keeps

/-- One more change at a location in the folder, where no folder stands and none is made. -/
theorem TouchesOnly.change (touches : before.TouchesOnly path own disk) (named : own name)
    (opens : disk.Opens path folder) (notFolder : disk.entry? (name :: folder) ≠ some .folder)
    (elsewhere : ∀ location, location ≠ name :: folder →
      after.entry? location = disk.entry? location)
    (noFolder : after.entry? (name :: folder) ≠ some .folder)
    (noLink : ∀ target, after.entry? (name :: folder) ≠ some (.link target))
    (working : after.working = disk.working) : before.TouchesOnly path own after := by
  have keeps : after.Keeps disk := by
    constructor
    case folders =>
      intro location stands
      rw [← elsewhere location (by rintro rfl; exact noFolder stands)]
      exact stands
    case links =>
      intro location target stands
      rw [← elsewhere location (by rintro rfl; exact noLink target stands)]
      exact stands
    case working => exact working.symm
  constructor
  case keeps => exact keeps.trans touches.keeps
  case folders =>
    intro location stands
    have here := touches.folders location stands
    rw [elsewhere location (by rintro rfl; exact notFolder here)]
    exact here
  case others =>
    intro location differs
    by_cases same : location = name :: folder
    · exact ⟨name, folder, same, named, opens.mono touches.keeps⟩
    · rw [elsewhere location same] at differs
      exact touches.others location differs

/-- The place of an entry with a name is in the folder that the path before the name opens. -/
theorem exists_opens_of_place_child {location : Location} (legal : IsEntryName name)
    (placed : disk.place (path.child name) = .ok location) :
    ∃ folder, location = name :: folder ∧ disk.Opens path folder := by
  rw [place, placeFrom, FilePath.components_child path legal, List.reverse_append] at placed
  obtain ⟨folder, followed, placed⟩ := Generation.Step.exists_of_bind_eq_ok
    (show (do
      let folder ← disk.follow maxLinks disk.working path.components.reverse.reverse
      if !disk.isFolderAt folder then .error .notDirectory
      else if maxNameSize < FilePath.byteSize name then .error .nameTooLong
      else return name :: folder) = .ok location from placed)
  rw [List.reverse_reverse] at followed
  split at placed
  next => cases placed
  next inside =>
    split at placed
    next => cases placed
    next =>
      cases placed
      have stands : disk.isFolderAt folder = true := by simpa using inside
      obtain ⟨left, way⟩ := exists_leads_of_follow followed (notFile_of_isFolderAt stands)
        (FilePath.wellFormed_components path).root_not_mem_tail
      exact ⟨folder, rfl, ⟨left, way⟩, isFolderAt_iff.1 stands⟩

/-- Replacing a file with one of the names, or failing to, touches nothing else. -/
theorem preserves_replaceFile (legal : IsEntryName name) (named : own name) (content : ByteArray) :
    Preserves (before.TouchesOnly path own) (replaceFile (path.child name) content) := by
  apply preserves_get_bind
  intro disk touches
  refine preserves_lift_bind (fun location placed => ?_) disk touches
  obtain ⟨folder, rfl, opens⟩ := exists_opens_of_place_child legal placed
  dsimp only
  split
  next => exact preserves_throw _
  next =>
    split
    next => exact preserves_throw _
    next notFolder =>
      have here := entry?_put_self disk (List.cons_ne_nil name folder) (.file content)
      apply preserves_set
      apply touches.change named opens (fun stands => notFolder (isFolderAt_iff.2 stands))
        (fun location differs => entry?_put_other disk differs _) _ _ rfl
      · rw [here]
        exact fun absurd => nomatch absurd
      · rw [here]
        exact fun _ absurd => nomatch absurd

/-- Removing a file with one of the names, or failing to, touches nothing else. -/
theorem preserves_removeFile (legal : IsEntryName name) (named : own name) :
    Preserves (before.TouchesOnly path own) (removeFile (path.child name)) := by
  apply preserves_get_bind
  intro disk touches
  refine preserves_lift_bind (fun location placed => ?_) disk touches
  obtain ⟨folder, rfl, opens⟩ := exists_opens_of_place_child legal placed
  split
  next => exact preserves_throw _
  next => exact preserves_throw _
  next entry notFolder stands =>
    have gone := entry?_erase_self disk (List.cons_ne_nil name folder)
    apply preserves_set
    apply touches.change named opens (fun folder => notFolder (Option.some.inj (stands.symm.trans folder)))
      (fun location differs => entry?_erase_other disk differs) _ _ rfl
    · rw [gone]
      exact fun absurd => nomatch absurd
    · rw [gone]
      exact fun _ absurd => nomatch absurd

end Touching

/-! ### Removing links to files -/

section Sparing

variable {disk after : Disk} {path : FilePath} {folder : Location}

/-- A disk on which the folders of another one are still there, and all of its links but those that led
to files. -/
structure Spares (before after : Disk) : Prop where
  folders : ∀ location, before.entry? location = some .folder →
    after.entry? location = some .folder
  links : ∀ name here target, before.entry? (name :: here) = some (.link target) →
    after.entry? (name :: here) = some (.link target) ∨
      ∃ links location content, before.follow links here target.steps = .ok location ∧
        before.entry? location = some (.file content)
  working : after.working = before.working

/-- A disk spares what stands on it. -/
theorem Spares.refl (disk : Disk) : disk.Spares disk :=
  ⟨fun _ stands => stands, fun _ _ _ stands => .inl stands, rfl⟩

/-- A way stays open when the links that are gone led to files. -/
theorem Leads.spared {links left : Nat} {here there : Location} {steps : List Component}
    (leads : disk.Leads links here steps left there) (spares : disk.Spares after)
    (notFile : ∀ content, disk.entry? there ≠ some (.file content))
    (noRoot : Component.root ∉ steps.tail) : after.Leads links here steps left there := by
  have stays : ∀ {location}, disk.isFolderAt location = true → after.isFolderAt location = true :=
    fun folder => isFolderAt_iff.2 (spares.folders _ (isFolderAt_iff.1 folder))
  induction leads with
  | arrived => exact .arrived
  | root onward ih => exact .root (ih notFile (root_not_mem_tail_tail noRoot))
  | current folder onward ih =>
    exact .current (stays folder) (ih notFile (root_not_mem_tail_tail noRoot))
  | parent folder onward ih =>
    exact .parent (stays folder) (ih notFile (root_not_mem_tail_tail noRoot))
  | enter folder short inside onward ih =>
    exact .enter (stays folder) short (spares.folders _ inside)
      (ih notFile (root_not_mem_tail_tail noRoot))
  | @link links here name target rest left there folder short inside written onward ih =>
    rcases spares.links _ _ _ inside with kept | ⟨count, location, content, followed, file⟩
    · exact .link (stays folder) short kept written
        (ih notFile (root_not_mem_tail_append target noRoot))
    -- the way would go on from the file to which the link led
    · obtain ⟨kept, middle, front, back⟩ := onward.split
      obtain rfl := eq_of_follow front.follow_eq followed
      have same := eq_of_follow_of_file file noRoot back.follow_eq
      exact absurd (same ▸ file) (notFile content)

/-- A path leads to a folder as long as folders stay, and links that do not lead to files. -/
theorem LeadsTo.spared (leads : disk.LeadsTo path folder) (spares : disk.Spares after) :
    after.LeadsTo path folder := by
  obtain ⟨left, way⟩ := leads.way
  refine ⟨leads.written, ⟨left, ?_⟩, spares.folders _ leads.stands⟩
  rw [spares.working]
  exact way.spared spares (notFile_of_isFolderAt leads.isFolderAt)
    (FilePath.wellFormed_components path).root_not_mem_tail

/-- Removing a file that a path led to, or a link to it, keeps the way to every folder. -/
theorem preserves_spares_removeFile {name : String} (leads : disk.LeadsTo path folder)
    (legal : IsEntryName name) (isFile : disk.isFile (path.child name) = true) :
    Preserves disk.Spares (removeFile (path.child name)) := by
  apply preserves_get_bind
  intro changed spares
  refine preserves_lift_bind (fun location placed => ?_) changed spares
  obtain ⟨found, rfl, opens⟩ := exists_opens_of_place_child legal placed
  obtain rfl := opens.eq (leads.spared spares).opens
  split
  next => exact preserves_throw _
  next => exact preserves_throw _
  next entry notFolder stands =>
    apply preserves_set
    constructor
    case folders =>
      intro location folder
      have here := spares.folders location folder
      rw [entry?_erase_other]
      · exact here
      · rintro rfl
        exact notFolder (Option.some.inj (stands.symm.trans here))
    case links =>
      intro other here target link
      by_cases same : other :: here = name :: found
      · obtain ⟨rfl, rfl⟩ := List.cons.inj same
        obtain ⟨content, read⟩ := isFile_iff.1 isFile
        obtain ⟨location, led⟩ := readFile_eq_ok_iff.1 read
        have file := (find?_eq_some_iff.1 led).2
        obtain ⟨parent, opened, -, ⟨aim, count, links, followed⟩ | rfl⟩ :=
          exists_opens_of_find?_child legal led
        · obtain rfl := opened.eq leads.opens
          obtain rfl := Entry.link.inj (Option.some.inj (link.symm.trans links))
          exact .inr ⟨count, location, content, followed, file⟩
        · obtain rfl := opened.eq leads.opens
          cases link.symm.trans file
      · rw [entry?_erase_other _ same]
        exact spares.links other here target link
    case working => exact spares.working

end Sparing

end ResourceAccessors.Disk
