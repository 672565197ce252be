import ResourceAccessors.Disk.Change
import ResourceAccessors.Proofs.Disk.Folder
import ResourceAccessors.Proofs.Disk.Names

/-!
# What changes of the disk do

Making folders adds folders where nothing stood and does nothing else, and leaves a path that leads to a
folder. Replacing and removing a file touch nothing but the file.
-/

namespace ResourceAccessors.Disk

/-! ### Running changes -/

section Run

variable {ε α β : Type} {disk after : Disk}

/-- A change of two parts makes the second one when the first one succeeds. -/
theorem run_bind (first : Change ε α) (next : α → Change ε β) (disk : Disk) :
    (first >>= next).run disk = match first.run disk with
      | (.ok value, changed) => (next value).run changed
      | (.error cause, changed) => (.error cause, changed) := by
  rw [ExceptT.run_bind]
  simp only [bind, StateT.bind]
  split
  next outcome changed ran =>
    rw [ran]
    cases outcome <;> rfl

/-- A change of two parts goes on with what the first one gives. -/
theorem run_bind_of_run {first : Change ε α} {next : α → Change ε β} {value : α}
    (ran : first.run disk = (.ok value, after)) :
    (first >>= next).run disk = (next value).run after := by
  rw [run_bind, ran]

/-- A change of two parts succeeds when both do. -/
theorem exists_of_run_bind {first : Change ε α} {next : α → Change ε β} {result : β}
    (ran : (first >>= next).run disk = (.ok result, after)) :
    ∃ value changed, first.run disk = (.ok value, changed) ∧
      (next value).run changed = (.ok result, after) := by
  rw [run_bind] at ran
  split at ran
  next value changed succeeds => exact ⟨value, changed, succeeds, ran⟩
  next => cases ran

/-- What is computed without changing the disk leaves it. -/
theorem eq_of_run_lift {computed : Except ε α} {value : α}
    (ran : (liftM computed : Change ε α).run disk = (.ok value, after)) :
    computed = .ok value ∧ after = disk := by
  cases computed with
  | error cause => cases ran
  | ok found =>
    cases ran
    exact ⟨rfl, rfl⟩

end Run

/-! ### Making folders -/

/-- A disk that has all that was there, and folders where nothing was. -/
structure Grows (before after : Disk) : Prop where
  stays : ∀ location entry, before.entry? location = some entry →
    after.entry? location = some entry
  added : ∀ location entry, after.entry? location = some entry →
    before.entry? location = some entry ∨ entry = .folder
  working : after.working = before.working
  legal : before.Legal → after.Legal
  /-- What is new is listed behind all that was there. -/
  entries : before.entries <+: after.entries

namespace Grows

/-- A disk grows from itself. -/
theorem refl (disk : Disk) : disk.Grows disk :=
  ⟨fun _ _ stands => stands, fun _ _ stands => .inl stands, rfl, fun legal => legal,
    List.prefix_refl _⟩

/-- A disk that has grown twice has grown. -/
theorem trans {first second third : Disk} (one : first.Grows second) (other : second.Grows third) :
    first.Grows third where
  stays location entry stands := other.stays _ _ (one.stays _ _ stands)
  added location entry stands := by
    rcases other.added _ _ stands with before | folder
    · exact one.added _ _ before
    · exact .inr folder
  working := other.working.trans one.working
  legal legal := other.legal (one.legal legal)
  entries := one.entries.trans other.entries

variable {before after : Disk}

/-- A disk that grows keeps what stood on it. -/
theorem keeps (grows : before.Grows after) : before.Keeps after :=
  ⟨fun _ stands => grows.stays _ _ stands, fun _ _ stands => grows.stays _ _ stands, grows.working⟩

/-- No file is added or changed. -/
theorem fileAt?_eq (grows : before.Grows after) (location : Location) :
    after.fileAt? location = before.fileAt? location := by
  apply Option.ext
  intro content
  rw [fileAt?_eq_some_iff, fileAt?_eq_some_iff]
  constructor
  · intro stands
    exact (grows.added _ _ stands).resolve_right (by simp)
  · exact grows.stays _ _

/-- A folder lists what it listed before in the same order, and what is new behind. -/
theorem namesIn_eq (grows : before.Grows after) (location : Location) :
    ((after.namesIn location).filter fun name => (before.entry? (name :: location)).isSome) =
      before.namesIn location := by
  obtain ⟨added, entries⟩ := grows.entries
  have distinct := after.distinct
  rw [← entries, List.map_append, List.nodup_append] at distinct
  rw [namesIn, ← entries, List.filterMap_append, List.filter_append, ← namesIn]
  have old : ((before.namesIn location).filter fun name =>
      (before.entry? (name :: location)).isSome) = before.namesIn location :=
    List.filter_eq_self.2 fun name mem => mem_namesIn_iff.1 mem
  rw [old, List.append_right_eq_self, List.filter_eq_nil_iff]
  rintro name mem stands
  obtain ⟨entry, found⟩ := Option.isSome_iff_exists.1 stands
  obtain ⟨⟨place, other⟩, otherMem, named⟩ := List.mem_filterMap.1 mem
  have here : place = name :: location := by
    cases place with
    | nil => cases named
    | cons first parent =>
      dsimp only at named
      split at named
      next same =>
        cases named
        rw [same]
      next => cases named
  exact distinct.2.2 _ (List.mem_map_of_mem (mem_entries_of_stands (by simp) found)) _
    (List.mem_map_of_mem otherMem) here.symm

/-- No link is added. -/
theorem link_of_link (grows : before.Grows after) {location : Location} {target : FilePath}
    (stands : after.entry? location = some (.link target)) :
    before.entry? location = some (.link target) :=
  (grows.added _ _ stands).resolve_right (by simp)

/-- A path leads where it led before. -/
theorem resolve (grows : before.Grows after) {path : FilePath} {location : Location}
    (resolved : before.resolve path = .ok location) : after.resolve path = .ok location := by
  rw [Disk.resolve, resolveFrom] at resolved ⊢
  split
  next empty =>
    rw [if_pos empty] at resolved
    cases resolved
  next written =>
    rw [if_neg written] at resolved
    rw [grows.working]
    exact grows.keeps.follow resolved (root_not_mem_tail_steps path) fun content stands =>
      ⟨content, grows.stays _ _ stands⟩

end Grows

section Folders

variable {disk after : Disk} {path : FilePath}

/-- A new folder grows the disk where nothing stood. -/
theorem grows_put_folder {location : Location} (free : disk.entry? location = none)
    (names : disk.Legal → location.Legal) : disk.Grows (disk.put location .folder) where
  stays found entry stands := by
    rw [entry?_put_other disk _ _, stands]
    rintro rfl
    rw [free] at stands
    cases stands
  added found entry stands := by
    by_cases same : found = location
    · subst same
      cases found with
      | nil => cases free
      | cons name folder =>
        rw [entry?_put_self disk (by simp)] at stands
        exact .inr (Option.some.inj stands).symm
    · rw [entry?_put_other disk same] at stands
      exact .inl stands
  working := rfl
  legal legal := legal.put (names legal) .folder
  entries := by
    have below : location ≠ [] := by
      rintro rfl
      cases free
    rw [entries_put_of_free below free]
    exact List.prefix_append _ _

/-- A new folder in the folder that the path before its last name is followed to: the path leads to
it. -/
theorem leadsTo_put_folder {before : List FilePath.Component} {name : String} {parent : Location}
    (components : path.components = before ++ [.name name])
    (followed : disk.follow maxLinks disk.working before = .ok parent)
    (folder : disk.isFolderAt parent = true) (short : FilePath.byteSize name ≤ maxNameSize)
    (keeps : disk.Keeps (disk.put (name :: parent) .folder)) :
    (disk.put (name :: parent) .folder).LeadsTo path (name :: parent) := by
  have noRoot : FilePath.Component.root ∉ before.tail := by
    intro mem
    apply (FilePath.wellFormed_components path).root_not_mem_tail
    rw [components]
    cases before with
    | nil => cases mem
    | cons first rest => exact List.mem_append_left _ mem
  have stands := entry?_put_self disk (List.cons_ne_nil name parent) .folder
  obtain ⟨left, way⟩ := exists_leads_of_follow followed (notFile_of_isFolderAt folder) noRoot
  refine ⟨?_, ⟨left, ?_⟩, stands⟩
  · intro empty
    have bare : path = ⟨""⟩ := by rw [← empty]
    have none : path.components = [] := by
      rw [bare]
      rfl
    rw [none] at components
    simp at components
  · rw [components]
    apply (way.mono keeps).append
    exact .enter (isFolderAt_iff.2 (keeps.folders _ (isFolderAt_iff.1 folder))) short stands .arrived

/-- Where a path has its place and nothing stands, a new folder makes the path lead to it. -/
theorem leadsTo_of_place {location : Location} (placed : disk.place path = .ok location)
    (free : disk.entry? location = none) :
    (disk.put location .folder).LeadsTo path location := by
  have below : location ≠ [] := by
    rintro rfl
    cases free
  have keeps := (grows_put_folder free fun legal => legal.place placed).keeps
  rw [place, placeFrom] at placed
  split at placed
  next name before last =>
    have components : path.components = before.reverse ++ [.name name] := by
      rw [← List.reverse_reverse path.components, last, List.reverse_cons]
    obtain ⟨parent, followed, placed⟩ := Generation.Step.exists_of_bind_eq_ok placed
    split at placed
    next => cases placed
    next inside =>
      split at placed
      next => cases placed
      next short =>
        cases placed
        exact leadsTo_put_folder components followed (by simpa using inside) (Nat.not_lt.1 short)
          keeps
  next =>
    rw [resolveFrom] at placed
    split at placed
    next => cases placed
    next written =>
      obtain ⟨left, way⟩ := exists_leads_of_follow placed (by simp [free])
        (root_not_mem_tail_steps path)
      apply leadsTo_of_resolve _ (isFolderAt_iff.2 (entry?_put_self disk below .folder))
      rw [resolve, resolveFrom, if_neg written]
      exact (way.mono keeps).follow_eq

/-- A path leads to the folder that is made for it. -/
theorem leadsTo_of_withFolder (made : disk.withFolder path = .ok after) :
    disk.Grows after ∧ ∃ folder, after.LeadsTo path folder := by
  obtain ⟨location, placed, made⟩ := Generation.Step.exists_of_bind_eq_ok made
  split at made
  next => cases made
  next free =>
    cases made
    exact ⟨grows_put_folder free fun legal => legal.place placed,
      location, leadsTo_of_place placed free⟩

/-- A path that leads to a folder leads to one at some location. -/
theorem leadsTo_of_isFolder (found : disk.isFolder path = true) :
    ∃ folder, disk.LeadsTo path folder := by
  rw [isFolder, find?] at found
  cases resolved : disk.resolve path with
  | error cause =>
    rw [resolved] at found
    cases found
  | ok location =>
    refine ⟨location, leadsTo_of_resolve resolved (isFolderAt_iff.2 ?_)⟩
    rw [resolved] at found
    cases stands : disk.entry? location with
    | none => simp [stands] at found
    | some entry => cases entry <;> simp_all

/-- A check for a folder that succeeds has found one. -/
theorem leadsTo_of_failUnlessFolder {cause : DiskError}
    (ran : (failUnlessFolder path cause).run disk = (.ok (), after)) :
    after = disk ∧ ∃ folder, disk.LeadsTo path folder := by
  obtain ⟨found, changed, got, ran⟩ := exists_of_run_bind ran
  cases got
  split at ran
  next isFolder =>
    cases ran
    exact ⟨rfl, leadsTo_of_isFolder isFolder⟩
  next => cases ran

/-- Making a folder succeeds only when the path leads to a folder then. -/
theorem leadsTo_of_makeFolder (ran : (makeFolder path).run disk = (.ok (), after)) :
    disk.Grows after ∧ ∃ folder, after.LeadsTo path folder := by
  obtain ⟨found, changed, got, ran⟩ := exists_of_run_bind ran
  cases got
  split at ran
  next made withFolder =>
    cases ran
    exact leadsTo_of_withFolder withFolder
  next cause withFolder =>
    obtain ⟨rfl, leads⟩ := leadsTo_of_failUnlessFolder ran
    exact ⟨.refl _, leads⟩

/-- Making folders succeeds only when the path leads to a folder then. -/
theorem leadsTo_of_makeFoldersTo {components : List FilePath.Component}
    (ran : (makeFoldersTo components).run disk = (.ok (), after)) :
    disk.Grows after ∧ (components ≠ [] →
      ∃ folder, after.LeadsTo (FilePath.ofComponents components.reverse) folder) := by
  induction components generalizing after with
  | nil =>
    cases ran
    exact ⟨.refl disk, fun nonempty => absurd rfl nonempty⟩
  | cons last before ih =>
    obtain ⟨found, changed, got, ran⟩ := exists_of_run_bind ran
    cases got
    split at ran
    next made withFolder =>
      cases ran
      obtain ⟨grows, leads⟩ := leadsTo_of_withFolder withFolder
      exact ⟨grows, fun _ => leads⟩
    next withFolder =>
      obtain ⟨⟨⟩, middle, ranBefore, ran⟩ := exists_of_run_bind ran
      obtain ⟨grows, leads⟩ := leadsTo_of_makeFolder ran
      exact ⟨(ih ranBefore).1.trans grows, fun _ => leads⟩
    next cause notMissing withFolder =>
      obtain ⟨rfl, leads⟩ := leadsTo_of_failUnlessFolder ran
      exact ⟨.refl _, fun _ => leads⟩

/-- Making folders succeeds only when the path leads to a folder then. Nothing else is changed. -/
theorem leadsTo_of_makeFolders (ran : (makeFolders path).run disk = (.ok (), after)) :
    disk.Grows after ∧ (path.text ≠ "" → ∃ folder, after.LeadsTo path folder) := by
  obtain ⟨grows, leads⟩ := leadsTo_of_makeFoldersTo ran
  refine ⟨grows, fun written => ?_⟩
  have some : path.components.reverse ≠ [] := by
    intro none
    exact written (FilePath.text_of_components_eq_nil (List.reverse_eq_nil_iff.1 none))
  obtain ⟨folder, spelled⟩ := leads some
  obtain ⟨left, way⟩ := spelled.way
  rw [List.reverse_reverse,
    FilePath.components_ofComponents (FilePath.wellFormed_components path)] at way
  exact ⟨folder, written, ⟨left, way⟩, spelled.stands⟩

/-- Something stands at the place of a path that leads to a folder: the folder, or a link to it. -/
theorem LeadsTo.exists_place {folder : Location} (leads : disk.LeadsTo path folder) :
    ∃ location entry, disk.place path = .ok location ∧ disk.entry? location = some entry := by
  obtain ⟨left, way⟩ := leads.way
  rw [place, placeFrom]
  split
  next name before last =>
    have components : path.components = before.reverse ++ [.name name] := by
      rw [← List.reverse_reverse path.components, last, List.reverse_cons]
    rw [components] at way
    obtain ⟨kept, parent, front, back⟩ := way.split
    have placed : ∀ {entry}, disk.isFolderAt parent = true → FilePath.byteSize name ≤ maxNameSize →
        disk.entry? (name :: parent) = some entry → ∃ location entry,
          (do
            let folder ← disk.follow maxLinks disk.working before.reverse
            if !disk.isFolderAt folder then .error .notDirectory
            else if maxNameSize < FilePath.byteSize name then .error .nameTooLong
            else return name :: folder) = .ok location ∧ disk.entry? location = some entry := by
      intro entry inside short stands
      refine ⟨name :: parent, entry, ?_, stands⟩
      simp only [front.follow_eq, bind, Except.bind, inside, Nat.not_lt.2 short]
      rfl
    cases back with
    | enter inside short stands => exact placed inside short stands
    | link inside short stands => exact placed inside short stands
  next => exact ⟨folder, _, leads.resolve, leads.stands⟩

/-- A path leads to a folder in its shortest spelling too. -/
theorem LeadsTo.spelled {folder : Location} (leads : disk.LeadsTo path folder) :
    disk.LeadsTo (FilePath.ofComponents path.components) folder := by
  have components := FilePath.components_ofComponents (FilePath.wellFormed_components path)
  refine ⟨fun empty => ?_, components.symm ▸ leads.way, leads.stands⟩
  have bare : FilePath.ofComponents path.components = ⟨""⟩ := by rw [← empty]
  rw [bare] at components
  exact leads.written (FilePath.text_of_components_eq_nil components.symm)

/-- Making a folder that is there changes nothing. -/
theorem LeadsTo.makeFolders_run {folder : Location} (leads : disk.LeadsTo path folder) :
    (makeFolders path).run disk = (.ok (), disk) := by
  have spelled := leads.spelled
  obtain ⟨location, entry, placed, stands⟩ := spelled.exists_place
  have exists' : disk.withFolder (FilePath.ofComponents path.components) = .error .exists := by
    simp only [withFolder, placed, bind, Except.bind, stands]
  have isFolder : disk.isFolder (FilePath.ofComponents path.components) = true := by
    rw [Disk.isFolder, spelled.opens.find? spelled.written]
  rw [makeFolders]
  cases all : path.components.reverse with
  | nil =>
    exact absurd (FilePath.text_of_components_eq_nil (List.reverse_eq_nil_iff.1 all)) leads.written
  | cons last before =>
    have got : (get : Change DiskError Disk).run disk = (.ok disk, disk) := rfl
    rw [makeFoldersTo, ← all, List.reverse_reverse]
    refine (run_bind_of_run got).trans ?_
    simp only [exists']
    rw [failUnlessFolder]
    refine (run_bind_of_run got).trans ?_
    simp only [isFolder, if_true]
    rfl

end Folders

/-! ### Replacing and removing files -/

section Files

variable {disk after : Disk} {path : FilePath} {folder : Location} {name : String}

/-- A step that does not depend on the disk succeeds with its value. -/
theorem run_bind_lift {ε α β : Type} {computed : Except ε α} {next : α → Change ε β} {value : β}
    (ran : (liftM computed >>= next : Change ε β).run disk = (.ok value, after)) :
    ∃ found, computed = .ok found ∧ (next found).run disk = (.ok value, after) := by
  obtain ⟨found, changed, lifted, onward⟩ := exists_of_run_bind ran
  obtain ⟨computed, rfl⟩ := eq_of_run_lift lifted
  exact ⟨found, computed, onward⟩

/-- Where an entry is placed, its name is not too long. -/
theorem LeadsTo.short_of_place (leads : disk.LeadsTo path folder)
    (legal : FilePath.IsEntryName name) {location : Location}
    (placed : disk.place (path.child name) = .ok location) :
    FilePath.byteSize name ≤ maxNameSize ∧ name :: folder = location := by
  rw [leads.opens.place_child legal] at placed
  split at placed
  next => cases placed
  next short => exact ⟨Nat.not_lt.1 short, Except.ok.inj placed⟩

/-- Replacing a file of a folder puts the new content where no folder stands. -/
theorem LeadsTo.eq_of_replaceFile (leads : disk.LeadsTo path folder)
    (legal : FilePath.IsEntryName name) {content : ByteArray}
    (ran : (replaceFile (path.child name) content).run disk = (.ok (), after)) :
    FilePath.byteSize name ≤ maxNameSize ∧ disk.isFolderAt (name :: folder) = false ∧
      after = disk.put (name :: folder) (.file content) := by
  obtain ⟨found, changed, got, ran⟩ := exists_of_run_bind ran
  cases got
  obtain ⟨location, placed, ran⟩ := run_bind_lift ran
  obtain ⟨short, rfl⟩ := leads.short_of_place legal placed
  dsimp only at ran
  split at ran
  next => cases ran
  next =>
    split at ran
    next => cases ran
    next notFolder =>
      cases ran
      exact ⟨short, by simpa using notFolder, rfl⟩

/-- Replacing a file of a folder succeeds when its name leaves room for a temporary one and no folder
stands in its place. -/
theorem LeadsTo.replaceFile_run (leads : disk.LeadsTo path folder)
    (legal : FilePath.IsEntryName name) {content : ByteArray}
    (short : FilePath.byteSize name + temporaryExcess ≤ maxNameSize)
    (free : disk.isFolderAt (name :: folder) = false) :
    (replaceFile (path.child name) content).run disk =
      (.ok (), disk.put (name :: folder) (.file content)) := by
  have placed : disk.place (path.child name) = .ok (name :: folder) := by
    rw [leads.opens.place_child legal, if_neg (by omega)]
  have room : ¬ maxNameSize < nameSize (name :: folder) + temporaryExcess := Nat.not_lt.2 short
  rw [replaceFile, run_bind]
  change (liftM (disk.place (path.child name)) >>= _ : Change DiskError Unit).run disk = _
  rw [placed]
  change (if maxNameSize < nameSize (name :: folder) + temporaryExcess then _
    else if disk.isFolderAt (name :: folder) = true then _ else _ : Change DiskError Unit).run disk = _
  rw [if_neg room, if_neg (by simp [free])]
  rfl

/-- A file that cannot be replaced stays as it is, and so does everything else. -/
theorem eq_of_replaceFile_error {content : ByteArray} {cause : DiskError}
    (ran : (replaceFile path content).run disk = (.error cause, after)) : after = disk := by
  have got : (get : Change DiskError Disk).run disk = (.ok disk, disk) := rfl
  rw [replaceFile, run_bind_of_run got, run_bind] at ran
  cases placed : disk.place path with
  | error found =>
    rw [placed] at ran
    cases ran
    rfl
  | ok location =>
    rw [placed] at ran
    change (if maxNameSize < nameSize location + temporaryExcess then _
      else if disk.isFolderAt location = true then _ else _ : Change DiskError Unit).run disk = _ at ran
    split at ran
    next =>
      cases ran
      rfl
    next =>
      split at ran
      next =>
        cases ran
        rfl
      next => cases ran

/-- Removing a file of a folder erases its entry. -/
theorem LeadsTo.eq_of_removeFile (leads : disk.LeadsTo path folder)
    (legal : FilePath.IsEntryName name)
    (ran : (removeFile (path.child name)).run disk = (.ok (), after)) :
    after = disk.erase (name :: folder) := by
  obtain ⟨found, changed, got, ran⟩ := exists_of_run_bind ran
  cases got
  obtain ⟨location, placed, ran⟩ := run_bind_lift ran
  obtain ⟨-, rfl⟩ := leads.short_of_place legal placed
  split at ran
  next => cases ran
  next => cases ran
  next =>
    cases ran
    rfl

end Files

end ResourceAccessors.Disk
