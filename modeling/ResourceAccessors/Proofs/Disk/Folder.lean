import ResourceAccessors.Proofs.Disk.Leads
import ResourceAccessors.Proofs.FilePath.Child

/-!
# Folders and what stands in them

Where a path leads to a folder, the path of an entry of the folder leads to that entry, unless its name
is too long for the disk.
-/

namespace ResourceAccessors

open FilePath (IsEntryName)

/-- The last piece of the path of an entry is its name. -/
theorem FilePath.getLast?_pieces_child (base : FilePath) {name : String}
    (legal : IsEntryName name) :
    (pieces (base.child name).text.toList).getLast? = some name.toList := by
  have behind : ∀ before : List Char,
      (pieces (before ++ '/' :: name.toList)).getLast? = some name.toList := by
    intro before
    rw [pieces_append_slash, legal.pieces_eq, List.getLast?_concat]
  rw [child, join, if_neg (by simp [legal.not_isAbsolute])]
  split
  next closed =>
    rw [String.toList_append]
    rcases closed with empty | slash
    · have bare : base.text.toList = [] := by simpa using empty
      rw [bare, List.nil_append, legal.pieces_eq]
      rfl
    · obtain ⟨before, ends⟩ := List.getLast?_eq_some_iff.1 slash
      rw [ends, List.append_assoc]
      exact behind before
  next =>
    have text : (base.text ++ "/" ++ name).toList = base.text.toList ++ '/' :: name.toList := by
      simp
    rw [text]
    exact behind _

/-- The path of an entry does not ask for a folder. -/
theorem FilePath.steps_child (base : FilePath) {name : String} (legal : IsEntryName name) :
    (base.child name).steps = base.components ++ [.name name] := by
  have nonempty : name.toList ≠ [] := fun empty => legal.1 (String.toList_inj.1 empty)
  have noDot : name.toList ≠ ['.'] := fun dot => legal.2.1 (String.toList_inj.1 dot)
  have open' : (base.child name).asksForFolder = false := by
    rw [asksForFolder, base.getLast?_pieces_child legal]
    simp [nonempty, noDot]
  rw [steps, open', components_child base legal]
  simp

/-- The path of an entry is not empty. -/
theorem FilePath.text_child_ne (base : FilePath) {name : String} (legal : IsEntryName name) :
    (base.child name).text ≠ "" := by
  intro empty
  have last := base.getLast?_pieces_child legal
  rw [empty] at last
  exact legal.1 (String.toList_inj.1 (Option.some.inj last).symm)

namespace Disk

/-- The content of the file at a location. -/
def fileAt? (disk : Disk) (location : Location) : Option ByteArray :=
  match disk.entry? location with
  | some (.file content) => some content
  | _ => none

/-- The file at a location is the entry there, when it is a file. -/
theorem fileAt?_eq_some_iff {disk : Disk} {location : Location} {content : ByteArray} :
    disk.fileAt? location = some content ↔ disk.entry? location = some (.file content) := by
  rw [fileAt?]
  split
  next found stands => simp [stands]
  next notFile =>
    constructor
    · intro absurd
      cases absurd
    · exact fun stands => absurd stands (notFile content)

/-- Which file is at a location depends on the entry there. -/
theorem fileAt?_congr {disk other : Disk} {location : Location}
    (same : disk.entry? location = other.entry? location) :
    disk.fileAt? location = other.fileAt? location := by
  rw [fileAt?, fileAt?, same]

/-- A file is read when a path leads to it. -/
theorem readFile_eq_ok_iff {disk : Disk} {path : FilePath} {content : ByteArray} :
    disk.readFile path = .ok content ↔
      ∃ location, disk.find? path = some (location, .file content) := by
  rw [find?, readFile]
  cases disk.resolve path with
  | error cause => simp [bind, Except.bind]
  | ok location =>
    simp only [bind, Except.bind]
    cases disk.entry? location with
    | none => simp
    | some entry => cases entry <;> simp [pure, Except.pure]

/-- The text of a file is read when the file is and holds a text. -/
theorem readText_eq_ok_iff {disk : Disk} {path : FilePath} {text : String} :
    disk.readText path = .ok text ↔
      ∃ content, disk.readFile path = .ok content ∧ String.fromUTF8? content = some text := by
  rw [readText]
  cases disk.readFile path with
  | error cause => simp [bind, Except.bind]
  | ok content =>
    simp only [bind, Except.bind]
    cases held : String.fromUTF8? content <;> simp [held, pure, Except.pure]

/-- A path leads to a file when the file can be read. -/
theorem isFile_iff {disk : Disk} {path : FilePath} :
    disk.isFile path = true ↔ ∃ content, disk.readFile path = .ok content := by
  simp only [readFile_eq_ok_iff]
  rw [isFile]
  split
  next location content found => exact ⟨fun _ => ⟨content, location, found⟩, fun _ => rfl⟩
  next notFile =>
    constructor
    · intro absurd
      cases absurd
    · rintro ⟨content, location, found⟩
      exact absurd found (notFile location content)

/-- The components of a path lead to a folder. The empty path opens the folder at which relative paths
start. -/
structure Opens (disk : Disk) (path : FilePath) (folder : Location) : Prop where
  way : ∃ left, disk.Leads maxLinks disk.working path.components left folder
  stands : disk.entry? folder = some .folder

section Opens

variable {disk : Disk} {path : FilePath} {folder location : Location} {name : String} {entry : Entry}

/-- A path opens one folder only. -/
theorem Opens.eq (opens : disk.Opens path folder) (other : disk.Opens path location) :
    folder = location := by
  obtain ⟨left, way⟩ := opens.way
  obtain ⟨kept, again⟩ := other.way
  exact Except.ok.inj (way.follow_eq.symm.trans again.follow_eq)

/-- A folder that opens is one. -/
theorem Opens.isFolderAt (opens : disk.Opens path folder) : disk.isFolderAt folder = true :=
  isFolderAt_iff.2 opens.stands

/-- An entry of a folder has its place there. -/
theorem Opens.place_child (opens : disk.Opens path folder) (legal : IsEntryName name) :
    disk.place (path.child name) =
      if maxNameSize < FilePath.byteSize name then .error .nameTooLong else .ok (name :: folder) := by
  obtain ⟨left, way⟩ := opens.way
  rw [place, placeFrom, FilePath.components_child path legal, List.reverse_append]
  show (do
    let folder ← disk.follow maxLinks disk.working path.components.reverse.reverse
    if !disk.isFolderAt folder then .error .notDirectory
    else if maxNameSize < FilePath.byteSize name then .error .nameTooLong
    else return name :: folder) = _
  rw [List.reverse_reverse, way.follow_eq]
  simp only [bind, Except.bind, opens.isFolderAt]
  rfl

/-- What is found at the end of a path is what the path is resolved to. -/
theorem find?_eq_some_iff : disk.find? path = some (location, entry) ↔
    disk.resolve path = .ok location ∧ disk.entry? location = some entry := by
  rw [find?]
  cases disk.resolve path with
  | error cause => simp
  | ok found =>
    constructor
    · intro mapped
      obtain ⟨other, stands, same⟩ := Option.map_eq_some_iff.1 mapped
      cases same
      exact ⟨rfl, stands⟩
    · rintro ⟨same, stands⟩
      cases same
      simp [stands]

/-- The path of an entry that is no link leads to the entry. -/
theorem Opens.find?_child (opens : disk.Opens path folder) (legal : IsEntryName name)
    (short : FilePath.byteSize name ≤ maxNameSize) (stands : disk.entry? (name :: folder) = some entry)
    (noLink : ∀ target, entry ≠ .link target) :
    disk.find? (path.child name) = some (name :: folder, entry) := by
  obtain ⟨left, way⟩ := opens.way
  refine find?_eq_some_iff.2 ⟨?_, stands⟩
  rw [resolve, resolveFrom, if_neg (by simpa using path.text_child_ne legal),
    path.steps_child legal, way.follow_append, follow, if_neg (by simp [opens.isFolderAt]),
    if_neg (Nat.not_lt.2 short), stands]
  cases entry with
  | link target => exact absurd rfl (noLink target)
  | file content => rw [follow]
  | folder => rw [follow]

/-- A path with a name at its end goes through a folder, and leads to the entry with this name there,
or where that leads when it is a link. -/
theorem exists_opens_of_find?_child (legal : IsEntryName name)
    (found : disk.find? (path.child name) = some (location, entry)) :
    ∃ folder, disk.Opens path folder ∧ FilePath.byteSize name ≤ maxNameSize ∧
      ((∃ target links, disk.entry? (name :: folder) = some (.link target) ∧
          disk.follow links folder target.steps = .ok location) ∨
        location = name :: folder) := by
  obtain ⟨resolved, stands⟩ := find?_eq_some_iff.1 found
  rw [resolve, resolveFrom, if_neg (by simpa using path.text_child_ne legal),
    path.steps_child legal] at resolved
  have noRoot := root_not_mem_tail_steps (path.child name)
  rw [path.steps_child legal] at noRoot
  obtain ⟨left, folder, way, last⟩ := exists_leads_of_follow_append resolved (by simp) noRoot
  rw [follow] at last
  split at last
  next => cases last
  next inside =>
    refine ⟨folder, ⟨⟨left, way⟩, isFolderAt_iff.1 (by simpa using inside)⟩, ?_⟩
    split at last
    next => cases last
    next short =>
      refine ⟨Nat.not_lt.1 short, ?_⟩
      split at last
      next => cases last
      next target link =>
        split at last
        next => cases last
        next =>
          split at last
          next => cases last
          next =>
            rw [List.append_nil] at last
            exact .inl ⟨target, left - 1, link, last⟩
      next =>
        rw [follow] at last
        exact .inr (Except.ok.inj last).symm
      next =>
        rw [follow] at last
        exact .inr (Except.ok.inj last).symm

end Opens

/-- A path leads to a folder. -/
structure LeadsTo (disk : Disk) (path : FilePath) (folder : Location) : Prop where
  written : path.text ≠ ""
  way : ∃ left, disk.Leads maxLinks disk.working path.components left folder
  stands : disk.entry? folder = some .folder

section Folder

variable {disk : Disk} {path : FilePath} {folder : Location} {name : String}

/-- What a path is resolved to is a folder that it leads to. -/
theorem leadsTo_of_resolve (resolved : disk.resolve path = .ok folder)
    (stands : disk.isFolderAt folder = true) : disk.LeadsTo path folder := by
  rw [resolve, resolveFrom] at resolved
  split at resolved
  next => cases resolved
  next written =>
    obtain ⟨left, whole⟩ :=
      exists_leads_of_follow resolved (notFile_of_isFolderAt stands) (root_not_mem_tail_steps path)
    rw [FilePath.steps] at whole
    obtain ⟨kept, middle, way, rest⟩ := whole.split
    have same : middle = folder := by
      split at rest
      · cases rest with
        | current inside onward =>
          cases onward
          rfl
      · cases rest
        rfl
    subst same
    exact ⟨by simpa using written, ⟨kept, way⟩, isFolderAt_iff.1 stands⟩

/-- A folder that a path leads to is one. -/
theorem LeadsTo.isFolderAt (leads : disk.LeadsTo path folder) :
    disk.isFolderAt folder = true :=
  isFolderAt_iff.2 leads.stands

/-- A path that leads to a folder opens it. -/
theorem LeadsTo.opens (leads : disk.LeadsTo path folder) : disk.Opens path folder :=
  ⟨leads.way, leads.stands⟩

/-- A path is resolved to the folder that it leads to. -/
theorem LeadsTo.resolve (leads : disk.LeadsTo path folder) : disk.resolve path = .ok folder := by
  obtain ⟨left, way⟩ := leads.way
  rw [Disk.resolve, resolveFrom, if_neg (by simpa using leads.written), FilePath.steps,
    way.follow_append]
  split
  · rw [follow, if_pos leads.isFolderAt, follow]
  · rw [follow]

instance (disk : Disk) (path : FilePath) (folder : Location) : Decidable (disk.LeadsTo path folder) :=
  decidable_of_iff (disk.resolve path = .ok folder ∧ disk.isFolderAt folder = true)
    ⟨fun ⟨resolved, stands⟩ => leadsTo_of_resolve resolved stands,
      fun leads => ⟨leads.resolve, leads.isFolderAt⟩⟩

/-- A path that leads to a folder opens it. -/
theorem opens_of_find? (found : disk.find? path = some (folder, .folder)) :
    disk.Opens path folder := by
  obtain ⟨resolved, stands⟩ := find?_eq_some_iff.1 found
  exact (leadsTo_of_resolve resolved (isFolderAt_iff.2 stands)).opens

/-- A path with a text leads to the folder that it opens. -/
theorem Opens.find? (opens : disk.Opens path folder) (written : path.text ≠ "") :
    disk.find? path = some (folder, .folder) :=
  find?_eq_some_iff.2 ⟨(LeadsTo.mk written opens.way opens.stands).resolve, opens.stands⟩

/-- A path leads to a folder as long as folders and links stay. -/
theorem LeadsTo.mono {after : Disk} (leads : disk.LeadsTo path folder)
    (keeps : disk.Keeps after) : after.LeadsTo path folder := by
  obtain ⟨left, way⟩ := leads.way
  refine ⟨leads.written, ⟨left, ?_⟩, keeps.folders _ leads.stands⟩
  rw [keeps.working]
  exact way.mono keeps

/-- The path of an entry that is no link is resolved to the entry. -/
theorem LeadsTo.resolve_child_iff (leads : disk.LeadsTo path folder) (legal : IsEntryName name)
    (noLink : ∀ target, disk.entry? (name :: folder) ≠ some (.link target)) (location : Location) :
    disk.resolve (path.child name) = .ok location ↔ FilePath.byteSize name ≤ maxNameSize ∧
      (∃ entry, disk.entry? (name :: folder) = some entry) ∧ name :: folder = location := by
  obtain ⟨left, way⟩ := leads.way
  rw [Disk.resolve, resolveFrom, if_neg (by simpa using path.text_child_ne legal),
    path.steps_child legal, way.follow_append, follow, if_neg (by simp [leads.isFolderAt])]
  split
  next long =>
    constructor
    · intro absurd
      cases absurd
    · exact fun resolved => absurd resolved.1 (Nat.not_le.2 long)
  next short =>
    have fits := Nat.not_lt.1 short
    cases stands : disk.entry? (name :: folder) with
    | none => simp
    | some entry =>
      cases entry with
      | link target => exact absurd stands (noLink target)
      | file content => simp [follow, fits]
      | folder => simp [follow, fits]

/-- The path of an entry that is no link reads as the file that stands there. -/
theorem LeadsTo.readFile_child_iff (leads : disk.LeadsTo path folder) (legal : IsEntryName name)
    (noLink : ∀ target, disk.entry? (name :: folder) ≠ some (.link target))
    {content : ByteArray} : disk.readFile (path.child name) = .ok content ↔
      FilePath.byteSize name ≤ maxNameSize ∧ disk.fileAt? (name :: folder) = some content := by
  have resolves := leads.resolve_child_iff legal noLink
  rw [fileAt?_eq_some_iff, readFile]
  cases resolved : disk.resolve (path.child name) with
  | error cause =>
    constructor
    · intro absurd
      cases absurd
    · rintro ⟨short, stands⟩
      have found := (resolves _).2 ⟨short, ⟨_, stands⟩, rfl⟩
      rw [resolved] at found
      cases found
  | ok location =>
    obtain ⟨short, ⟨entry, stands⟩, rfl⟩ := (resolves _).1 resolved
    simp only [bind, Except.bind, stands]
    cases entry with
    | link target => exact absurd stands (noLink target)
    | file found => simp [short, pure, Except.pure]
    | folder => simp

/-- The path of an entry that is no link leads to a file when one stands there. -/
theorem LeadsTo.isFile_child_iff (leads : disk.LeadsTo path folder) (legal : IsEntryName name)
    (noLink : ∀ target, disk.entry? (name :: folder) ≠ some (.link target)) :
    disk.isFile (path.child name) = true ↔
      FilePath.byteSize name ≤ maxNameSize ∧ ∃ content, disk.fileAt? (name :: folder) = some content := by
  rw [isFile_iff]
  constructor
  · rintro ⟨content, read⟩
    obtain ⟨short, stands⟩ := (leads.readFile_child_iff legal noLink).1 read
    exact ⟨short, content, stands⟩
  · rintro ⟨short, content, stands⟩
    exact ⟨content, (leads.readFile_child_iff legal noLink).2 ⟨short, stands⟩⟩

/-- The entries of a folder that a path leads to. -/
theorem LeadsTo.childrenOf (leads : disk.LeadsTo path folder) :
    disk.childrenOf path = .ok ((disk.namesIn folder).map path.child) := by
  simp only [Disk.childrenOf, leads.resolve, bind, Except.bind]
  rw [if_pos leads.isFolderAt]
  rfl

end Folder

end Disk

end ResourceAccessors
