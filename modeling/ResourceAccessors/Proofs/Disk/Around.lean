import ResourceAccessors.Proofs.Disk.Change

/-!
# Ways around a folder

A build makes folders where nothing stood and changes what stands in one folder. Ways that lead
somewhere else before lead there after it, and a way that is new leads through a folder that was made.
-/

namespace ResourceAccessors

open FilePath (IsEntryName Component)

/-- What stands below a folder, on a path that starts with the path of the folder. -/
inductive FilePath.Inside (root : FilePath) : FilePath → Prop
  | here : Inside root root
  | child {path name} (inside : Inside root path) (legal : IsEntryName name) :
      Inside root (path.child name)

namespace Disk

/-- Everything stands in a folder. -/
def IsTree (disk : Disk) : Prop :=
  ∀ found ∈ disk.entries, ∃ name parent, found.1 = name :: parent ∧
    disk.entry? parent = some .folder

instance (disk : Disk) : Decidable disk.IsTree :=
  decidable_of_iff (∀ found ∈ disk.entries, found.1 ≠ [] ∧ disk.isFolderAt found.1.tail = true) <| by
    refine forall₂_congr fun found _ => ⟨?_, ?_⟩
    · rintro ⟨below, folder⟩
      obtain ⟨name, parent, location⟩ := List.exists_cons_of_ne_nil below
      rw [location] at folder
      exact ⟨name, parent, location, isFolderAt_iff.1 folder⟩
    · rintro ⟨name, parent, location, folder⟩
      rw [location]
      exact ⟨List.cons_ne_nil name parent, isFolderAt_iff.2 folder⟩

/-- A disk with folders where nothing stood, and with changes in one folder. -/
structure GrowsAround (folder : Location) (before after : Disk) : Prop where
  keeps : before.Keeps after
  stays : ∀ location entry, location.tail ≠ folder → before.entry? location = some entry →
    after.entry? location = some entry
  added : ∀ location entry, location.tail ≠ folder → after.entry? location = some entry →
    before.entry? location = some entry ∨ entry = .folder
  namesIn_eq : ∀ location, location ≠ folder →
    ((after.namesIn location).filter fun name => (before.entry? (name :: location)).isSome) =
      before.namesIn location

/-- A disk that has grown and was changed in one folder then. -/
theorem Grows.around {before middle after : Disk} {folder : Location}
    (grows : before.Grows middle) (differs : DiffersIn folder middle after)
    (keeps : before.Keeps after) : GrowsAround folder before after where
  keeps := keeps
  stays location entry apart stands := by
    rw [differs.entry?_eq apart]
    exact grows.stays location entry stands
  added location entry apart stands := by
    rw [differs.entry?_eq apart] at stands
    exact grows.added location entry stands
  namesIn_eq location apart := by
    rw [differs.namesIn_eq apart]
    exact grows.namesIn_eq location

/-! ### Paths at and below a folder -/

/-- No path at or below a folder leads to another folder or into it. -/
def StaysOutside (disk : Disk) (root : FilePath) (folder : Location) : Prop :=
  ∀ path, root.Inside path → ∀ location entry, disk.find? path = some (location, entry) →
    ¬ folder <:+ location

/-- A link stands at the end of a path. -/
def IsLinkAt (disk : Disk) (path : FilePath) : Prop :=
  ∃ location target, disk.place path = .ok location ∧
    disk.entry? location = some (.link target)

/-- A folder, and a link at or below it, leads where it led before, if it leads anywhere. -/
def OpensNoWay (before after : Disk) (root : FilePath) : Prop :=
  ∀ path, root.Inside path → path = root ∨ after.IsLinkAt path →
    ∀ found, after.find? path = some found → before.find? path = some found

/-- What two disks have in common at and below a folder: the later one has new folders there and is
the same otherwise. -/
structure Alike (before after : Disk) (root : FilePath) : Prop where
  find?_root : after.find? root = before.find? root
  find?_child : ∀ {path name}, root.Inside path → IsEntryName name →
    after.find? (path.child name) = before.find? (path.child name) ∨
      before.find? (path.child name) = none ∧
        ∃ location, after.Opens path location ∧ before.entry? (name :: location) = none ∧
          after.find? (path.child name) = some (name :: location, .folder)
  namesIn_eq : ∀ {path location}, root.Inside path → after.find? path = some (location, .folder) →
    ((after.namesIn location).filter fun name => (before.entry? (name :: location)).isSome) =
      before.namesIn location

/-- No link at or below a location leads away from there. -/
def HoldsWithin (disk : Disk) (top : Location) : Prop :=
  ∀ name folder target, top <:+ folder → disk.entry? (name :: folder) = some (.link target) →
    ∀ links location, disk.follow links folder target.steps = .ok location → top <:+ location

/-- Whether an entry is no link, or one that leads to what stands at or below a location through folders
only. -/
def pointsWithin (disk : Disk) (top : Location) : Location × Entry → Bool
  | (location, .link target) =>
    match disk.follow 0 location.tail target.steps with
    | .ok there => top.isSuffixOf there
    | .error cause => cause != .tooManyLinks
  | _ => true

/-- Where all links lead to what stands at or below a location, none leads away from there. -/
theorem holdsWithin_of_entries {disk : Disk} {top : Location}
    (checked : disk.entries.all (disk.pointsWithin top) = true) : disk.HoldsWithin top := by
  intro name folder target _ stands links location followed
  have points := List.all_eq_true.1 checked _ (mem_entries_of_stands (List.cons_ne_nil name folder) stands)
  have plain : disk.follow 0 folder target.steps ≠ .error .tooManyLinks := by
    intro exhausted
    simp [pointsWithin, exhausted] at points
  rw [follow_eq_of_no_links plain] at followed
  simpa [pointsWithin, followed] using points

section Within

variable {disk : Disk} {folder top location : Location} {root path : FilePath} {entry : Entry}

/-- Paths at or below a folder lead to what stands at or below it when no link leads away. -/
theorem HoldsWithin.suffix_of_find? (within : disk.HoldsWithin top)
    (start : disk.exists? root = false ∨ disk.LeadsTo root top) (written : root.text ≠ "")
    (inside : root.Inside path) (found : disk.find? path = some (location, entry)) :
    top <:+ location := by
  induction inside generalizing location entry with
  | here =>
    rcases start with none | leads
    · rw [exists?, found] at none
      cases none
    · rw [leads.opens.find? written] at found
      cases found
      exact List.suffix_refl _
  | @child path name inside legal ih =>
    obtain ⟨above, opens, -, ending⟩ := exists_opens_of_find?_child legal found
    have writtenAbove : path.text ≠ "" := by
      cases inside with
      | here => exact written
      | child _ named => exact FilePath.text_child_ne _ named
    have below := ih (opens.find? writtenAbove)
    rcases ending with ⟨target, links, link, followed⟩ | rfl
    · exact within name above target below link links location followed
    · exact below.trans (List.suffix_cons name above)

/-- Paths at or below a folder stay outside of another one when no link leads away and neither of the
two holds the other. -/
theorem HoldsWithin.staysOutside (within : disk.HoldsWithin top)
    (start : disk.exists? root = false ∨ disk.LeadsTo root top) (written : root.text ≠ "")
    (apart : ¬ folder <:+ top ∧ ¬ top <:+ folder) : disk.StaysOutside root folder := by
  intro path inside location entry found inFolder
  have below := within.suffix_of_find? start written inside found
  exact (List.suffix_or_suffix_of_suffix inFolder below).elim apart.1 apart.2

end Within

section Around

variable {before after : Disk} {folder location : Location} {root path : FilePath} {name : String}
  {entry : Entry}

/-- What stands neither in a folder nor at it has another parent. -/
theorem tail_ne_of_not_suffix (outside : ¬ folder <:+ location) : location.tail ≠ folder := by
  rintro rfl
  exact outside (List.tail_suffix location)

/-- A path that leads past the folder leads there afterwards. -/
theorem GrowsAround.find?_of_find? (around : GrowsAround folder before after)
    (found : before.find? path = some (location, entry)) (outside : ¬ folder <:+ location) :
    after.find? path = some (location, entry) := by
  obtain ⟨resolved, stands⟩ := find?_eq_some_iff.1 found
  have apart := tail_ne_of_not_suffix outside
  refine find?_eq_some_iff.2 ⟨?_, around.stays location entry apart stands⟩
  rw [resolve, resolveFrom] at resolved ⊢
  split at resolved
  next => cases resolved
  next written =>
    rw [if_neg written, around.keeps.working]
    exact around.keeps.follow resolved (root_not_mem_tail_steps path) fun content file =>
      ⟨content, around.stays location _ apart file⟩

/-- A path at or below the root that opens a folder opened it before, if the folder was there. -/
theorem GrowsAround.opens_of_opens (around : GrowsAround folder before after) (tree : before.IsTree)
    (opened : OpensNoWay before after root) (inside : root.Inside path)
    (opens : after.Opens path location) (stood : before.entry? location = some .folder) :
    before.Opens path location := by
  induction inside generalizing location with
  | here =>
    by_cases written : root.text = ""
    · have bare : root = ⟨""⟩ := by rw [← written]
      subst bare
      obtain ⟨left, way⟩ := opens.way
      rw [around.keeps.working] at way
      cases way
      exact ⟨⟨_, .arrived⟩, stood⟩
    · exact opens_of_find? (opened root .here (.inl rfl) _ (opens.find? written))
  | @child path name inside legal ih =>
    have found := opens.find? (path.text_child_ne legal)
    obtain ⟨above, opensAbove, short, link | same⟩ := exists_opens_of_find?_child legal found
    · obtain ⟨target, -, link, -⟩ := link
      have placed := opensAbove.place_child legal
      rw [if_neg (Nat.not_lt.2 short)] at placed
      have linked : after.IsLinkAt (path.child name) := ⟨_, target, placed, link⟩
      exact opens_of_find? (opened _ (.child inside legal) (.inr linked) _ found)
    · subst same
      obtain ⟨first, parent, same, holds⟩ := tree _ (mem_entries_of_stands (by simp) stood)
      cases same
      exact opens_of_find? ((ih opensAbove holds).find?_child legal short stood (by simp))

/-- A path below the root that leads somewhere led there before, or leads to a folder that was
made. -/
theorem GrowsAround.find?_child_cases (around : GrowsAround folder before after)
    (tree : before.IsTree) (outside : after.StaysOutside root folder)
    (opened : OpensNoWay before after root) (inside : root.Inside path) (legal : IsEntryName name)
    (found : after.find? (path.child name) = some (location, entry)) :
    before.find? (path.child name) = some (location, entry) ∨
      ∃ parent, after.Opens path parent ∧ before.entry? (name :: parent) = none ∧
        location = name :: parent ∧ entry = .folder := by
  have below := FilePath.Inside.child inside legal
  obtain ⟨-, stands⟩ := find?_eq_some_iff.1 found
  obtain ⟨parent, opens, short, ending⟩ := exists_opens_of_find?_child legal found
  by_cases link : ∃ target, after.entry? (name :: parent) = some (.link target)
  · obtain ⟨target, link⟩ := link
    have placed := opens.place_child legal
    rw [if_neg (Nat.not_lt.2 short)] at placed
    exact .inl (opened _ below (.inr ⟨_, target, placed, link⟩) _ found)
  · obtain rfl := ending.resolve_left fun ⟨target, _, stands, _⟩ => link ⟨target, stands⟩
    have apart := tail_ne_of_not_suffix (outside _ below _ _ found)
    cases earlier : before.entry? (name :: parent) with
    | none =>
      have made := (around.added _ entry apart stands).resolve_left (by simp [earlier])
      exact .inr ⟨parent, opens, earlier, rfl, made⟩
    | some other =>
      obtain rfl : entry = other :=
        Option.some.inj (stands.symm.trans (around.stays _ other apart earlier))
      obtain ⟨first, above, same, holds⟩ := tree _ (mem_entries_of_stands (by simp) earlier)
      cases same
      have opensBefore := around.opens_of_opens tree opened inside opens holds
      refine .inl (opensBefore.find?_child legal short earlier ?_)
      rintro target rfl
      exact link ⟨target, stands⟩

/-- Below the root the disk has new folders, and is the same otherwise. -/
theorem GrowsAround.alike (around : GrowsAround folder before after) (tree : before.IsTree)
    (outside : before.StaysOutside root folder) (outsideAfter : after.StaysOutside root folder)
    (opened : OpensNoWay before after root) : Alike before after root := by
  have onward : ∀ {path place}, root.Inside path → before.find? path = some place →
      after.find? path = some place :=
    fun inside earlier => around.find?_of_find? earlier (outside _ inside _ _ earlier)
  constructor
  case find?_root =>
    cases earlier : before.find? root with
    | some place => exact onward .here earlier
    | none =>
      cases found : after.find? root with
      | none => rfl
      | some place => rw [← earlier, opened root .here (.inl rfl) place found]
  case find?_child =>
    intro path name inside legal
    have below := FilePath.Inside.child inside legal
    cases earlier : before.find? (path.child name) with
    | some place => exact .inl (onward below earlier)
    | none =>
      cases found : after.find? (path.child name) with
      | none => exact .inl rfl
      | some place =>
        obtain ⟨location, entry⟩ := place
        rcases around.find?_child_cases tree outsideAfter opened inside legal found with
          same | ⟨parent, opens, free, rfl, rfl⟩
        · rw [earlier] at same
          cases same
        · exact .inr ⟨rfl, parent, opens, free, rfl⟩
  case namesIn_eq =>
    intro path location inside found
    refine around.namesIn_eq location ?_
    rintro rfl
    exact outsideAfter path inside _ _ found (List.suffix_refl _)

/-! ### What is read of disks that are alike -/

namespace Alike

variable (alike : Alike before after root) (inside : root.Inside path) (legal : IsEntryName name)

include alike inside legal

/-- What can be read below the root is the same on both disks. -/
theorem readFile_iff {content : ByteArray} :
    after.readFile (path.child name) = .ok content ↔
      before.readFile (path.child name) = .ok content := by
  rw [readFile_eq_ok_iff, readFile_eq_ok_iff]
  rcases alike.find?_child inside legal with same | ⟨none, location, -, -, made⟩
  · rw [same]
  · simp [none, made]

/-- The same entries of the folder are files. -/
theorem isFile_eq : after.isFile (path.child name) = before.isFile (path.child name) := by
  rw [Bool.eq_iff_iff, isFile_iff, isFile_iff]
  simp only [alike.readFile_iff inside legal]

end Alike

end Around

end Disk

end ResourceAccessors
