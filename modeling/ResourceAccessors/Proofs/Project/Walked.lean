import ResourceAccessors.Proofs.Disk.Front
import ResourceAccessors.Proofs.Project.Reached

/-!
# The files that are walked

A file is reached exactly when it lies below the folder of the crate, is not passed over by the rules, and
every folder on the way to it is one that a walk goes into.
-/

namespace ResourceAccessors.Project

open FilePath (IsEntryName Component)

/-- The path at some names below the folder of the crate. -/
def Filter.below (filter : Filter) (names : List String) : FilePath :=
  filter.root.below (names.map Component.name)

/-- A folder that a walk goes into: its name, as far as it is text, says neither that it is hidden nor that it
holds build output, the rules do not pass over it, and it holds no crate of its own. -/
structure Filter.LetsThrough (filter : Filter) (disk : Disk) (folder : FilePath) : Prop where
  shown : folder.textName?.any isPrivateName = false
  kept : filter.ignores folder true = false
  noCrate : holdsCrate disk folder = false

/-- A file at some names below the folder of the crate that a walk comes to. -/
structure IsWalkedAt (disk : Disk) (filter : Filter) (names : List String) : Prop where
  below : names ≠ []
  legal : ∀ name ∈ names, IsEntryName name
  file : disk.isFile (filter.below names) = true
  kept : filter.ignores (filter.below names) false = false
  through : ∀ front rest, names = front ++ rest → front ≠ [] → rest ≠ [] →
    filter.LetsThrough disk (filter.below front)

/-- A file below the folder of the crate that a walk comes to. -/
def IsWalked (disk : Disk) (filter : Filter) (path : FilePath) : Prop :=
  disk.isFolder filter.root = true ∧ ∃ names, path = filter.below names ∧ IsWalkedAt disk filter names

section Walked

variable {disk : Disk} {filter : Filter} {kept : List Component} {start path : FilePath}
  {front rest names : List String}

/-- A folder is passed over unless a walk goes into it. -/
theorem skips_folder_iff (folder : disk.isFolder path = true) :
    filter.skips disk path = false ↔ filter.LetsThrough disk path := by
  rw [Filter.skips, if_pos folder, Bool.or_eq_false_iff, Bool.or_eq_false_iff]
  constructor
  · rintro ⟨⟨shown, kept⟩, noCrate⟩
    exact ⟨shown, kept, noCrate⟩
  · rintro ⟨shown, kept, noCrate⟩
    exact ⟨⟨shown, kept⟩, noCrate⟩

/-- What is no folder is passed over when the rules say so. -/
theorem skips_of_not_folder (noFolder : disk.isFolder path = false) :
    filter.skips disk path = filter.ignores path false := by
  rw [Filter.skips, if_neg (by rw [noFolder]; exact Bool.false_ne_true)]

/-- A file is no folder. -/
theorem isFolder_of_isFile (file : disk.isFile path = true) : disk.isFolder path = false := by
  rw [Disk.isFile] at file
  rw [Disk.isFolder]
  split at file
  next found => rw [found]
  next => cases file

section Below

variable (shape : FilePath.Kept kept) (top : filter.root = FilePath.ofComponents kept.reverse)

include shape top

/-- The folder of the crate has the kept components. -/
theorem components_root : filter.root.components = kept.reverse := by
  rw [top, FilePath.components_ofComponents shape.wellFormed_reverse]

/-- The components of a path below the folder of the crate. -/
theorem Filter.components_below (legal : ∀ name ∈ names, IsEntryName name) :
    (filter.below names).components = kept.reverse ++ names.map Component.name := by
  rw [Filter.below, FilePath.below, components_root shape top, shape.components_below legal]

/-- The entry of a path below the folder of the crate is at one more name. -/
theorem Filter.child_below (legal : ∀ name ∈ names, IsEntryName name) {name : String}
    (isName : IsEntryName name) : (filter.below names).child name = filter.below (names ++ [name]) := by
  have wellFormed := (shape.append_names legal).wellFormed_reverse
  rw [List.reverse_append, List.reverse_reverse] at wellFormed
  rw [Filter.below, Filter.below, FilePath.below, FilePath.below, components_root shape top,
    FilePath.child_ofComponents wellFormed isName]
  simp

/-- The entry of the folder of the crate is at one name. -/
theorem Filter.child_root {name : String} (isName : IsEntryName name) :
    filter.root.child name = filter.below [name] := by
  rw [Filter.below, FilePath.below, components_root shape top, top,
    FilePath.child_ofComponents shape.wellFormed_reverse isName]
  rfl

/-- What is reached from some names lies at more names, through folders that a walk goes into. -/
theorem Reaches.exists_names (reaches : Reaches disk filter start path) (legal : disk.Legal)
    (isName : ∀ name ∈ front, IsEntryName name) (here : start = filter.below front) :
    ∃ rest, (∀ name ∈ rest, IsEntryName name) ∧ path = filter.below (front ++ rest) ∧
      disk.isFile path = true ∧ filter.ignores path false = false ∧
      ∀ inner outer, rest = inner ++ outer → outer ≠ [] →
        filter.LetsThrough disk (filter.below (front ++ inner)) := by
  induction reaches generalizing front with
  | @file path location content notSkipped leads =>
    have file : disk.isFile path = true := by rw [Disk.isFile, leads]
    rw [skips_of_not_folder (isFolder_of_isFile file)] at notSkipped
    refine ⟨[], by simp, by rw [here, List.append_nil], file, notSkipped, ?_⟩
    intro inner outer split nonempty
    exact absurd (List.append_eq_nil_iff.1 split.symm).2 nonempty
  | @into path location name found notSkipped leads named onward ih =>
    have nameLegal := legal.namesIn named
    have folder : disk.isFolder path = true := by rw [Disk.isFolder, leads]
    have more : ∀ other ∈ front ++ [name], IsEntryName other := by
      intro other mem
      rcases List.mem_append.1 mem with old | new
      · exact isName other old
      · exact List.mem_singleton.1 new ▸ nameLegal
    have child : path.child name = filter.below (front ++ [name]) := by
      rw [here, Filter.child_below shape top isName nameLegal]
    obtain ⟨rest, restLegal, below, file, kept, through⟩ := ih more child
    rw [List.append_assoc, List.singleton_append] at below
    refine ⟨name :: rest, List.forall_mem_cons.2 ⟨nameLegal, restLegal⟩, below, file, kept, ?_⟩
    intro inner outer split nonempty
    rcases List.cons_eq_append_iff.1 split with ⟨rfl, -⟩ | ⟨others, rfl, rest⟩
    · rw [List.append_nil, ← here]
      exact (skips_folder_iff folder).1 notSkipped
    · have deeper := through others outer rest nonempty
      rwa [List.append_assoc, List.singleton_append] at deeper

/-- A file at more names is reached through folders that a walk goes into. -/
theorem reaches_below (isName : ∀ name ∈ front ++ rest, IsEntryName name) (nonempty : front ≠ [])
    (file : disk.isFile (filter.below (front ++ rest)) = true)
    (kept : filter.ignores (filter.below (front ++ rest)) false = false)
    (through : ∀ inner outer, rest = inner ++ outer → outer ≠ [] →
      filter.LetsThrough disk (filter.below (front ++ inner))) :
    Reaches disk filter (filter.below front) (filter.below (front ++ rest)) := by
  induction rest generalizing front with
  | nil =>
    rw [List.append_nil] at file kept ⊢
    rw [← skips_of_not_folder (isFolder_of_isFile file)] at kept
    obtain ⟨content, read⟩ := Disk.isFile_iff.1 file
    obtain ⟨location, leads⟩ := Disk.readFile_eq_ok_iff.1 read
    exact .file kept leads
  | cons name rest ih =>
    obtain ⟨frontLegal, restLegal⟩ := List.forall_mem_append.1 isName
    have nameLegal := restLegal name List.mem_cons_self
    have split : front ++ name :: rest = (front ++ [name]) ++ rest := by simp
    rw [split] at isName file kept ⊢
    have onward := ih isName (by simp) file kept fun inner outer whole some => by
      have deeper := through (name :: inner) outer (by rw [whole, List.cons_append]) some
      rwa [List.append_assoc, List.singleton_append]
    rw [← Filter.child_below shape top frontLegal nameLegal] at onward
    have here := through [] (name :: rest) rfl (List.cons_ne_nil _ _)
    rw [List.append_nil] at here
    have written : (filter.below front).text ≠ "" := by
      apply FilePath.text_ne_of_components_ne
      rw [Filter.components_below shape top frontLegal]
      simpa using fun _ => nonempty
    obtain ⟨location, opens, -⟩ := exists_listed_of_exists_child nameLegal onward.exists?
    have folder : disk.isFolder (filter.below front) = true := by
      rw [Disk.isFolder, opens.find? written]
    exact onward.enter nameLegal ((skips_folder_iff folder).2 here) folder

/-- The files that are reached are those that a walk comes to. -/
theorem reached_iff_isWalked (legal : disk.Legal) : Reached disk filter path ↔ IsWalked disk filter path := by
  constructor
  · rintro ⟨location, name, leads, named, reaches⟩
    have nameLegal := legal.namesIn named
    rw [Filter.child_root shape top nameLegal] at reaches
    obtain ⟨rest, restLegal, rfl, file, kept, through⟩ :=
      reaches.exists_names shape top legal (by simpa using nameLegal) rfl
    refine ⟨by rw [Disk.isFolder, leads], name :: rest, rfl, ?_⟩
    constructor
    case below => simp
    case legal => exact List.forall_mem_cons.2 ⟨nameLegal, restLegal⟩
    case file => exact file
    case kept => exact kept
    case through =>
      intro front outer split nonempty some
      rcases List.cons_eq_append_iff.1 split with ⟨rfl, -⟩ | ⟨others, rfl, rest⟩
      · exact absurd rfl nonempty
      · exact through others outer rest some
  · rintro ⟨folder, names, rfl, walked⟩
    obtain ⟨name, rest, rfl⟩ := List.exists_cons_of_ne_nil walked.below
    have nameLegal := walked.legal name List.mem_cons_self
    have onward : Reaches disk filter (filter.below [name]) (filter.below ([name] ++ rest)) :=
      reaches_below shape top walked.legal (by simp) walked.file walked.kept fun inner outer whole some =>
        walked.through (name :: inner) outer (by rw [whole, List.cons_append]) (by simp) some
    rw [← Filter.child_root shape top nameLegal] at onward
    obtain ⟨location, opens, named⟩ := exists_listed_of_exists_child nameLegal onward.exists?
    obtain ⟨place, leads⟩ := Disk.leadsTo_of_isFolder folder
    exact ⟨location, name, opens.find? leads.written, named, onward⟩

end Below

end Walked

end ResourceAccessors.Project
