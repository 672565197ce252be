import ResourceAccessors.Generation.Pass
import ResourceAccessors.Proofs.FilePath.FileName
import ResourceAccessors.Proofs.FilePath.Order
import ResourceAccessors.Resource.Selection

/-!
# Which files are selected

All files that lie directly in a folder and have an extension are selected there, each as often as it
is offered, and no others. The candidates stand in the order of their file names, and each has the
path, the text and the identity of its own file. A path that does not end in a name that is text has the
empty file name, and with it the empty extension.

Files are grouped by their folders first. Under a path the files are found that lie in the folder at this path, each as
often as it was offered and in the same order. Folders are told apart by their paths as paths, not by the texts of these.
-/

namespace ResourceAccessors.Resource

/-- The file lies in the folder itself: its path has one component more. -/
def File.LiesIn (file : File) (folder : FilePath) : Prop :=
  ∃ last, last ≠ .root ∧ file.path.components = folder.components ++ [last]

instance (file : File) (folder : FilePath) : Decidable (file.LiesIn folder) :=
  decidable_of_iff _ FilePath.parent?_beq_iff

/-- The candidates of all files that lie in a folder and have an extension. -/
structure IsSelection (folder : FilePath) (extension : String) (files : List File)
    (options : BuildOptions) (candidates : List Candidate) : Prop where
  /-- Every such file gives one candidate each time it is listed, and nothing else gives one. -/
  exact : candidates.Perm ((files.filter fun file =>
    file.LiesIn folder ∧ FileName.EndsIn file.fileName extension).map (Candidate.ofFile options))
  ordered : candidates.Pairwise fun left right => left.fileName ≤ right.fileName

/-- A search is for the files that lie in its folder and have its extension. -/
theorem File.matchesSearch_iff {folder : FilePath} {extension : String} {file : File} :
    file.matchesSearch folder extension = true ↔
      file.LiesIn folder ∧ FileName.EndsIn file.fileName extension := by
  rw [matchesSearch, Bool.and_eq_true_iff, FilePath.parent?_beq_iff, beq_iff_eq,
    FileName.extension_eq_iff]
  rfl

/-- How two candidates compare: by file name, then by path. -/
def compareCandidates : Candidate → Candidate → Ordering :=
  compareLex (compareOn Candidate.fileName) (compareOn Candidate.path)

instance : Std.TransCmp compareCandidates :=
  inferInstanceAs (Std.TransCmp (compareLex _ _))

/-- Candidates in order have file names in order. -/
theorem fileName_le_of_isLE {left right : Candidate}
    (ordered : (compareCandidates left right).isLE = true) : left.fileName ≤ right.fileName :=
  isLE_compare_text_iff.1 (Ordering.isLE_left_of_isLE_then ordered)

/-- What is selected are the candidates of all files in the folder with the extension. -/
theorem isSelection_select (folder : FilePath) (extension : String) (files : List File)
    (options : BuildOptions) :
    IsSelection folder extension files options (select folder extension files options) where
  exact := by
    have sought : files.filter (File.matchesSearch folder extension) = files.filter fun file =>
        file.LiesIn folder ∧ FileName.EndsIn file.fileName extension := by
      refine List.filter_congr fun file _ => ?_
      rw [Bool.eq_iff_iff, File.matchesSearch_iff, decide_eq_true_iff]
    rw [select, sought]
    exact List.mergeSort_perm _ _
  ordered := (pairwise_mergeSort_isLE compareCandidates _).imp fileName_le_of_isLE

/-! ### Files by their folders -/

/-- The folders stand in the order of their paths, and none stands there twice. -/
def Ascending (folders : List Folder) : Prop :=
  folders.Pairwise fun left right => compare left.path right.path = .lt

/-! ### One folder -/

/-- Paths that are equal are equal to the same paths. -/
theorem beq_left_eq {path other : FilePath} (same : (path == other) = true) (third : FilePath) :
    (path == third) = (other == third) := by
  rw [Bool.eq_iff_iff, FilePath.beq_iff_components, FilePath.beq_iff_components,
    (FilePath.beq_iff_components _ _).1 same]

/-- The same paths are equal to paths that are equal. -/
theorem beq_right_eq {path other : FilePath} (same : (path == other) = true) (third : FilePath) :
    (third == path) = (third == other) := by
  rw [Bool.eq_iff_iff, FilePath.beq_iff_components, FilePath.beq_iff_components,
    (FilePath.beq_iff_components _ _).1 same]

/-- The files at a path are those of the first folder there. -/
theorem filesAt_cons (path : FilePath) (first : Folder) (rest : List Folder) :
    filesAt path (first :: rest) =
      if first.path == path then first.files else filesAt path rest := by
  rw [filesAt, List.find?_cons]
  cases first.path == path <;> rfl

/-- No files are found under a path that comes before all folders. -/
theorem filesAt_eq_nil {path : FilePath} {folders : List Folder}
    (before : ∀ folder ∈ folders, compare path folder.path = .lt) : filesAt path folders = [] := by
  have absent : folders.find? (·.path == path) = none := by
    rw [List.find?_eq_none]
    intro folder mem same
    have equal := Std.OrientedCmp.eq_symm ((FilePath.compare_eq_iff_beq _ _).2 same)
    rw [before folder mem] at equal
    cases equal
  rw [filesAt, absent]

/-- A path that comes before the first folder comes before all. -/
theorem Ascending.before_all {path : FilePath} {first : Folder} {rest : List Folder}
    (ascending : Ascending (first :: rest)) (less : compare path first.path = .lt) :
    ∀ folder ∈ first :: rest, compare path folder.path = .lt := by
  intro folder mem
  rcases List.mem_cons.1 mem with rfl | among
  · exact less
  · exact Std.TransCmp.lt_trans less ((List.pairwise_cons.1 ascending).1 folder among)

/-! ### One more file -/

/-- Every folder is an old one, up to its files, or the one that the file is filed under. -/
theorem path_of_mem_fileUnder {path : FilePath} {file : File} {folders : List Folder}
    {folder : Folder} (mem : folder ∈ fileUnder path file folders) :
    folder.path = path ∨ ∃ old ∈ folders, old.path = folder.path := by
  induction folders with
  | nil => exact .inl (congrArg Folder.path (List.mem_singleton.1 mem))
  | cons first rest inductionHypothesis =>
    rw [fileUnder] at mem
    split at mem
    next =>
      rcases List.mem_cons.1 mem with rfl | old
      · exact .inl rfl
      · exact .inr ⟨folder, old, rfl⟩
    next =>
      rcases List.mem_cons.1 mem with rfl | old
      · exact .inr ⟨first, List.mem_cons_self, rfl⟩
      · exact .inr ⟨folder, List.mem_cons_of_mem _ old, rfl⟩
    next =>
      rcases List.mem_cons.1 mem with rfl | later
      · exact .inr ⟨folder, List.mem_cons_self, rfl⟩
      · rcases inductionHypothesis later with new | ⟨old, oldMem, same⟩
        · exact .inl new
        · exact .inr ⟨old, List.mem_cons_of_mem _ oldMem, same⟩

/-- Filing a file keeps the folders in order. -/
theorem Ascending.fileUnder {folders : List Folder} (ascending : Ascending folders)
    (path : FilePath) (file : File) : Ascending (fileUnder path file folders) := by
  induction folders with
  | nil => exact List.pairwise_singleton _ _
  | cons first rest inductionHypothesis =>
    obtain ⟨below, later⟩ := List.pairwise_cons.1 ascending
    rw [Resource.fileUnder]
    split
    next less => exact List.pairwise_cons.2 ⟨ascending.before_all less, ascending⟩
    next => exact List.pairwise_cons.2 ⟨below, later⟩
    next greater =>
      refine List.pairwise_cons.2 ⟨fun folder mem => ?_, inductionHypothesis later⟩
      rcases path_of_mem_fileUnder mem with new | ⟨old, oldMem, same⟩
      · rw [new]
        exact Std.OrientedCmp.lt_of_gt greater
      · rw [← same]
        exact below old oldMem

/-- A file is found behind those that were in its folder, and nowhere else. -/
theorem Ascending.filesAt_fileUnder {folders : List Folder} (ascending : Ascending folders)
    (path folder : FilePath) (file : File) : filesAt folder (Resource.fileUnder path file folders) =
      if path == folder then filesAt folder folders ++ [file] else filesAt folder folders := by
  induction folders with
  | nil =>
    rw [Resource.fileUnder, filesAt_cons]
    rfl
  | cons first rest inductionHypothesis =>
    obtain ⟨below, later⟩ := List.pairwise_cons.1 ascending
    rw [Resource.fileUnder]
    split
    next less =>
      rw [filesAt_cons]
      split
      next same =>
        -- The folder is new, so no file was found under its path.
        have before : ∀ other ∈ first :: rest, compare folder other.path = .lt := by
          have equal := Std.OrientedCmp.eq_symm ((FilePath.compare_eq_iff_beq _ _).2 same)
          exact fun other mem =>
            Std.TransCmp.lt_of_eq_of_lt equal (ascending.before_all less other mem)
        rw [filesAt_eq_nil before]
        rfl
      next => rfl
    next equal =>
      have same := beq_left_eq ((FilePath.compare_eq_iff_beq _ _).1 equal) folder
      rw [filesAt_cons, filesAt_cons, same]
      split <;> rfl
    next greater =>
      rw [filesAt_cons, filesAt_cons, inductionHypothesis later]
      cases found : first.path == folder with
      | false => simp
      | true =>
        have apart : (path == folder) = false := by
          rw [← beq_right_eq found, Bool.eq_false_iff, Ne, ← FilePath.compare_eq_iff_beq, greater]
          exact Ordering.noConfusion
        simp [apart]

/-- One more file is found in the folder that it lies in. -/
theorem Ascending.filesAt_withFile {folders : List Folder} (ascending : Ascending folders)
    (folder : FilePath) (file : File) : filesAt folder (withFile folders file) =
      filesAt folder folders ++ [file].filter (·.path.parent? == some folder) := by
  rw [withFile]
  cases lies : file.path.parent? with
  | none => simp [lies]
  | some path =>
    have compares : (some path == some folder) = (path == folder) := rfl
    rw [ascending.filesAt_fileUnder, List.filter_cons, lies, compares]
    cases path == folder <;> simp

/-- One more file leaves the folders in order. -/
theorem Ascending.withFile {folders : List Folder} (ascending : Ascending folders)
    (file : File) : Ascending (withFile folders file) := by
  rw [Resource.withFile]
  split
  · exact ascending.fileUnder _ file
  · exact ascending

/-! ### All files -/

/-- Under a path stand the files that lie in the folder there, in their order. -/
theorem filesAt_byFolder (folder : FilePath) (files : List File) :
    filesAt folder (byFolder files) = files.filter (·.path.parent? == some folder) := by
  have filed : ∀ folders, Ascending folders → filesAt folder (files.foldl withFile folders) =
      filesAt folder folders ++ files.filter (·.path.parent? == some folder) := by
    induction files with
    | nil => simp
    | cons first rest inductionHypothesis =>
      intro folders ascending
      rw [List.foldl_cons, inductionHypothesis _ (ascending.withFile first),
        ascending.filesAt_withFile, List.append_assoc, ← List.filter_append, List.singleton_append]
  exact filed [] .nil

end ResourceAccessors.Resource

namespace ResourceAccessors.Generation

/-- The files that are looked up for a folder are those that lie in it. -/
theorem filesIn_eq (folder : FilePath) (files : List Resource.File) :
    filesIn folder files = files.filter (·.path.parent? == some folder) :=
  Resource.filesAt_byFolder folder files

/-- The files in a folder are those offered ones with the folder as their parent. -/
theorem mem_filesIn {folder : FilePath} {files : List Resource.File} {file : Resource.File} :
    file ∈ filesIn folder files ↔ file ∈ files ∧ (file.path.parent? == some folder) = true := by
  rw [filesIn_eq, List.mem_filter]

end ResourceAccessors.Generation
