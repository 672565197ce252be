import ResourceAccessors.Artifact.Output
import ResourceAccessors.Proofs.Declaration.Names
import ResourceAccessors.Proofs.Disk.Change
import ResourceAccessors.Proofs.FilePath.Order

/-!
# The artifact folder in line

After the artifacts are written each of them stands in the folder with its text, whatever stood there
before, and what is told as written is what was different or missing. After the stale artifacts are
removed none but the produced ones is left. Files with names that are not text are nobody's artifacts.
-/

namespace ResourceAccessors

/-- Contents are compared byte by byte. -/
instance lawfulBEqByteArray : LawfulBEq ByteArray where
  eq_of_beq {left right} same := by
    have bytes : (left.data == right.data) = true := same
    exact ByteArray.ext (by simpa using bytes)
  rfl {content} := by
    show (content.data == content.data) = true
    simp

namespace Artifact

open Disk (Location)
open FilePath (IsEntryName)

/-- A file with the text of an artifact stands in a folder under its name. -/
def StandsIn (disk : Disk) (folder : Location) (artifact : Artifact) : Prop :=
  disk.fileAt? (artifact.name :: folder) = some artifact.text.toUTF8

instance (disk : Disk) (folder : Location) (artifact : Artifact) :
    Decidable (artifact.StandsIn disk folder) :=
  inferInstanceAs (Decidable (disk.fileAt? (artifact.name :: folder) = some artifact.text.toUTF8))

/-! ### Writing -/

/-- What writing some artifacts to a folder does to a disk. -/
structure Written (path : FilePath) (folder : Location) (artifacts : List Artifact)
    (before after : Disk) (written : List FilePath) : Prop where
  stand : ∀ artifact ∈ artifacts, artifact.StandsIn after folder
  short : ∀ artifact ∈ artifacts, FilePath.byteSize artifact.name ≤ Disk.maxNameSize
  others : ∀ location, (∀ artifact ∈ artifacts, location ≠ artifact.name :: folder) →
    after.entry? location = before.entry? location
  keeps : before.Keeps after
  differs : Disk.DiffersIn folder before after
  /-- What is told as written is what was different or missing. -/
  told : written = (artifacts.filter fun artifact => ¬ artifact.StandsIn before folder).map
    fun artifact => path.child artifact.name

section Writing

variable {disk after : Disk} {path : FilePath} {folder : Location}

/-- An artifact stands somewhere as long as nothing changes there. -/
theorem standsIn_congr {before : Disk} {artifact : Artifact}
    (same : after.entry? (artifact.name :: folder) = before.entry? (artifact.name :: folder)) :
    artifact.StandsIn after folder ↔ artifact.StandsIn before folder := by
  rw [StandsIn, StandsIn, Disk.fileAt?_congr same]

/-- Writing one more artifact first writes all of them. -/
theorem Written.cons {before middle : Disk} {artifact : Artifact} {rest : List Artifact}
    {written told : List FilePath} (done : Written path folder rest middle after written)
    (stands : artifact.StandsIn middle folder)
    (short : FilePath.byteSize artifact.name ≤ Disk.maxNameSize)
    (others : ∀ location, location ≠ artifact.name :: folder →
      middle.entry? location = before.entry? location)
    (keeps : before.Keeps middle) (differs : Disk.DiffersIn folder before middle)
    (fresh : artifact.name ∉ rest.map name)
    (tells : told = if artifact.StandsIn before folder then written
      else path.child artifact.name :: written) :
    Written path folder (artifact :: rest) before after told := by
  have apart : ∀ other ∈ rest, other.name :: folder ≠ artifact.name :: folder := by
    intro other mem same
    apply fresh
    rw [← (List.cons.inj same).1]
    exact List.mem_map_of_mem mem
  constructor
  case stand =>
    intro other mem
    rcases List.mem_cons.1 mem with rfl | later
    · have untouched := done.others (other.name :: folder) fun found mem => (apart found mem).symm
      exact (standsIn_congr untouched).2 stands
    · exact done.stand other later
  case short =>
    intro other mem
    rcases List.mem_cons.1 mem with rfl | later
    · exact short
    · exact done.short other later
  case others =>
    intro location differs
    rw [done.others location fun other mem => differs other (List.mem_cons_of_mem _ mem)]
    exact others location (differs artifact List.mem_cons_self)
  case keeps => exact keeps.trans done.keeps
  case differs => exact differs.trans done.differs
  case told =>
    have same : (rest.filter fun other => ¬ other.StandsIn middle folder) =
        rest.filter fun other => ¬ other.StandsIn before folder := by
      apply List.filter_congr
      intro other mem
      rw [decide_eq_decide, standsIn_congr (others _ (apart other mem))]
    rw [tells, done.told, same]
    by_cases prior : artifact.StandsIn before folder
    · rw [if_pos prior, List.filter_cons_of_neg (by simpa using prior)]
    · rw [if_neg prior, List.filter_cons_of_pos (by simpa using prior), List.map_cons]

/-- An artifact counts as written when its file reads as its text. -/
theorem isWritten_iff_readFile {file : FilePath} {artifact : Artifact} :
    isWritten disk file artifact = true ↔ disk.readFile file = .ok artifact.text.toUTF8 := by
  rw [isWritten]
  cases disk.readFile file with
  | error cause => simp
  | ok content => simp

/-- An artifact counts as written when it stands in the folder. -/
theorem isWritten_iff (leads : disk.LeadsTo path folder) {artifact : Artifact}
    (legal : IsEntryName artifact.name)
    (noLink : ∀ target, disk.entry? (artifact.name :: folder) ≠ some (.link target)) :
    isWritten disk (path.child artifact.name) artifact = true ↔
      FilePath.byteSize artifact.name ≤ Disk.maxNameSize ∧ artifact.StandsIn disk folder := by
  rw [StandsIn, ← leads.readFile_child_iff legal noLink, isWritten_iff_readFile]

/-- After the artifacts are written, all of them stand in the folder. -/
theorem written_of_writeAll {artifacts : List Artifact} {written : List FilePath}
    (leads : disk.LeadsTo path folder) (distinct : (artifacts.map name).Nodup)
    (legal : ∀ artifact ∈ artifacts, IsEntryName artifact.name)
    (noLinks : ∀ artifact ∈ artifacts, ∀ target,
      disk.entry? (artifact.name :: folder) ≠ some (.link target))
    (ran : (writeAll path artifacts).run disk = (.ok written, after)) :
    Written path folder artifacts disk after written := by
  induction artifacts generalizing disk written with
  | nil =>
    cases ran
    exact ⟨nofun, nofun, fun _ _ => rfl, .refl _, .refl _ _, rfl⟩
  | cons artifact rest ih =>
    obtain ⟨fresh, distinct⟩ := List.nodup_cons.1 distinct
    have ownLegal := legal artifact List.mem_cons_self
    have ownNoLink := noLinks artifact List.mem_cons_self
    have restLegal := fun other mem => legal other (List.mem_cons_of_mem _ mem)
    have restNoLinks := fun other mem => noLinks other (List.mem_cons_of_mem _ mem)
    have checked := isWritten_iff leads ownLegal ownNoLink
    obtain ⟨found, changed, got, ran⟩ := Disk.exists_of_run_bind ran
    cases got
    split at ran
    next standing =>
      obtain ⟨short, stands⟩ := checked.1 standing
      have done := ih leads distinct restLegal restNoLinks ran
      apply done.cons stands short (fun _ _ => rfl) (.refl _) (.refl _ _) fresh
      rw [if_pos stands]
    next missing =>
      obtain ⟨⟨⟩, middle, replaced, ran⟩ := Disk.exists_of_run_bind ran
      obtain ⟨others, changed, wrote, ran⟩ := Disk.exists_of_run_bind ran
      cases ran
      obtain ⟨short, notFolder, rfl⟩ := leads.eq_of_replaceFile ownLegal replaced
      have elsewhere : ∀ location, location ≠ artifact.name :: folder →
          Disk.entry? (disk.put (artifact.name :: folder) (.file artifact.text.toUTF8)) location =
            disk.entry? location :=
        fun location differs => Disk.entry?_put_other disk differs _
      have keeps :=
        Disk.keeps_of_other (Disk.isFileOrFree notFolder ownNoLink) elsewhere rfl
      have notStanding : ¬ artifact.StandsIn disk folder :=
        fun stands => missing (checked.2 ⟨short, stands⟩)
      have done := ih (leads.mono keeps) distinct restLegal (by
        intro other mem target
        rw [elsewhere]
        · exact restNoLinks other mem target
        · intro same
          apply fresh
          rw [← (List.cons.inj same).1]
          exact List.mem_map_of_mem mem) wrote
      apply done.cons _ short elsewhere keeps (Disk.differsIn_put disk _ _) fresh
      · rw [if_neg notStanding]
      · rw [StandsIn, Disk.fileAt?_eq_some_iff]
        exact Disk.entry?_put_self disk (by simp) _

end Writing

/-! ### Removing -/

/-- The names of the files of a folder that count as artifacts. -/
def namesIn (disk : Disk) (folder : Location) : List String :=
  (disk.namesIn folder).filter fun name =>
    IsRecognized name ∧ (disk.fileAt? (name :: folder)).isSome

/-- Whether a file in a folder counts as an artifact that is not produced any more. -/
def IsStaleIn (disk : Disk) (folder : Location) (produced : List String) (name : String) : Prop :=
  IsRecognized name ∧ (disk.fileAt? (name :: folder)).isSome ∧ name ∉ produced

instance (disk : Disk) (folder : Location) (produced : List String) (name : String) :
    Decidable (IsStaleIn disk folder produced name) :=
  inferInstanceAs (Decidable (IsRecognized name ∧ (disk.fileAt? (name :: folder)).isSome ∧
    name ∉ produced))

/-- The artifacts in a folder that are not produced any more. -/
def staleNames (disk : Disk) (folder : Location) (produced : List String) : List String :=
  (disk.namesIn folder).filter fun name => IsStaleIn disk folder produced name

section Removing

variable {disk after : Disk} {path : FilePath} {folder : Location} {produced : List String}

/-- Where a file stands, its name is listed. -/
theorem mem_namesIn_of_file {name : String} (file : (disk.fileAt? (name :: folder)).isSome = true) :
    name ∈ disk.namesIn folder := by
  obtain ⟨content, found⟩ := Option.isSome_iff_exists.1 file
  rw [Disk.mem_namesIn_iff, Disk.fileAt?_eq_some_iff.1 found]
  rfl

/-- The names that count as artifacts are recognized and those of files. -/
theorem mem_namesIn_iff {name : String} : name ∈ namesIn disk folder ↔
    IsRecognized name ∧ ∃ content, disk.fileAt? (name :: folder) = some content := by
  rw [namesIn, List.mem_filter, decide_eq_true_iff, ← Option.isSome_iff_exists]
  exact ⟨And.right, fun file => ⟨mem_namesIn_of_file file.2, file⟩⟩

/-- The stale artifacts are those files. -/
theorem mem_staleNames_iff {name : String} :
    name ∈ staleNames disk folder produced ↔ IsStaleIn disk folder produced name := by
  rw [staleNames, List.mem_filter, decide_eq_true_iff]
  exact ⟨And.right, fun stale => ⟨mem_namesIn_of_file stale.2.1, stale⟩⟩

/-- No artifact of a folder is listed twice. -/
theorem nodup_namesIn (disk : Disk) (folder : Location) : (namesIn disk folder).Nodup :=
  (Disk.nodup_namesIn disk folder).filter _

/-- No stale artifact is listed twice. -/
theorem nodup_staleNames (disk : Disk) (folder : Location) (produced : List String) :
    (staleNames disk folder produced).Nodup :=
  (Disk.nodup_namesIn disk folder).filter _

/-- Whether an artifact is stale depends on the file under its name. -/
theorem isStaleIn_congr {name : String}
    (same : after.fileAt? (name :: folder) = disk.fileAt? (name :: folder)) :
    IsStaleIn after folder produced name ↔ IsStaleIn disk folder produced name := by
  rw [IsStaleIn, IsStaleIn, same]

/-- Which artifacts are stale depends on the files that are not produced. -/
theorem staleNames_perm_of_fileAt (same : ∀ name, name ∉ produced →
      after.fileAt? (name :: folder) = disk.fileAt? (name :: folder)) :
    (staleNames after folder produced).Perm (staleNames disk folder produced) := by
  rw [List.perm_ext_iff_of_nodup (nodup_staleNames _ _ _) (nodup_staleNames _ _ _)]
  intro name
  rw [mem_staleNames_iff, mem_staleNames_iff]
  by_cases notProduced : name ∉ produced
  · exact isStaleIn_congr (same name notProduced)
  · simp [IsStaleIn, notProduced]

/-- What removing the files with some names from a folder does to a disk. -/
structure Removed (folder : Location) (names : List String) (before after : Disk) : Prop where
  gone : ∀ name ∈ names, after.entry? (name :: folder) = none
  others : ∀ location, (∀ name ∈ names, location ≠ name :: folder) →
    after.entry? location = before.entry? location
  keeps : before.Keeps after
  differs : Disk.DiffersIn folder before after

/-- Removing one more file first removes all of them. -/
theorem Removed.cons {name : String} {rest : List String} (fresh : name ∉ rest)
    (file : (disk.fileAt? (name :: folder)).isSome = true)
    (gone : Removed folder rest (disk.erase (name :: folder)) after) :
    Removed folder (name :: rest) disk after where
  gone := by
    intro other mem
    rcases List.mem_cons.1 mem with rfl | later
    · rw [gone.others]
      · exact Disk.entry?_erase_self disk (by simp)
      · intro found among same
        exact fresh ((List.cons.inj same).1 ▸ among)
    · exact gone.gone other later
  others := by
    intro location differs
    rw [gone.others location fun other mem => differs other (List.mem_cons_of_mem _ mem)]
    exact Disk.entry?_erase_other disk (differs name List.mem_cons_self)
  keeps := by
    obtain ⟨content, stands⟩ := Option.isSome_iff_exists.1 file
    have elsewhere : ∀ location, location ≠ name :: folder →
        Disk.entry? (disk.erase (name :: folder)) location = disk.entry? location :=
      fun location differs => Disk.entry?_erase_other disk differs
    exact (Disk.keeps_of_other (.inr ⟨content, Disk.fileAt?_eq_some_iff.1 stands⟩) elsewhere
      rfl).trans gone.keeps
  differs := (Disk.differsIn_erase disk name).trans gone.differs

/-- The paths of entries with different names are different. -/
theorem nodup_components_child (path : FilePath) {names : List String} (distinct : names.Nodup)
    (legal : ∀ name ∈ names, IsEntryName name) :
    ((names.map path.child).map FilePath.components).Nodup := by
  rw [List.map_map, List.nodup_map_iff_inj_on distinct]
  intro one oneMem other otherMem same
  rw [Function.comp_apply, Function.comp_apply, FilePath.components_child path (legal one oneMem),
    FilePath.components_child path (legal other otherMem)] at same
  simpa using same

/-- An entry of a folder that is stale is a file with a recognized name. -/
theorem isRecognized_of_isStale {name : String} (legal : IsEntryName name)
    (stale : isStale disk produced (path.child name) = true) :
    IsRecognized name ∧ disk.isFile (path.child name) = true := by
  rw [isStale, FilePath.textName?, path.fileName?_child legal] at stale
  by_cases isText : FilePath.isTextName name = true
  · rw [Option.filter_some_pos isText] at stale
    simp only [Bool.and_eq_true, List.isSuffixOf_iff_suffix] at stale
    exact ⟨⟨isText, stale.1.1⟩, stale.2⟩
  · rw [Option.filter_some_neg (by simpa using isText)] at stale
    cases stale

/-- An entry of a folder is stale when it is a file that counts as an artifact and is not produced. -/
theorem isStale_iff (leads : disk.LeadsTo path folder) {name : String} (legal : Disk.IsName name)
    (noLink : ∀ target, disk.entry? (name :: folder) ≠ some (.link target)) :
    isStale disk produced (path.child name) = true ↔ IsStaleIn disk folder produced name := by
  have isFile := leads.isFile_child_iff legal.entryName noLink
  rw [isStale, FilePath.textName?, path.fileName?_child legal.entryName, IsStaleIn, IsRecognized]
  by_cases isText : FilePath.isTextName name = true
  · rw [Option.filter_some_pos isText]
    simp only [Bool.and_eq_true, List.isSuffixOf_iff_suffix, isFile, legal.short, true_and, isText,
      Option.isSome_iff_exists]
    simp only [HasSuffix, Bool.not_eq_true', List.contains_eq_mem, decide_eq_false_iff_not, and_assoc]
    exact and_congr_right fun _ => and_comm
  · rw [Option.filter_some_neg (by simpa using isText)]
    simp [isText]

/-- Of some entries of a folder those are removed that are stale at first: removing one of them leaves the
others as they are. -/
theorem removed_of_removeEach {names : List String} {removed : List FilePath}
    (leads : disk.LeadsTo path folder) (distinct : names.Nodup)
    (legal : ∀ name ∈ names, Disk.IsName name)
    (noLinks : ∀ name ∈ names, ∀ target, disk.entry? (name :: folder) ≠ some (.link target))
    (ran : (removeEach produced (names.map path.child)).run disk = (.ok removed, after)) :
    removed = (names.filter fun name => IsStaleIn disk folder produced name).map path.child ∧
      Removed folder (names.filter fun name => IsStaleIn disk folder produced name) disk after := by
  induction names generalizing disk removed with
  | nil =>
    cases ran
    exact ⟨rfl, nofun, fun _ _ => rfl, .refl _, .refl _ _⟩
  | cons name rest ih =>
    obtain ⟨fresh, distinct⟩ := List.nodup_cons.1 distinct
    obtain ⟨isName, restLegal⟩ := List.forall_mem_cons.1 legal
    obtain ⟨noLink, restNoLinks⟩ := List.forall_mem_cons.1 noLinks
    have decides : isStale disk produced (path.child name) = true ↔
        IsStaleIn disk folder produced name := isStale_iff leads isName noLink
    obtain ⟨found, changed, got, ran⟩ := Disk.exists_of_run_bind ran
    cases got
    split at ran
    next isStale =>
      have stale := decides.1 isStale
      obtain ⟨⟨⟩, middle, erased, ran⟩ := Disk.exists_of_run_bind ran
      obtain ⟨others, changed, ranRest, ran⟩ := Disk.exists_of_run_bind ran
      cases ran
      obtain rfl := leads.eq_of_removeFile isName.entryName erased
      have elsewhere : ∀ other ∈ rest, Disk.entry? (disk.erase (name :: folder)) (other :: folder) =
          disk.entry? (other :: folder) := by
        intro other mem
        apply Disk.entry?_erase_other disk
        intro same
        exact fresh ((List.cons.inj same).1 ▸ mem)
      have sameStale : (rest.filter fun other =>
            IsStaleIn (disk.erase (name :: folder)) folder produced other) =
          rest.filter fun other => IsStaleIn disk folder produced other := by
        apply List.filter_congr
        intro other mem
        rw [decide_eq_decide, isStaleIn_congr (Disk.fileAt?_congr (elsewhere other mem))]
      have erases : Removed folder [name] disk (disk.erase (name :: folder)) :=
        .cons List.not_mem_nil stale.2.1 ⟨nofun, fun _ _ => rfl, .refl _, .refl _ _⟩
      obtain ⟨tells, gone⟩ := ih (leads.mono erases.keeps) distinct restLegal (by
        intro other mem
        rw [elsewhere other mem]
        exact restNoLinks other mem) ranRest
      rw [sameStale] at tells gone
      rw [List.filter_cons_of_pos (by simpa using stale), List.map_cons, tells]
      exact ⟨rfl, gone.cons (fun mem => fresh (List.mem_filter.1 mem).1) stale.2.1⟩
    next notStale =>
      have fresh := fun stale => notStale (decides.2 stale)
      rw [List.filter_cons_of_neg (by simpa using fresh)]
      exact ih leads distinct restLegal restNoLinks ran

/-- Removing the stale artifacts erases exactly these, and tells their paths. -/
theorem removed_of_removeStale {removed : List FilePath} (leads : disk.LeadsTo path folder)
    (legal : ∀ name ∈ disk.namesIn folder, Disk.IsName name)
    (noLinks : ∀ name target, disk.entry? (name :: folder) ≠ some (.link target))
    (ran : (removeStale path produced).run disk = (.ok removed, after)) :
    removed.Perm ((staleNames disk folder produced).map path.child) ∧
      Removed folder (staleNames disk folder produced) disk after := by
  obtain ⟨found, changed, got, ran⟩ := Disk.exists_of_run_bind ran
  cases got
  obtain ⟨children, listed, ran⟩ := Disk.run_bind_lift ran
  rw [leads.childrenOf] at listed
  cases listed
  obtain ⟨told, changed, ranEach, ran⟩ := Disk.exists_of_run_bind ran
  cases ran
  obtain ⟨rfl, gone⟩ := removed_of_removeEach leads (Disk.nodup_namesIn disk folder) legal
    (fun name _ => noLinks name) ranEach
  refine ⟨FilePath.ascending_perm ?_, gone⟩
  apply nodup_components_child path (nodup_staleNames disk folder produced)
  intro name mem
  exact (legal name (mem_namesIn_of_file (mem_staleNames_iff.1 mem).2.1)).entryName

end Removing

/-! ### The folder in line -/

/-- A folder that holds some artifacts and no others, and what was done for this. -/
structure InLine (path : FilePath) (folder : Location) (artifacts : List Artifact)
    (before after : Disk) (written removed : List FilePath) : Prop where
  stand : ∀ artifact ∈ artifacts, artifact.StandsIn after folder
  short : ∀ artifact ∈ artifacts, FilePath.byteSize artifact.name ≤ Disk.maxNameSize
  /-- No other file counts as an artifact. -/
  only : ∀ name ∈ namesIn after folder, name ∈ artifacts.map Artifact.name
  told : written = (artifacts.filter fun artifact => ¬ artifact.StandsIn before folder).map
    fun artifact => path.child artifact.name
  removed : removed.Perm
    ((staleNames before folder (artifacts.map Artifact.name)).map path.child)
  noLinks : ∀ name target, after.entry? (name :: folder) ≠ some (.link target)
  keeps : before.Keeps after

section Line

variable {disk middle after : Disk} {path : FilePath} {folder : Location}
  {artifacts : List Artifact} {produced : List String} {written removed : List FilePath}

/-- What stands in the folder after writing is an artifact, or stood there before. -/
theorem Written.stands_cases (done : Written path folder artifacts disk middle written)
    (name : String) : (∃ artifact ∈ artifacts, artifact.name = name ∧
        middle.entry? (name :: folder) = some (.file artifact.text.toUTF8)) ∨
      (name ∉ artifacts.map Artifact.name ∧
        middle.entry? (name :: folder) = disk.entry? (name :: folder)) := by
  by_cases produced : name ∈ artifacts.map Artifact.name
  · obtain ⟨artifact, mem, rfl⟩ := List.mem_map.1 produced
    exact .inl ⟨artifact, mem, rfl, Disk.fileAt?_eq_some_iff.1 (done.stand artifact mem)⟩
  · refine .inr ⟨produced, done.others _ ?_⟩
    intro artifact mem same
    apply produced
    rw [(List.cons.inj same).1]
    exact List.mem_map_of_mem mem

/-- Writing the artifacts does not change which other ones are stale. -/
theorem Written.staleNames_perm (done : Written path folder artifacts disk middle written) :
    (staleNames middle folder (artifacts.map Artifact.name)).Perm
      (staleNames disk folder (artifacts.map Artifact.name)) := by
  apply staleNames_perm_of_fileAt
  intro name notProduced
  rcases done.stands_cases name with ⟨artifact, mem, rfl, -⟩ | ⟨-, same⟩
  · exact absurd (List.mem_map_of_mem mem) notProduced
  · exact Disk.fileAt?_congr same

/-- Writing artifacts makes no link in the folder. -/
theorem Written.noLinks (done : Written path folder artifacts disk middle written)
    (noLinks : ∀ name target, disk.entry? (name :: folder) ≠ some (.link target)) :
    ∀ name target, middle.entry? (name :: folder) ≠ some (.link target) := by
  intro name target
  rcases done.stands_cases name with ⟨artifact, -, -, stands⟩ | ⟨-, same⟩
  · rw [stands]
    exact fun absurd => nomatch absurd
  · rw [same]
    exact noLinks name target

/-- Writing artifacts leaves the folder with names of entries. -/
theorem Written.isName (done : Written path folder artifacts disk middle written)
    (legal : disk.Legal) (names : ∀ artifact ∈ artifacts, IsEntryName artifact.name) :
    ∀ name ∈ middle.namesIn folder, Disk.IsName name := by
  intro name mem
  rcases done.stands_cases name with ⟨artifact, artifactMem, rfl, -⟩ | ⟨-, same⟩
  · exact ⟨names artifact artifactMem, done.short artifact artifactMem⟩
  · rw [Disk.mem_namesIn_iff, same] at mem
    obtain ⟨entry, stands⟩ := Option.isSome_iff_exists.1 mem
    exact legal.names stands name List.mem_cons_self

/-- Removing some files leaves what has another name. -/
theorem Removed.entry?_eq {names : List String} (gone : Removed folder names middle after)
    {name : String} (notRemoved : name ∉ names) :
    after.entry? (name :: folder) = middle.entry? (name :: folder) := by
  apply gone.others
  intro other mem same
  exact notRemoved ((List.cons.inj same).1 ▸ mem)

/-- Writing the artifacts and removing the stale ones brings the folder in line. -/
theorem inLine_of_run (leads : disk.LeadsTo path folder) (legal : disk.Legal)
    (distinct : (artifacts.map Artifact.name).Nodup)
    (names : ∀ artifact ∈ artifacts, IsEntryName artifact.name)
    (noLinks : ∀ name target, disk.entry? (name :: folder) ≠ some (.link target))
    (wrote : (writeAll path artifacts).run disk = (.ok written, middle))
    (cleaned : (removeStale path (artifacts.map Artifact.name)).run middle =
      (.ok removed, after)) :
    InLine path folder artifacts disk after written removed := by
  have done := written_of_writeAll leads distinct names
    (fun artifact _ target => noLinks artifact.name target) wrote
  obtain ⟨tells, gone⟩ := removed_of_removeStale (leads.mono done.keeps)
    (done.isName legal names) (done.noLinks noLinks) cleaned
  constructor
  case stand =>
    intro artifact mem
    rw [standsIn_congr (gone.entry?_eq _)]
    · exact done.stand artifact mem
    · intro stale
      exact (mem_staleNames_iff.1 stale).2.2 (List.mem_map_of_mem mem)
  case short => exact done.short
  case only =>
    intro name mem
    obtain ⟨recognized, content, stands⟩ := mem_namesIn_iff.1 mem
    rw [Disk.fileAt?_eq_some_iff] at stands
    by_contra notProduced
    by_cases stale : name ∈ staleNames middle folder (artifacts.map Artifact.name)
    · rw [gone.gone name stale] at stands
      cases stands
    · rw [gone.entry?_eq stale] at stands
      exact stale (mem_staleNames_iff.2 ⟨recognized,
        Option.isSome_of_eq_some (Disk.fileAt?_eq_some_iff.2 stands), notProduced⟩)
  case told => exact done.told
  case removed => exact tells.trans (done.staleNames_perm.map path.child)
  case noLinks =>
    intro name target
    by_cases stale : name ∈ staleNames middle folder (artifacts.map Artifact.name)
    · rw [gone.gone name stale]
      exact fun absurd => nomatch absurd
    · rw [gone.entry?_eq stale]
      exact done.noLinks noLinks name target
  case keeps => exact done.keeps.trans gone.keeps

/-- Only the files that were there count as prior ones. -/
theorem InLine.since {earlier : Disk}
    (line : InLine path folder artifacts disk after written removed) (keeps : earlier.Keeps disk)
    (files : ∀ location, disk.fileAt? location = earlier.fileAt? location) :
    InLine path folder artifacts earlier after written removed where
  stand := line.stand
  short := line.short
  only := line.only
  told := by
    have prior : (artifacts.filter fun artifact => ¬ artifact.StandsIn disk folder) =
        artifacts.filter fun artifact => ¬ artifact.StandsIn earlier folder := by
      apply List.filter_congr
      intro artifact _
      rw [decide_eq_decide, StandsIn, StandsIn, files]
    rw [line.told, prior]
  removed :=
    line.removed.trans ((staleNames_perm_of_fileAt fun name _ => files (name :: folder)).map path.child)
  noLinks := line.noLinks
  keeps := keeps.trans line.keeps

/-- A folder stays in line as long as nothing changes that counts as an artifact. -/
theorem InLine.spared {later : Disk}
    (line : InLine path folder artifacts disk after written removed) (keeps : after.Keeps later)
    (named : ∀ artifact ∈ artifacts, IsRecognized artifact.name)
    (same : ∀ name, IsRecognized name →
      later.entry? (name :: folder) = after.entry? (name :: folder))
    (links : ∀ location target, later.entry? location = some (.link target) →
      after.entry? location = some (.link target)) :
    InLine path folder artifacts disk later written removed where
  stand artifact mem := (standsIn_congr (same _ (named artifact mem))).2 (line.stand artifact mem)
  short := line.short
  only name mem := by
    obtain ⟨recognized, content, stands⟩ := mem_namesIn_iff.1 mem
    rw [Disk.fileAt?_congr (same name recognized)] at stands
    exact line.only name (mem_namesIn_iff.2 ⟨recognized, content, stands⟩)
  told := line.told
  removed := line.removed
  noLinks name target stands := line.noLinks name target (links _ target stands)
  keeps := line.keeps.trans keeps

/-- In a folder in line, the files that count as artifacts are the artifacts. -/
theorem InLine.namesIn_perm (line : InLine path folder artifacts disk after written removed)
    (distinct : (artifacts.map Artifact.name).Nodup)
    (named : ∀ artifact ∈ artifacts, IsRecognized artifact.name) :
    (namesIn after folder).Perm (artifacts.map Artifact.name) := by
  rw [List.perm_ext_iff_of_nodup (nodup_namesIn _ _) distinct]
  intro name
  constructor
  · exact line.only name
  · intro mem
    obtain ⟨artifact, artifactMem, rfl⟩ := List.mem_map.1 mem
    exact mem_namesIn_iff.2 ⟨named artifact artifactMem, _, line.stand artifact artifactMem⟩

/-- What writing and removing change stands in the folder, under names of entries. -/
theorem differsIn_of_run (leads : disk.LeadsTo path folder) (legal : disk.Legal)
    (distinct : (artifacts.map Artifact.name).Nodup)
    (names : ∀ artifact ∈ artifacts, IsEntryName artifact.name)
    (noLinks : ∀ name target, disk.entry? (name :: folder) ≠ some (.link target))
    (wrote : (writeAll path artifacts).run disk = (.ok written, middle))
    (cleaned : (removeStale path (artifacts.map Artifact.name)).run middle =
      (.ok removed, after)) :
    Disk.DiffersIn folder disk after ∧ ∀ name ∈ after.namesIn folder, Disk.IsName name := by
  have done := written_of_writeAll leads distinct names
    (fun artifact _ target => noLinks artifact.name target) wrote
  have isName := done.isName legal names
  obtain ⟨-, gone⟩ := removed_of_removeStale (leads.mono done.keeps) isName
    (done.noLinks noLinks) cleaned
  refine ⟨done.differs.trans gone.differs, fun name mem => isName name ?_⟩
  rw [Disk.mem_namesIn_iff] at mem ⊢
  rw [← gone.entry?_eq fun removed => ?_]
  · exact mem
  · rw [gone.gone name removed] at mem
    cases mem

/-! ### A folder that is in line already -/

/-- Artifacts that stand in the folder are not written again. -/
theorem writeAll_run_of_stand (leads : disk.LeadsTo path folder)
    (names : ∀ artifact ∈ artifacts, IsEntryName artifact.name)
    (noLinks : ∀ name target, disk.entry? (name :: folder) ≠ some (.link target))
    (short : ∀ artifact ∈ artifacts, FilePath.byteSize artifact.name ≤ Disk.maxNameSize)
    (stand : ∀ artifact ∈ artifacts, artifact.StandsIn disk folder) :
    (writeAll path artifacts).run disk = (.ok [], disk) := by
  induction artifacts with
  | nil => rfl
  | cons artifact rest ih =>
    obtain ⟨name, restNames⟩ := List.forall_mem_cons.1 names
    obtain ⟨isShort, restShort⟩ := List.forall_mem_cons.1 short
    obtain ⟨stands, restStand⟩ := List.forall_mem_cons.1 stand
    have written := (isWritten_iff leads name (noLinks artifact.name)).2 ⟨isShort, stands⟩
    rw [writeAll, Disk.run_bind]
    change (if isWritten disk (path.child artifact.name) artifact = true then _ else _ :
      Disk.Change DiskError _).run disk = _
    rw [if_pos written]
    exact ih restNames restShort restStand

/-- Where none of the artifacts is written, the files of all of them read as their texts. -/
theorem readFile_of_writeAll_nil (ran : (writeAll path artifacts).run disk = (.ok [], after)) :
    ∀ artifact ∈ artifacts, disk.readFile (path.child artifact.name) = .ok artifact.text.toUTF8 := by
  induction artifacts with
  | nil => exact nofun
  | cons artifact rest ih =>
    obtain ⟨found, changed, got, ran⟩ := Disk.exists_of_run_bind ran
    cases got
    split at ran
    next standing =>
      intro other mem
      rcases List.mem_cons.1 mem with rfl | later
      · exact isWritten_iff_readFile.1 standing
      · exact ih ran other later
    next missing =>
      obtain ⟨⟨⟩, middle, -, ran⟩ := Disk.exists_of_run_bind ran
      obtain ⟨others, changed, -, ran⟩ := Disk.exists_of_run_bind ran
      cases ran

/-- Where no entry is stale, none is removed. -/
theorem removeEach_run_of_none {paths : List FilePath}
    (none : ∀ child ∈ paths, isStale disk produced child = false) :
    (removeEach produced paths).run disk = (.ok [], disk) := by
  induction paths with
  | nil => rfl
  | cons first rest ih =>
    obtain ⟨notStale, later⟩ := List.forall_mem_cons.1 none
    rw [removeEach, Disk.run_bind]
    change (if isStale disk produced first = true then _ else _ :
      Disk.Change DiskError _).run disk = _
    rw [if_neg (by simp [notStale])]
    exact ih later

/-- Where every file that counts as an artifact is produced, none is removed. -/
theorem removeStale_run_of_only (leads : disk.LeadsTo path folder)
    (legal : ∀ name ∈ disk.namesIn folder, Disk.IsName name)
    (noLinks : ∀ name target, disk.entry? (name :: folder) ≠ some (.link target))
    (only : ∀ name ∈ namesIn disk folder, name ∈ produced) :
    (removeStale path produced).run disk = (.ok [], disk) := by
  have none : ∀ child ∈ (disk.namesIn folder).map path.child,
      isStale disk produced child = false := by
    intro child mem
    obtain ⟨name, named, rfl⟩ := List.mem_map.1 mem
    rw [Bool.eq_false_iff]
    intro stale
    obtain ⟨recognized, file, notProduced⟩ :=
      (isStale_iff leads (legal name named) (noLinks name)).1 stale
    exact notProduced (only name (mem_namesIn_iff.2 ⟨recognized, Option.isSome_iff_exists.1 file⟩))
  have got : (get : Disk.Change DiskError Disk).run disk = (.ok disk, disk) := rfl
  have listed : (liftM (disk.childrenOf path) : Disk.Change DiskError (List FilePath)).run disk =
      (.ok ((disk.namesIn folder).map path.child), disk) := by
    rw [leads.childrenOf]
    rfl
  refine (Disk.run_bind_of_run got).trans ?_
  refine (Disk.run_bind_of_run listed).trans ?_
  exact Disk.run_bind_of_run (removeEach_run_of_none none)

end Line

end Artifact

end ResourceAccessors
