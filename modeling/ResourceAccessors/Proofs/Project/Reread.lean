import Mathlib.Data.List.Induction
import ResourceAccessors.Project.Files
import ResourceAccessors.Proofs.Project.Rewalk

/-!
# Reading a project again

A project reads the same when nothing but new folders was added below it: the rules of its ignore file,
its files, its sources, and its resources.
-/

namespace ResourceAccessors

open FilePath (IsEntryName Component)
open Pattern (IgnoreRules)

/-! ### Paths -/

namespace FilePath

/-- A path through names of entries below a normal folder is that of an entry below it. -/
theorem IsBelow.under {kept : List Component} {path : FilePath} (shape : Kept kept)
    (below : path.IsBelow kept.reverse) : (ofComponents kept.reverse).Under path := by
  obtain ⟨names, legal, nonempty, rfl⟩ := below
  induction names using List.reverseRecOn with
  | nil => exact absurd rfl nonempty
  | append_singleton before last ih =>
    have lastLegal := legal last (by simp)
    have beforeLegal : ∀ name ∈ before, IsEntryName name := fun name mem =>
      legal name (List.mem_append_left _ mem)
    have wellFormed := (shape.append_names beforeLegal).wellFormed_reverse
    rw [List.reverse_append, List.reverse_reverse] at wellFormed
    refine ⟨ofComponents (kept.reverse ++ before.map Component.name), last, ?_, lastLegal, ?_⟩
    · by_cases top : before = []
      · subst top
        simpa using Inside.here
      · exact (ih beforeLegal top).inside
    · rw [child_ofComponents wellFormed lastLegal]
      simp

end FilePath

namespace Disk

/-- What an entry's path leads to depends on the components of the folder only. -/
theorem find?_child_congr {disk : Disk} {one other : FilePath} {name : String}
    (legal : IsEntryName name) (same : one.components = other.components) :
    disk.find? (one.child name) = disk.find? (other.child name) := by
  rw [find?, find?, resolve, resolve, resolveFrom, resolveFrom,
    if_neg (by simpa using one.text_child_ne legal),
    if_neg (by simpa using other.text_child_ne legal), one.steps_child legal,
    other.steps_child legal, same]

end Disk

namespace Project

section Again

variable {before after : Disk} {root path : FilePath} {config : Config}

/-- The rules of the ignore file are those that can be read of it. -/
theorem value_ignoreRules (disk : Disk) (root : FilePath) (config : Config) :
    (ignoreRules disk root config).value =
      if config.ignoresNothing then []
      else
        match disk.readFile (root.child ignoreName) with
        | .ok content => (IgnoreRules.ofFile content).rules
        | .error _ => [] := by
  rw [ignoreRules]
  cases config.ignoresNothing with
  | true => rfl
  | false =>
    cases read : disk.readFile (root.child ignoreName) with
    | error cause =>
      cases disk.exists? (root.child ignoreName) <;> rfl
    | ok content =>
      obtain ⟨location, found⟩ := Disk.readFile_eq_ok_iff.1 read
      have leads : disk.exists? (root.child ignoreName) = true := by
        rw [Disk.exists?, found]
        rfl
      simp only [leads]
      cases (IgnoreRules.ofFile content).isComplete <;> simp

/-- The rules of the ignore file are the same when it reads the same. -/
theorem value_ignoreRules_congr (same : ∀ content,
      after.readFile (root.child ignoreName) = .ok content ↔
        before.readFile (root.child ignoreName) = .ok content) (config : Config) :
    (ignoreRules after root config).value = (ignoreRules before root config).value := by
  rw [value_ignoreRules, value_ignoreRules]
  congr 1
  cases earlier : before.readFile (root.child ignoreName) with
  | ok content => rw [(same content).2 earlier]
  | error cause =>
    cases later : after.readFile (root.child ignoreName) with
    | error _ => rfl
    | ok content =>
      rw [(same content).1 later] at earlier
      cases earlier

/-- The rules of the ignore file are the same. -/
theorem value_ignoreRules_again (alike : before.Alike after root) (config : Config) :
    (ignoreRules after root config).value = (ignoreRules before root config).value :=
  value_ignoreRules_congr (fun _ => alike.readFile_iff .here (by decide)) config

/-- Whether a file below a folder starts a program depends on where libraries stand there. -/
theorem isProgramOf_congr {sourceRoot : FilePath} (under : root.Under path)
    (library : ∀ {base}, root.Inside base → base.components = sourceRoot.components →
      after.isFile (base.child "lib.rs") = before.isFile (base.child "lib.rs")) :
    isProgramOf after sourceRoot path = isProgramOf before sourceRoot path := by
  rw [isProgramOf, isProgramOf]
  cases main : path == sourceRoot.child "main.rs" with
  | false => rfl
  | true =>
    obtain ⟨base, name, inside, legal, rfl⟩ := under
    have components := (FilePath.beq_iff_components _ _).1 main
    rw [base.components_child legal, sourceRoot.components_child (by decide)] at components
    have same := (List.append_inj' components rfl).1
    have named : IsEntryName "lib.rs" := by decide
    have leads := library inside same
    rw [Disk.isFile, Disk.isFile] at leads ⊢
    rw [← Disk.find?_child_congr named same, ← Disk.find?_child_congr named same, leads]

/-- Whether a file starts a program next to a library is the same. -/
theorem isProgramOf_again (alike : before.Alike after root) (under : root.Under path)
    (sourceRoot : FilePath) :
    isProgramOf after sourceRoot path = isProgramOf before sourceRoot path :=
  isProgramOf_congr under fun inside _ => alike.isFile_eq inside (by decide)

/-- A path has the same module again. -/
theorem sourceModule?_again (alike : before.Alike after root) (under : root.Under path)
    (sourceRoots : List FilePath) :
    sourceModule? after sourceRoots path = sourceModule? before sourceRoots path := by
  simp only [sourceModule?, isProgramOf_again alike under]

/-- A file that was read is read again. -/
theorem readFile_eq_of_ok (alike : before.Alike after root) (under : root.Under path)
    {content : ByteArray} (read : before.readFile path = .ok content) :
    after.readFile path = before.readFile path := by
  obtain ⟨base, name, inside, legal, rfl⟩ := under
  rw [read]
  exact (alike.readFile_iff inside legal).2 read

/-- A file that was read reads the same again. -/
theorem readFile_again (alike : before.Alike after root) (under : root.Under path)
    {file : Resource.File} (read : readFile before path = .ok file) :
    readFile after path = .ok file := by
  cases content : before.readFile path with
  | ok bytes => rwa [readFile, readFile_eq_of_ok alike under content]
  | error cause =>
    rw [readFile, content] at read
    cases read

/-- A resource that was read reads the same again. -/
theorem readResource_again (alike : before.Alike after root) (under : root.Under path) {limit : Nat}
    {file : Resource.File} (read : readResource before limit path = .ok file) :
    readResource after limit path = .ok file := by
  cases content : before.readFile path with
  | ok bytes => rwa [readResource, readFile_eq_of_ok alike under content]
  | error cause =>
    rw [readResource, content] at read
    cases read

/-- The sources are the same. -/
theorem readSources_again (alike : before.Alike after root) {paths : List FilePath}
    (under : ∀ path ∈ paths, root.Under path) {sourceRoots : List FilePath}
    {sources : Warned (List Generation.SourceFile)}
    (read : readSources before sourceRoots paths = .ok sources) :
    readSources after sourceRoots paths = .ok sources := by
  induction paths generalizing sources with
  | nil => exact read
  | cons first rest ih =>
    obtain ⟨here, later⟩ := List.forall_mem_cons.1 under
    rw [readSources] at read ⊢
    rw [sourceModule?_again alike here]
    split at read
    next => exact ih later read
    next modulePath defined =>
      obtain ⟨file, readHere, read⟩ := Generation.Step.exists_of_bind_eq_ok read
      obtain ⟨others, readRest, read⟩ := Generation.Step.exists_of_bind_eq_ok read
      simp only [readFile_again alike here readHere, ih later readRest]
      exact read

/-- The resources are the same. -/
theorem mapM_readResource_again (alike : before.Alike after root) {paths : List FilePath}
    (under : ∀ path ∈ paths, root.Under path) {limit : Nat} {files : List Resource.File}
    (read : paths.mapM (readResource before limit) = .ok files) :
    paths.mapM (readResource after limit) = .ok files := by
  induction paths generalizing files with
  | nil => exact read
  | cons first rest ih =>
    obtain ⟨here, later⟩ := List.forall_mem_cons.1 under
    rw [List.mapM_cons] at read ⊢
    obtain ⟨file, readHere, read⟩ := Generation.Step.exists_of_bind_eq_ok read
    obtain ⟨others, readRest, read⟩ := Generation.Step.exists_of_bind_eq_ok read
    rw [readResource_again alike here readHere, ih later readRest]
    exact read

/-- A project is collected again with the same content. -/
theorem collect_again (alike : before.Alike after root.normal) (legalBefore : before.Legal)
    (legal : after.Legal) (tree : before.IsTree) (keeps : before.Keeps after)
    {project : Warned Project} (collected : collect before root config = .ok project) :
    (collect after root config).map Warned.value = .ok project.value := by
  obtain ⟨excluded, compiled, collected⟩ := Generation.Step.exists_of_bind_eq_ok collected
  obtain ⟨paths, walked, collected⟩ := Generation.Step.exists_of_bind_eq_ok collected
  obtain ⟨offered, offering, collected⟩ := Generation.Step.exists_of_bind_eq_ok collected
  obtain ⟨embedded, embedding, collected⟩ := Generation.Step.exists_of_bind_eq_ok collected
  obtain ⟨sources, sourcesRead, collected⟩ := Generation.Step.exists_of_bind_eq_ok collected
  obtain ⟨files, filesRead, collected⟩ := Generation.Step.exists_of_bind_eq_ok collected
  cases collected
  have shape := FilePath.kept_of_wellFormed (FilePath.wellFormed_components root)
  have under : ∀ path ∈ paths, root.normal.Under path := fun path mem =>
    (isBelow_of_mem_filesOf legalBefore shape rfl walked path mem).1.under shape
  have walkedAgain := filesOf_again alike legal tree keeps walked
  rw [← value_ignoreRules_again alike config] at walkedAgain
  have sourcesAgain := readSources_again alike under sourcesRead
  have filesAgain := mapM_readResource_again alike (fun path mem =>
    under path (List.mem_of_mem_filter (List.mem_of_mem_filter mem))) filesRead
  simp only [collect, compiled, walkedAgain, offering, embedding, sourcesAgain, filesAgain, bind,
    Except.bind]
  rfl

end Again

end Project

end ResourceAccessors
