import ResourceAccessors.Proofs.Build.Repetition
import ResourceAccessors.Proofs.Disk.Frame

/-!
# What a build leaves alone

A build that fails for a reason other than the disk has not touched it. Any other build makes the folders
on the way of the artifact folder, and in this folder it touches nothing but artifacts and the cache,
whether it succeeds or fails. A forged cache can make it write elsewhere.
-/

namespace ResourceAccessors

open Disk (Preserves)
open FilePath (IsEntryName)

/-- Whether the disk is the cause of a failure. -/
def Failure.IsOfDisk : Failure → Prop
  | .disk _ => True
  | _ => False

namespace Build

open Generation

/-- A name that a build writes to or removes from an artifact folder: one of an artifact, or the one of
the cache. -/
structure IsOwnName (name : String) : Prop where
  entryName : IsEntryName name
  kind : Artifact.HasSuffix name ∨ name = Stored.cacheName

/-- The cache is one of a build's own names. -/
theorem isOwnName_cacheName : IsOwnName Stored.cacheName :=
  ⟨isEntryName_cacheName, .inr rfl⟩

/-! ### The artifact folder -/

section Folder

variable {before disk : Disk} {path projectDir : FilePath} {artifacts : List Artifact} {state : State}

/-- Writing artifacts, or failing to, touches nothing but artifacts. -/
theorem preserves_writeAll (named : ∀ artifact ∈ artifacts, IsOwnName artifact.name) :
    Preserves (before.TouchesOnly path IsOwnName) (Artifact.writeAll path artifacts) := by
  induction artifacts with
  | nil => exact Disk.preserves_pure _
  | cons artifact rest ih =>
    have later := ih fun other mem => named other (List.mem_cons_of_mem _ mem)
    have own := named artifact List.mem_cons_self
    apply Disk.preserves_get_bind
    intro disk touches
    split
    next => exact later disk touches
    next =>
      exact (Disk.preserves_replaceFile own.entryName own _).bind (fun _ => later.bind fun _ =>
        Disk.preserves_pure _) disk touches

/-- What stands in a folder after changes that touched own names only has a name of an entry. -/
theorem isEntryName_of_touchesOnly (touches : before.TouchesOnly path IsOwnName disk)
    (legal : before.Legal) {folder : Disk.Location} {name : String}
    (mem : name ∈ disk.namesIn folder) : IsEntryName name := by
  rw [Disk.mem_namesIn_iff] at mem
  by_cases same : disk.entry? (name :: folder) = before.entry? (name :: folder)
  · rw [same, ← Disk.mem_namesIn_iff] at mem
    exact legal.namesIn mem
  · obtain ⟨found, parent, location, own, -⟩ := touches.others _ same
    rw [(List.cons.inj location).1]
    exact own.entryName

/-- A stale artifact is a child of the artifact folder with a name of an artifact. -/
theorem exists_of_isStale {produced : List String} {name : String} (legal : IsEntryName name)
    (stale : Artifact.isStale disk produced (path.child name) = true) : IsOwnName name := by
  obtain ⟨recognized, -⟩ := Artifact.isRecognized_of_isStale legal stale
  exact ⟨legal, .inl recognized.2⟩

/-- Removing what is stale keeps what removing each of the stale files keeps. -/
theorem preserves_removeEach {holds : Disk → Prop} {produced : List String} {paths : List FilePath}
    (each : ∀ child ∈ paths, ∀ disk, holds disk → Artifact.isStale disk produced child = true →
      holds ((Disk.removeFile child).run disk).2) :
    Preserves holds (Artifact.removeEach produced paths) := by
  induction paths with
  | nil => exact Disk.preserves_pure _
  | cons first rest ih =>
    have later := ih fun child mem => each child (List.mem_cons_of_mem _ mem)
    apply Disk.preserves_get_bind
    intro disk held
    split
    next stale =>
      have kept := each first List.mem_cons_self disk held stale
      rw [Disk.run_bind]
      split
      next value changed ran =>
        rw [ran] at kept
        exact later.bind (fun _ => Disk.preserves_pure _) changed kept
      next cause changed ran =>
        rw [ran] at kept
        exact kept
    next => exact later disk held

/-- Removing stale artifacts, or failing to, touches nothing but artifacts. -/
theorem preserves_removeStale (legal : before.Legal) (produced : List String) :
    Preserves (before.TouchesOnly path IsOwnName) (Artifact.removeStale path produced) := by
  apply Disk.preserves_get_bind
  intro disk touches
  refine Disk.preserves_lift_bind (fun children listed => ?_) disk touches
  obtain ⟨folder, -, listed⟩ := Step.exists_of_bind_eq_ok listed
  split at listed
  next =>
    cases listed
    refine Preserves.bind (preserves_removeEach fun child mem current held stale => ?_) fun _ =>
      Disk.preserves_pure _
    obtain ⟨name, nameMem, rfl⟩ := List.mem_map.1 mem
    have entryName := isEntryName_of_touchesOnly touches legal nameMem
    exact Disk.preserves_removeFile entryName (exists_of_isStale entryName stale) current held
  next => cases listed

/-- Removing stale artifacts leaves the path leading to the folder: what is removed leads to files. -/
theorem exists_leadsTo_of_removeStale {after : Disk} {produced : List String} {removed : List FilePath}
    (touches : before.TouchesOnly path IsOwnName disk) (legal : before.Legal)
    (ran : (Artifact.removeStale path produced).run disk = (.ok removed, after)) :
    ∃ folder, after.LeadsTo path folder := by
  obtain ⟨found, changed, got, ran⟩ := Disk.exists_of_run_bind ran
  cases got
  obtain ⟨children, listed, ran⟩ := Disk.run_bind_lift ran
  obtain ⟨folder, resolved, listed⟩ := Step.exists_of_bind_eq_ok listed
  split at listed
  next inside =>
    cases listed
    have leads := Disk.leadsTo_of_resolve resolved inside
    obtain ⟨_, cleaned, removes, done⟩ := Disk.exists_of_run_bind ran
    cases done
    refine ⟨folder, ?_⟩
    have keeps : Preserves (fun current => current.LeadsTo path folder)
        (Artifact.removeEach produced ((disk.namesIn folder).map path.child)) := by
      refine preserves_removeEach fun child mem current still stale => ?_
      obtain ⟨name, nameMem, rfl⟩ := List.mem_map.1 mem
      have entryName := isEntryName_of_touchesOnly touches legal nameMem
      obtain ⟨-, file⟩ := Artifact.isRecognized_of_isStale entryName stale
      exact still.spared (Disk.preserves_spares_removeFile still entryName file current (.refl current))
    have kept := keeps disk leads
    rw [removes] at kept
    exact kept
  next => cases listed

/-- Storing the state in a folder that is there touches nothing but the cache. -/
theorem touchesOnly_storeState {folder : Disk.Location}
    (touches : before.TouchesOnly path IsOwnName disk) (leads : disk.LeadsTo path folder) :
    before.TouchesOnly path IsOwnName ((storeState path projectDir state).run disk).2 := by
  rw [storeState_run_eq]
  split
  case isTrue =>
    rw [putCache_run leads]
    exact Disk.preserves_replaceFile isEntryName_cacheName isOwnName_cacheName _ disk touches
  case isFalse =>
    rw [leads.makeFolders_run]
    exact touches

end Folder

/-! ### The steps of a build -/

/-- The steps of a build after its pass. -/
def bringInLine (options : BuildOptions) (artifactDir : FilePath) (outcome : Outcome)
    (tracked : List FilePath) : Step Build := do
  onDisk (Disk.makeFolders artifactDir)
  let written ← onDisk (Artifact.writeAll artifactDir outcome.artifacts)
  let removed ← onDisk (Artifact.removeStale artifactDir (outcome.artifacts.map Artifact.name))
  storeState artifactDir options.projectDir outcome.state
  return ⟨artifactDir, written, removed, tracked, outcome⟩

section Steps

variable {disk after : Disk} {options : BuildOptions} {artifactDir : FilePath} {token : Cancellation}
  {outcome : Outcome} {tracked : List FilePath}

/-- A build touches the disk after its pass only. -/
theorem run_eq_bringInLine (options : BuildOptions) (artifactDir : FilePath) (token : Cancellation)
    (disk : Disk) : (run options artifactDir token).run disk =
      match prepare disk options artifactDir token with
      | .ok (outcome, tracked) => (bringInLine options artifactDir outcome tracked).run disk
      | .error cause => (.error cause, disk) := by
  have got : (get : Step Disk).run disk = (.ok disk, disk) := rfl
  refine (Disk.run_bind_of_run got).trans ?_
  cases prepared : prepare disk options artifactDir token with
  | error cause => rfl
  | ok passed =>
    have lifted : (liftM (Except.ok passed : Except Failure (Outcome × List FilePath)) :
      Step (Outcome × List FilePath)).run disk = (.ok passed, disk) := rfl
    exact Disk.run_bind_of_run lifted

/-- What a change keeps is kept when it is a step of a build. -/
theorem preserves_onDisk {α : Type} {holds : Disk → Prop} {change : Disk.Change DiskError α}
    (preserves : Preserves holds change) : Preserves holds (onDisk change) :=
  preserves

/-- A step that fails because of the disk only. -/
def FailsByDisk {α : Type} (step : Step α) : Prop :=
  ∀ disk cause, (step.run disk).1 = .error cause → cause.IsOfDisk

/-- A change of the disk fails because of the disk only. -/
theorem failsByDisk_onDisk {α : Type} (change : Disk.Change DiskError α) :
    FailsByDisk (onDisk change) := by
  intro disk cause failed
  change (change.run disk).1.mapError Failure.disk = .error cause at failed
  cases outcome : (change.run disk).1 with
  | error found =>
    rw [outcome] at failed
    cases failed
    trivial
  | ok value =>
    rw [outcome] at failed
    cases failed

/-- Steps one after the other fail because of the disk when both do. -/
theorem FailsByDisk.bind {α β : Type} {first : Step α} {next : α → Step β}
    (fails : FailsByDisk first) (onward : ∀ value, FailsByDisk (next value)) :
    FailsByDisk (first >>= next) := by
  intro disk cause failed
  rw [Disk.run_bind] at failed
  split at failed
  next value changed ran => exact onward value changed cause failed
  next found changed ran =>
    obtain rfl : found = cause := Except.error.inj failed
    exact fails disk found (by rw [ran])

/-- After its pass a build fails because of the disk only. -/
theorem failsByDisk_bringInLine : FailsByDisk (bringInLine options artifactDir outcome tracked) := by
  have stores : FailsByDisk (storeState artifactDir options.projectDir outcome.state) := by
    intro disk cause failed
    rw [storeState_run_eq] at failed
    cases failed
  exact (failsByDisk_onDisk _).bind fun _ => (failsByDisk_onDisk _).bind fun _ =>
    (failsByDisk_onDisk _).bind fun _ => stores.bind fun _ _ _ failed => nomatch failed

/-- After its pass a build makes folders on the way of the artifact folder, and touches nothing in it but
artifacts and the cache. -/
theorem exists_touchesOnly_bringInLine (legal : disk.Legal)
    (named : ∀ artifact ∈ outcome.artifacts, IsOwnName artifact.name) :
    ∃ made, disk.MadeOn artifactDir made ∧ made.TouchesOnly artifactDir IsOwnName
      ((bringInLine options artifactDir outcome tracked).run disk).2 := by
  have madeOn := Disk.madeOn_makeFolders artifactDir disk
  refine ⟨((Disk.makeFolders artifactDir).run disk).2, madeOn, ?_⟩
  have here : (onDisk (Disk.makeFolders artifactDir)).run disk =
      (((Disk.makeFolders artifactDir).run disk).1.mapError Failure.disk,
        ((Disk.makeFolders artifactDir).run disk).2) := rfl
  rw [bringInLine, Disk.run_bind, here]
  generalize ((Disk.makeFolders artifactDir).run disk).2 = made at madeOn
  generalize ((Disk.makeFolders artifactDir).run disk).1.mapError Failure.disk = told
  cases told with
  | ok value =>
    have writes : Preserves (made.TouchesOnly artifactDir IsOwnName)
        (onDisk (Artifact.writeAll artifactDir outcome.artifacts)) :=
      preserves_onDisk (preserves_writeAll named)
    have removes : Preserves (made.TouchesOnly artifactDir IsOwnName)
        (onDisk (Artifact.removeStale artifactDir (outcome.artifacts.map Artifact.name))) :=
      preserves_onDisk (preserves_removeStale (madeOn.grows.legal legal) _)
    refine writes.bind (fun _ => removes.bind_of_run ?_) made (.refl _ _ made)
    intro wrote removed cleaned touches ran cleans
    obtain ⟨folder, leads⟩ := exists_leadsTo_of_removeStale touches (madeOn.grows.legal legal)
      (run_of_run_onDisk ran)
    rw [Disk.run_bind_of_run (storeState_run_eq ..)]
    exact touchesOnly_storeState cleans leads
  | error cause => exact .refl _ _ made

/-- The artifacts of a pass that starts from a sound state have names of artifacts. -/
theorem isOwnName_of_prepare (legal : disk.Legal)
    (cache : CacheOfHistory disk artifactDir options.projectDir)
    (prepared : prepare disk options artifactDir token = .ok (outcome, tracked)) :
    ∀ artifact ∈ outcome.artifacts, IsOwnName artifact.name := by
  intro artifact mem
  obtain ⟨input, read, steps⟩ := steps_of_prepare prepared
  have isName := (steps.places cache.sound).isName (namedPlainly_of_inputOf legal read) _
    (List.mem_map_of_mem mem)
  exact ⟨isName.entryName, .inl isName.recognized.2⟩

/-- A build makes folders on the way of the artifact folder only, and touches nothing in this folder but
artifacts and the cache. -/
theorem exists_touchesOnly_of_run {result : Except Failure Build} (legal : disk.Legal)
    (cache : CacheOfHistory disk artifactDir options.projectDir)
    (ran : (run options artifactDir token).run disk = (result, after)) :
    ∃ made, disk.MadeOn artifactDir made ∧ made.TouchesOnly artifactDir IsOwnName after := by
  rw [run_eq_bringInLine] at ran
  split at ran
  next outcome tracked prepared =>
    have reached : after = ((bringInLine options artifactDir outcome tracked).run disk).2 := by
      rw [ran]
    rw [reached]
    exact exists_touchesOnly_bringInLine legal (isOwnName_of_prepare legal cache prepared)
  next cause prepared =>
    cases ran
    exact ⟨disk, .refl _ disk, .refl _ _ disk⟩

/-- What does not stand in the artifact folder stays as it is when the folder is there. -/
theorem entry?_eq_of_run {result : Except Failure Build} {folder location : Disk.Location}
    (legal : disk.Legal) (cache : CacheOfHistory disk artifactDir options.projectDir)
    (ran : (run options artifactDir token).run disk = (result, after))
    (leads : disk.LeadsTo artifactDir folder) (plain : artifactDir.plain = artifactDir)
    (outside : location.tail ≠ folder) : after.entry? location = disk.entry? location := by
  obtain ⟨made, madeOn, touches⟩ := exists_touchesOnly_of_run legal cache ran
  rw [← madeOn.entry?_eq leads plain]
  by_contra differs
  obtain ⟨name, parent, rfl, -, opens⟩ := touches.others location differs
  exact outside (opens.eq (leads.mono madeOn.grows.keeps).opens)

end Steps

/-! ### Builds -/

/-- A build that fails for a reason other than the disk leaves the disk as it is. Any other build makes
folders on the way of the artifact folder only, and touches nothing in this folder but artifacts and the
cache, whichever earlier build saved the cache there. -/
theorem run_touches_only_own {disk after : Disk} {options : BuildOptions} {artifactDir : FilePath}
    {token : Cancellation} {result : Except Failure Build} (legal : disk.Legal)
    (ran : (run options artifactDir token).run disk = (result, after)) :
    (∀ cause, result = .error cause → ¬ cause.IsOfDisk → after = disk) ∧
    (CacheOfHistory disk artifactDir options.projectDir →
      ∃ made, disk.MadeOn artifactDir made ∧ made.TouchesOnly artifactDir IsOwnName after) := by
  refine ⟨?_, fun cache => exists_touchesOnly_of_run legal cache ran⟩
  rw [run_eq_bringInLine] at ran
  split at ran
  next outcome tracked prepared =>
    rintro cause rfl notDisk
    exact absurd (failsByDisk_bringInLine disk cause (by rw [ran])) notDisk
  next cause prepared =>
    cases ran
    exact fun _ _ _ => rfl

/-- A build of the crate makes the artifact folder and touches nothing but its artifacts and its cache. When
it is cancelled at once, it leaves the disk as it is. -/
theorem run_touches_only_own_notesCrate :
    (∃ build after made, (run crateOptions ⟨"/out"⟩ .never).run notesCrate = (.ok build, after) ∧
      build.written.length = 3 ∧ notesCrate.MadeOn ⟨"/out"⟩ made ∧
      made.TouchesOnly ⟨"/out"⟩ IsOwnName after) ∧
    (run crateOptions ⟨"/out"⟩ .immediate).run notesCrate = (.error .cancelled, notesCrate) := by
  have legal : notesCrate.Legal := ⟨by decide +kernel, by decide⟩
  constructor
  · have checked : succeedsWith crateOptions ⟨"/out"⟩ notesCrate fun build _ =>
        build.written.length = 3 := by
      decide +kernel
    obtain ⟨build, after, ran, written⟩ := exists_of_succeedsWith checked
    obtain ⟨made, madeOn, touches⟩ :=
      (run_touches_only_own legal ran).2 (cacheOfHistory_of_absent (by decide +kernel))
    exact ⟨build, after, made, ran, of_decide_eq_true written, madeOn, touches⟩
  · have cancelled : (match (run crateOptions ⟨"/out"⟩ .immediate).run notesCrate with
        | (.error .cancelled, _) => true
        | _ => false) = true := by
      decide +kernel
    split at cancelled
    next after ran =>
      rw [ran, (run_touches_only_own legal ran).1 _ rfl id]
    next => cases cancelled

/-! ### A forged cache -/

/-- An artifact whose name leads out of the artifact folder. -/
def stray : List Artifact :=
  [⟨"../stray.txt", "one"⟩]

/-- A state that no pass leaves: the artifact of its last step has a name that no entry can have. -/
def strayState : State where
  extraction := .empty
  plans := .empty
  artifacts := .empty
  manifest := Keyed.empty.insert manifestKey ⟨⟨[], ⟨"/crate"⟩, []⟩, stray⟩

/-- An empty crate, and an artifact folder with a cache of this state. -/
def strayCache : Disk where
  entries := [(["crate"], .folder), (["out"], .folder),
    (["index-v1.json", "out"],
      .file (Stored.writeCache (Stored.cacheKey crateOptions.projectDir) strayState))]
  distinct := by decide
  working := []

/-- A build that finds the cache writes the artifact next to the artifact folder. -/
theorem exists_run_strayCache : ∃ build after,
    (run crateOptions ⟨"/out"⟩ .never).run strayCache = (.ok build, after) ∧
      after.fileAt? ["stray.txt"] = some "one".toUTF8 := by
  have leads : strayCache.LeadsTo ⟨"/out"⟩ ["out"] := by decide +kernel
  have stored : storedState strayCache ⟨"/out"⟩ crateOptions.projectDir = strayState :=
    storedState_of_fileAt leads (by decide +kernel) rfl
  obtain ⟨outcome, tracked, prepared, artifacts, storable⟩ : ∃ outcome tracked,
      prepare strayCache crateOptions ⟨"/out"⟩ .never = .ok (outcome, tracked) ∧
        outcome.artifacts = stray ∧ Stored.isStorable outcome.state = true :=
    exists_prepare_of_storedState stored (by decide +kernel)
  have checked : (match (Artifact.writeAll ⟨"/out"⟩ stray).run strayCache with
      | (.ok _, wrote) =>
        match (Artifact.removeStale ⟨"/out"⟩ (stray.map Artifact.name)).run wrote with
        | (.ok _, cleaned) => decide (cleaned.LeadsTo ⟨"/out"⟩ ["out"] ∧
            cleaned.isFolderAt [Stored.cacheName, "out"] = false ∧
            cleaned.fileAt? ["stray.txt"] = some "one".toUTF8)
        | (.error _, _) => false
      | (.error _, _) => false) = true := by
    decide +kernel
  split at checked
  next written wrote writes =>
    split at checked
    next removed cleaned removes =>
      obtain ⟨leadsCleaned, free, file⟩ := of_decide_eq_true checked
      rw [← artifacts] at writes removes
      refine ⟨⟨⟨"/out"⟩, written, removed, tracked, outcome⟩, _, Succeeds.run_eq
        ⟨rfl, prepared, leads.makeFolders_run, writes, removes, 
          storeState_run leadsCleaned free storable⟩, ?_⟩
      rw [Disk.fileAt?_eq_some_iff, Disk.entry?_put_other cleaned (by decide)]
      exact Disk.fileAt?_eq_some_iff.1 file
    next => cases checked
  next => cases checked

/-- With a forged cache a build that succeeds can write a file that is neither an artifact nor in the
artifact folder. -/
theorem not_run_touches_only_own : strayCache.Legal ∧ strayCache.entry? ["stray.txt"] = none ∧
    ∃ build after, (run crateOptions ⟨"/out"⟩ .never).run strayCache = (.ok build, after) ∧
      after.fileAt? ["stray.txt"] = some "one".toUTF8 ∧
      ¬ ∃ made, strayCache.MadeOn ⟨"/out"⟩ made ∧ made.TouchesOnly ⟨"/out"⟩ IsOwnName after := by
  obtain ⟨build, after, ran, file⟩ := exists_run_strayCache
  refine ⟨⟨by decide +kernel, by decide⟩, rfl, build, after, ran, file, ?_⟩
  rintro ⟨made, madeOn, touches⟩
  have differs : after.entry? ["stray.txt"] ≠ made.entry? ["stray.txt"] := by
    rw [Disk.fileAt?_eq_some_iff.1 file]
    intro stands
    rcases madeOn.grows.added _ _ stands.symm with before | folder
    · cases before
    · cases folder
  obtain ⟨name, folder, location, own, -⟩ := touches.others _ differs
  obtain rfl := (List.cons.inj location).1
  exact absurd own.kind (by decide)

end Build

end ResourceAccessors
