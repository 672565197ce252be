import ResourceAccessors.Proofs.Artifact.Output
import ResourceAccessors.Proofs.Build.History
import ResourceAccessors.Proofs.Disk.Linkless
import ResourceAccessors.Proofs.Generation.ArtifactNames
import ResourceAccessors.Proofs.Project.Sources

/-!
# Builds converge

Whatever an artifact folder held before, a build that succeeds leaves in it the artifacts of its pass
and no others, and tells exactly what it wrote and removed. What is stored of earlier builds has no
influence on this. A file with a name that is not text counts as nobody's artifact, however it ends.
-/

namespace ResourceAccessors

open Disk (Location)

/-- What stands in the folder that a path leads to, once it is made, is made of files and folders. -/
def Disk.HoldsNoLinks (disk : Disk) (path : FilePath) : Prop :=
  ∀ made folder, (makeFolders path).run disk = (.ok (), made) → made.resolve path = .ok folder →
    ∀ name target, disk.entry? (name :: folder) ≠ some (.link target)

/-- A disk without links has none in any folder. -/
theorem Disk.holdsNoLinks_of_entries {disk : Disk} {path : FilePath}
    (linkless : ∀ found ∈ disk.entries, found.2.linkTarget?.isNone = true) : disk.HoldsNoLinks path := by
  intro made folder _ _ name target stands
  have absent := linkless _ (mem_entries_of_stands (by simp) stands)
  cases absent

namespace Build

open Generation

/-- What is left of a build that succeeds: on the disk `after` the folder at `folder` holds the
artifacts of the pass, and what the build tells is the difference to the disk `before`. -/
structure Converges (build : Build) (before after : Disk) (folder : Location) : Prop where
  /-- The files with names that are text and end as those of artifacts do are the artifacts of the pass. -/
  names : (Artifact.namesIn after folder).Perm (build.outcome.artifacts.map Artifact.name)
  /-- Every artifact reads as its text. -/
  texts : ∀ artifact ∈ build.outcome.artifacts,
    after.readText (build.artifactDir.child artifact.name) = .ok artifact.text
  /-- The index includes every other artifact, and these only. -/
  index : ∃ others,
    (build.outcome.artifacts.map Artifact.name).Perm (Artifact.indexName :: others) ∧
    ⟨Artifact.indexName, Render.unlines (Render.header ++ others.map Render.includeLine)⟩ ∈
      build.outcome.artifacts
  /-- What was different or missing is told as written. -/
  written : build.written =
    (build.outcome.artifacts.filter fun artifact => ¬ artifact.StandsIn before folder).map
      fun artifact => build.artifactDir.child artifact.name
  /-- What was there and is not produced any more is told as removed. -/
  removed : build.removed.Perm
    ((Artifact.staleNames before folder (build.outcome.artifacts.map Artifact.name)).map
      build.artifactDir.child)

/-! ### The artifacts of a build -/

section Artifacts

variable {disk : Disk} {options : BuildOptions} {input : Input}

/-- The declarations of a crate are shown plainly. -/
theorem namedPlainly_of_inputOf (legal : disk.Legal)
    (read : inputOf disk options = .ok input) : ∀ site ∈ input.declared, site.NamedPlainly := by
  obtain ⟨config, -, read⟩ := Step.exists_of_bind_eq_ok read
  obtain ⟨project, collected, read⟩ := Step.exists_of_bind_eq_ok read
  cases read
  exact Input.namedPlainly_of_mem_declared (Project.plain_of_mem_modulePath legal collected)

/-- The index of a pass includes every other artifact. -/
theorem exists_index {outcome : Outcome} {placements : List Placement}
    (places : outcome.Places input placements) : ∃ others,
      (outcome.artifacts.map Artifact.name).Perm (Artifact.indexName :: others) ∧
      ⟨Artifact.indexName, Render.unlines (Render.header ++ others.map Render.includeLine)⟩ ∈
        outcome.artifacts := by
  refine ⟨Artifact.manifestName :: outcome.siteArtifacts.map Artifact.name, ?_, ?_⟩
  · rw [places.names_artifacts]
    exact List.perm_append_comm.trans (.swap _ _ _)
  · obtain ⟨text, artifacts⟩ := places.artifacts
    rw [artifacts]
    exact List.mem_append_right _ (List.mem_cons_of_mem _ List.mem_cons_self)

end Artifacts

/-! ### The disk after a build -/

section Disks

variable {disk made wrote cleaned after : Disk} {options : BuildOptions} {artifactDir : FilePath}
  {token : Cancellation} {build : Build} {folder : Location}

/-- A build that succeeds has an artifact folder with a path that is not empty. -/
theorem Succeeds.text_ne
    (succeeds : Succeeds options artifactDir token disk made wrote cleaned after build) :
    artifactDir.text ≠ "" := by
  intro empty
  obtain ⟨found, changed, got, ran⟩ := Disk.exists_of_run_bind succeeds.removes
  cases got
  obtain ⟨children, listed, -⟩ := Disk.run_bind_lift ran
  obtain ⟨location, resolved, -⟩ := Step.exists_of_bind_eq_ok listed
  rw [Disk.resolve, Disk.resolveFrom, empty] at resolved
  cases resolved

/-- The name of the cache is one of an entry. -/
theorem isEntryName_cacheName : FilePath.IsEntryName Stored.cacheName := by
  decide

/-- Where the artifact folder is there, its cache is replaced and nothing else happens. -/
theorem putCache_run (leads : disk.LeadsTo artifactDir folder) (content : ByteArray) :
    (putCache artifactDir content).run disk =
      (Disk.replaceFile (cachePath artifactDir) content).run disk := by
  rw [putCache]
  exact Disk.run_bind_of_run leads.makeFolders_run

/-- Saving a state succeeds, whatever becomes of the cache. -/
theorem save_run_eq (artifactDir : FilePath) (key : String) (state : State) (disk : Disk) :
    (save artifactDir key state).run disk =
      (.ok (), ((if Stored.isStorable state then putCache artifactDir (Stored.writeCache key state)
        else Disk.makeFolders artifactDir).run disk).2) :=
  rfl

/-- Storing the state of a pass succeeds. -/
theorem storeState_run_eq (artifactDir projectDir : FilePath) (state : State) (disk : Disk) :
    (storeState artifactDir projectDir state).run disk =
      (.ok (), ((if Stored.isStorable state then
          putCache artifactDir (Stored.writeCache (Stored.cacheKey projectDir) state)
        else Disk.makeFolders artifactDir).run disk).2) :=
  save_run_eq ..

/-- Storing the state puts a new cache where no folder stands, or leaves the disk as it is. -/
theorem storeState_cases {projectDir : FilePath} {state : State}
    (leads : cleaned.LeadsTo artifactDir folder)
    (ran : (storeState artifactDir projectDir state).run cleaned = (.ok (), after)) :
    after = cleaned ∨ cleaned.isFolderAt (Stored.cacheName :: folder) = false ∧
      after = cleaned.put (Stored.cacheName :: folder)
        (.file (Stored.writeCache (Stored.cacheKey projectDir) state)) := by
  rw [storeState_run_eq] at ran
  obtain rfl := (Prod.mk.inj ran).2
  split
  case isTrue =>
    rw [putCache_run leads]
    cases replaced : (Disk.replaceFile (cachePath artifactDir)
      (Stored.writeCache (Stored.cacheKey projectDir) state)).run cleaned with
    | mk result changed =>
      cases result with
      | ok _ =>
        obtain ⟨-, notFolder, rfl⟩ := leads.eq_of_replaceFile isEntryName_cacheName replaced
        exact .inr ⟨notFolder, rfl⟩
      | error cause => exact .inl (Disk.eq_of_replaceFile_error replaced)
  case isFalse => exact .inl (by rw [leads.makeFolders_run])

/-- Storing the state touches nothing but the cache, and makes no link. -/
theorem entry?_of_storeState {projectDir : FilePath} {state : State}
    (leads : cleaned.LeadsTo artifactDir folder)
    (noLink : ∀ target, cleaned.entry? (Stored.cacheName :: folder) ≠ some (.link target))
    (ran : (storeState artifactDir projectDir state).run cleaned = (.ok (), after)) :
    (∀ location, location ≠ Stored.cacheName :: folder →
      after.entry? location = cleaned.entry? location) ∧
    (∀ location target, after.entry? location = some (.link target) →
      cleaned.entry? location = some (.link target)) ∧ cleaned.Keeps after := by
  rcases storeState_cases leads ran with rfl | ⟨notFolder, rfl⟩
  · exact ⟨fun _ _ => rfl, fun _ _ stands => stands, .refl _⟩
  · have elsewhere : ∀ location, location ≠ Stored.cacheName :: folder →
        Disk.entry? (cleaned.put (Stored.cacheName :: folder)
          (.file (Stored.writeCache (Stored.cacheKey projectDir) state))) location =
            cleaned.entry? location :=
      fun location differs => Disk.entry?_put_other cleaned differs _
    refine ⟨elsewhere, ?_,
      Disk.keeps_of_other (Disk.isFileOrFree notFolder noLink) elsewhere rfl⟩
    intro location target stands
    by_cases own : location = Stored.cacheName :: folder
    · rw [own, Disk.entry?_put_self cleaned (by simp)] at stands
      cases stands
    · rw [← elsewhere location own]
      exact stands

/-- An artifact that stands in a folder reads as its text. -/
theorem readText_of_standsIn {artifact : Artifact} (leads : disk.LeadsTo artifactDir folder)
    (entryName : FilePath.IsEntryName artifact.name)
    (short : FilePath.byteSize artifact.name ≤ Disk.maxNameSize)
    (stands : artifact.StandsIn disk folder) :
    disk.readText (artifactDir.child artifact.name) = .ok artifact.text := by
  have noLink : ∀ target, disk.entry? (artifact.name :: folder) ≠ some (.link target) := by
    rw [Disk.fileAt?_eq_some_iff.1 stands]
    exact fun _ absurd => nomatch absurd
  have reads := (leads.readFile_child_iff entryName noLink).2 ⟨short, stands⟩
  rw [Disk.readText, reads]
  simp only [bind, Except.bind, fromUTF8?_toUTF8]
  rfl

/-- Writing and removing brings the artifact folder of a build in line. -/
theorem Succeeds.inLine_cleaned
    (succeeds : Succeeds options artifactDir token disk made wrote cleaned after build)
    (legal : disk.Legal) (leads : made.LeadsTo artifactDir folder)
    (noLinks : ∀ name target, disk.entry? (name :: folder) ≠ some (.link target))
    (distinct : (build.outcome.artifacts.map Artifact.name).Nodup)
    (named : ∀ artifact ∈ build.outcome.artifacts, FilePath.IsEntryName artifact.name) :
    Artifact.InLine artifactDir folder build.outcome.artifacts made cleaned build.written
      build.removed := by
  obtain ⟨grows, -⟩ := Disk.leadsTo_of_makeFolders succeeds.makes
  exact Artifact.inLine_of_run leads (grows.legal legal) distinct named
    (fun name target stands => noLinks name target (grows.link_of_link stands))
    succeeds.writes succeeds.removes

/-- A build that succeeds brings the artifact folder in line, and its cache leaves it so. -/
theorem Succeeds.inLine
    (succeeds : Succeeds options artifactDir token disk made wrote cleaned after build)
    (legal : disk.Legal) (leads : made.LeadsTo artifactDir folder)
    (noLinks : ∀ name target, disk.entry? (name :: folder) ≠ some (.link target))
    (distinct : (build.outcome.artifacts.map Artifact.name).Nodup)
    (named : ∀ artifact ∈ build.outcome.artifacts, Artifact.IsName artifact.name) :
    Artifact.InLine artifactDir folder build.outcome.artifacts disk after build.written
      build.removed ∧ after.LeadsTo artifactDir folder := by
  obtain ⟨grows, -⟩ := Disk.leadsTo_of_makeFolders succeeds.makes
  have line := succeeds.inLine_cleaned legal leads noLinks distinct fun artifact mem =>
    (named artifact mem).entryName
  have ends := leads.mono line.keeps
  obtain ⟨elsewhere, links, keeps⟩ :=
    entry?_of_storeState ends (line.noLinks Stored.cacheName) succeeds.stores
  have spared : ∀ name, Artifact.IsRecognized name →
      after.entry? (name :: folder) = cleaned.entry? (name :: folder) := by
    intro name recognized
    apply elsewhere
    intro cacheName
    rw [(List.cons.inj cacheName).1] at recognized
    exact absurd recognized (by decide)
  exact ⟨(line.since grows.keeps grows.fileAt?_eq).spared keeps
    (fun artifact mem => (named artifact mem).recognized) spared links, ends.mono keeps⟩

end Disks

/-- A build that succeeds leaves the artifacts of its pass in the artifact folder, whatever stood there
before and whichever earlier build saved the cache there. -/
theorem run_converges {disk after : Disk} {options : BuildOptions} {artifactDir : FilePath}
    {token : Cancellation} {build : Build} (legal : disk.Legal)
    (noLinks : disk.HoldsNoLinks artifactDir)
    (cache : CacheOfHistory disk artifactDir options.projectDir)
    (avoids : ∀ input, inputOf disk options = .ok input → input.AvoidsReserved)
    (ran : (run options artifactDir token).run disk = (.ok build, after)) :
    ∃ folder, after.resolve artifactDir = .ok folder ∧
      (∀ location, disk.resolve artifactDir = .ok location → location = folder) ∧
      build.Converges disk after folder := by
  obtain ⟨made, wrote, cleaned, succeeds⟩ := exists_succeeds ran
  obtain ⟨grows, leads⟩ := Disk.leadsTo_of_makeFolders succeeds.makes
  obtain ⟨folder, leads⟩ := leads succeeds.text_ne
  obtain ⟨input, read, steps⟩ := steps_of_prepare succeeds.prepares
  have places := steps.places cache.sound
  have named : ∀ artifact ∈ build.outcome.artifacts, Artifact.IsName artifact.name :=
    fun artifact mem =>
      places.isName (namedPlainly_of_inputOf legal read) _ (List.mem_map_of_mem mem)
  have distinct := places.nodup_names_iff.2 (avoids input read)
  obtain ⟨line, ends⟩ := succeeds.inLine legal leads
    (noLinks made folder succeeds.makes leads.resolve) distinct named
  have place : build.artifactDir = artifactDir := succeeds.place
  refine ⟨folder, ends.resolve, ?_, ?_⟩
  · intro location resolved
    have again := grows.resolve resolved
    rw [leads.resolve] at again
    exact (Except.ok.inj again).symm
  · constructor
    case names => exact line.namesIn_perm distinct fun artifact mem => (named artifact mem).recognized
    case texts =>
      intro artifact mem
      rw [place]
      exact readText_of_standsIn ends (named artifact mem).entryName (line.short artifact mem)
        (line.stand artifact mem)
    case index => exact exists_index places
    case written =>
      rw [place]
      exact line.told
    case removed =>
      rw [place]
      exact line.removed

/-! ### Builds that are run -/

/-- The declarations that a build reads have no reserved names when all of them are checked. -/
theorem avoidsReserved_of_checked {disk : Disk} {options : BuildOptions}
    (checked : (inputOf disk options).toOption.all fun input =>
      input.declared.all fun site =>
        decide (Artifact.nameFor site.display ∉ Artifact.reservedNames)) :
    ∀ input, inputOf disk options = .ok input → input.AvoidsReserved := by
  intro input read site declared
  rw [read] at checked
  simpa using List.all_eq_true.1 checked site declared

/-- Whether a build succeeds, and a test holds of it and of the disk that it leaves. -/
def succeedsWith (options : BuildOptions) (artifactDir : FilePath) (disk : Disk)
    (holds : Build → Disk → Bool) : Bool :=
  match (run options artifactDir .never).run disk with
  | (.ok build, after) => holds build after
  | (.error _, _) => false

/-- A build that is checked by running it succeeds, and what was checked holds. -/
theorem exists_of_succeedsWith {options : BuildOptions} {artifactDir : FilePath} {disk : Disk}
    {holds : Build → Disk → Bool} (checked : succeedsWith options artifactDir disk holds = true) :
    ∃ build after, (run options artifactDir .never).run disk = (.ok build, after) ∧
      holds build after = true := by
  rw [succeedsWith] at checked
  split at checked
  next build after ran => exact ⟨build, after, ran, checked⟩
  next => cases checked

/-- A crate with one declared type, and an artifact folder with what earlier builds left: an artifact
that was edited, one that is stale, a cache that was cut off, and two files of someone else. The name of one
of these ends as those of artifacts do, but is not text. -/
def leftovers : Disk where
  entries := [(["crate"], .folder), (["src", "crate"], .folder),
    (["lib.rs", "src", "crate"],
      .file "#[embedded_resource_properties]\npub struct Notes;\n".toUTF8),
    (["out"], .folder), (["Notes.g.rs", "out"], .file "edited".toUTF8),
    (["Gone.g.rs", "out"], .file "stale".toUTF8), (["index-v1.json", "out"], .file "\x7b".toUTF8),
    (["notes.txt", "out"], .file "kept".toUTF8), (["\x00ÿ.g.rs", "out"], .file "stray".toUTF8)]
  distinct := by decide
  working := []

/-- The options of a build of the crate. -/
def crateOptions : BuildOptions :=
  ⟨false, ⟨"/crate"⟩, "Demo"⟩

/-- The names in the crate and in the artifact folder are names of entries. -/
theorem legal_leftovers : leftovers.Legal :=
  ⟨by decide +kernel, by decide⟩

/-- The artifact folder holds files only. -/
theorem holdsNoLinks_leftovers : leftovers.HoldsNoLinks ⟨"/out"⟩ :=
  Disk.holdsNoLinks_of_entries (by decide +kernel)

/-- The cache that was cut off is of no use. -/
theorem cacheOfHistory_leftovers :
    CacheOfHistory leftovers ⟨"/out"⟩ crateOptions.projectDir := by
  have unusable : (leftovers.readFile (cachePath ⟨"/out"⟩)).toOption.all fun content =>
      (Stored.readCache (Stored.cacheKey crateOptions.projectDir) content).isNone := by
    decide +kernel
  intro content found
  rw [found] at unusable
  exact .inl (by simpa [Except.toOption] using unusable)

/-- The declared type has no reserved name. -/
theorem avoidsReserved_leftovers :
    ∀ input, inputOf leftovers crateOptions = .ok input → input.AvoidsReserved :=
  avoidsReserved_of_checked (by decide +kernel)

/-- A build of the crate writes its three artifacts, removes the stale one, and leaves the file whose name
is not text. -/
theorem exists_run_leftovers : ∃ build after,
    (run crateOptions ⟨"/out"⟩ .never).run leftovers = (.ok build, after) ∧
      build.written.length = 3 ∧ build.removed.length = 1 ∧ after.LeadsTo ⟨"/out"⟩ ["out"] ∧
      "\x00ÿ.g.rs" ∉ build.outcome.artifacts.map Artifact.name ∧
      "\x00ÿ.g.rs" ∈ (after.namesIn ["out"]).filter fun name =>
        Artifact.HasSuffix name ∧ (after.fileAt? [name, "out"]).isSome := by
  have checked : succeedsWith crateOptions ⟨"/out"⟩ leftovers fun build after =>
      build.written.length = 3 ∧ build.removed.length = 1 ∧ after.LeadsTo ⟨"/out"⟩ ["out"] ∧
        "\x00ÿ.g.rs" ∉ build.outcome.artifacts.map Artifact.name ∧
        "\x00ÿ.g.rs" ∈ (after.namesIn ["out"]).filter fun name =>
          Artifact.HasSuffix name ∧ (after.fileAt? [name, "out"]).isSome := by
    decide +kernel
  obtain ⟨build, after, ran, holds⟩ := exists_of_succeedsWith checked
  exact ⟨build, after, ran, of_decide_eq_true holds⟩

/-- A build of the crate writes its three artifacts and removes the stale one. -/
theorem run_converges_leftovers :
    ∃ build after folder,
      (run crateOptions ⟨"/out"⟩ .never).run leftovers = (.ok build, after) ∧
      after.resolve ⟨"/out"⟩ = .ok folder ∧ build.Converges leftovers after folder ∧
      build.written.length = 3 ∧ build.removed.length = 1 := by
  obtain ⟨build, after, ran, written, removed, -⟩ := exists_run_leftovers
  obtain ⟨folder, leads, -, converges⟩ := run_converges legal_leftovers holdsNoLinks_leftovers
    cacheOfHistory_leftovers avoidsReserved_leftovers ran
  exact ⟨build, after, folder, ran, leads, converges, written, removed⟩

/-- A build of the crate leaves the file whose name is not text, so the files whose names end as those of
artifacts do are not the artifacts of the pass. -/
theorem not_names_perm_leftovers :
    leftovers.Legal ∧ leftovers.HoldsNoLinks ⟨"/out"⟩ ∧
    CacheOfHistory leftovers ⟨"/out"⟩ crateOptions.projectDir ∧
    (∀ input, inputOf leftovers crateOptions = .ok input → input.AvoidsReserved) ∧
    ∃ build after, (run crateOptions ⟨"/out"⟩ .never).run leftovers = (.ok build, after) ∧
      after.LeadsTo ⟨"/out"⟩ ["out"] ∧
      ¬ ((after.namesIn ["out"]).filter fun name =>
        Artifact.HasSuffix name ∧ (after.fileAt? [name, "out"]).isSome).Perm
          (build.outcome.artifacts.map Artifact.name) := by
  obtain ⟨build, after, ran, -, -, leads, notProduced, stands⟩ := exists_run_leftovers
  exact ⟨legal_leftovers, holdsNoLinks_leftovers, cacheOfHistory_leftovers, avoidsReserved_leftovers,
    build, after, ran, leads, fun same => notProduced (same.mem_iff.1 stands)⟩

end Build

end ResourceAccessors
