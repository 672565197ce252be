import Mathlib
import ResourceAccessors.Build
import ResourceAccessors.Proofs.Disk.Change
import ResourceAccessors.Proofs.Generation.Soundness
import ResourceAccessors.Proofs.Stored.RoundTrip

/-!
# What a build starts from

A cache is read as the state that a generator with the same key stored in it. From this follow the steps
of a build that succeeds and the state that it starts from: the cache of an earlier build holds the state
that this build ended with, so the stored state is sound after any number of builds.
-/

namespace ResourceAccessors.Stored

open Generation

/-- A natural number is read back from its digits. -/
theorem natural_ofNat (value : Nat) : natural (.ofNat value) = some value := by
  have digits : value.repr.toList.all Char.isDigit = true := by
    rw [List.all_eq_true, Nat.toList_repr]
    intro digit mem
    exact Nat.isDigit_of_mem_toDigits (by decide) (by decide) mem
  rw [Json.ofNat, natural, Nat.toString_eq_repr, if_pos digits, Nat.toNat?_repr]

/-- A cache has no field twice and no fractions. -/
theorem isPlain_ofCache (key : String) (state : State) : Json.IsPlain (ofCache key state) := by
  have version : Json.IsNumeral (toString schemaVersion) :=
    ⟨'1', [], by decide, by decide, by simp⟩
  refine .object ?_
  intro field mem
  simp only [List.mem_cons, List.not_mem_nil, or_false] at mem
  rcases mem with rfl | rfl | rfl
  · exact .number version
  · exact .string key
  · exact faithful_state.plain state

/-- A cache that was written under a key is read under this key only. -/
theorem readCache_writeCache (key other : String) (stored : State) :
    readCache key (writeCache other stored) = if other = key then some stored else none := by
  have fields : structureFields ["schema_version", "cache_key", "state"] (ofCache other stored) =
      some [Json.ofNat schemaVersion, .string other, ofState stored] := by
    simp [structureFields, ofCache, fieldsNamed, fieldNamed]
  simp only [readCache, writeCache, Json.ofBytes?_print (isPlain_ofCache other stored),
    Option.bind_some, cachedState, fields]
  simp [natural_ofNat, text, faithful_state.reads]

/-- What is read from a cache is what was written to it. -/
theorem eq_of_readCache_writeCache {key other : String} {stored found : State}
    (read : readCache key (writeCache other stored) = some found) : found = stored := by
  rw [readCache_writeCache] at read
  split at read
  · exact (Option.some.inj read).symm
  · cases read

end ResourceAccessors.Stored

namespace ResourceAccessors.Build

open Generation

/-! ### The steps of a build -/

/-- What a build of a crate reads for its pass. -/
def inputOf (disk : Disk) (options : BuildOptions) : Except Failure Input := do
  let config := (← config? disk options.projectDir).getD Config.default
  let project := (← Project.collect disk options.projectDir config).value
  return ⟨options.withConfig config, project.sources, project.files, project.embedded⟩

/-- The steps of a build that succeeds: the disk after each of them, and what they tell. -/
structure Succeeds (options : BuildOptions) (artifactDir : FilePath) (token : Cancellation)
    (disk made wrote cleaned after : Disk) (build : Build) : Prop where
  place : build.artifactDir = artifactDir
  prepares : prepare disk options artifactDir token = .ok (build.outcome, build.tracked)
  makes : (Disk.makeFolders artifactDir).run disk = (.ok (), made)
  writes : (Artifact.writeAll artifactDir build.outcome.artifacts).run made =
    (.ok build.written, wrote)
  removes : (Artifact.removeStale artifactDir (build.outcome.artifacts.map Artifact.name)).run
    wrote = (.ok build.removed, cleaned)
  stores : (storeState artifactDir options.projectDir build.outcome.state).run cleaned =
    (.ok (), after)

section Steps

variable {disk after : Disk} {options : BuildOptions} {artifactDir : FilePath}
  {token : Cancellation} {build : Build}

/-- A change of the disk succeeds as a step of a build when it succeeds. -/
theorem run_of_run_onDisk {α : Type} {change : Disk.Change DiskError α} {value : α}
    (ran : (onDisk change).run disk = (.ok value, after)) : change.run disk = (.ok value, after) := by
  change ((change.run disk).1.mapError Failure.disk, (change.run disk).2) = _ at ran
  cases ranChange : change.run disk with
  | mk outcome changed =>
    rw [ranChange] at ran
    cases outcome with
    | error cause => cases ran
    | ok found =>
      cases ran
      rfl

/-- A change of the disk that succeeds does so as a step of a build. -/
theorem run_onDisk {α : Type} {change : Disk.Change DiskError α} {value : α}
    (ran : change.run disk = (.ok value, after)) : (onDisk change).run disk = (.ok value, after) := by
  change ((change.run disk).1.mapError Failure.disk, (change.run disk).2) = _
  rw [ran]
  rfl

/-- A build that succeeds has made all of its steps. -/
theorem exists_succeeds (ran : (run options artifactDir token).run disk = (.ok build, after)) :
    ∃ made wrote cleaned, Succeeds options artifactDir token disk made wrote cleaned after build := by
  obtain ⟨found, changed, got, ran⟩ := Disk.exists_of_run_bind ran
  cases got
  obtain ⟨⟨outcome, tracked⟩, prepared, ran⟩ := Disk.run_bind_lift ran
  obtain ⟨⟨⟩, made, ranMake, ran⟩ := Disk.exists_of_run_bind ran
  obtain ⟨written, wrote, ranWrite, ran⟩ := Disk.exists_of_run_bind ran
  obtain ⟨removed, cleaned, ranRemove, ran⟩ := Disk.exists_of_run_bind ran
  obtain ⟨⟨⟩, stored, ranStore, ran⟩ := Disk.exists_of_run_bind ran
  cases ran
  exact ⟨made, wrote, cleaned, rfl, prepared, run_of_run_onDisk ranMake, run_of_run_onDisk ranWrite,
    run_of_run_onDisk ranRemove, ranStore⟩

/-- A build that makes all of its steps succeeds. -/
theorem Succeeds.run_eq {made wrote cleaned : Disk}
    (succeeds : Succeeds options artifactDir token disk made wrote cleaned after build) :
    (run options artifactDir token).run disk = (.ok build, after) := by
  obtain ⟨rfl, prepares, makes, writes, removes, stores⟩ := succeeds
  have got : (get : Step Disk).run disk = (.ok disk, disk) := rfl
  have prepared : (liftM (prepare disk options build.artifactDir token) :
      Step (Outcome × List FilePath)).run disk = (.ok (build.outcome, build.tracked), disk) := by
    rw [prepares]
    rfl
  refine (Disk.run_bind_of_run got).trans ?_
  refine (Disk.run_bind_of_run prepared).trans ?_
  refine (Disk.run_bind_of_run (run_onDisk makes)).trans ?_
  refine (Disk.run_bind_of_run (run_onDisk writes)).trans ?_
  refine (Disk.run_bind_of_run (run_onDisk removes)).trans ?_
  exact Disk.run_bind_of_run stores

/-- The pass of a build starts from the stored state. -/
theorem steps_of_prepare {outcome : Outcome} {tracked : List FilePath}
    (prepared : prepare disk options artifactDir token = .ok (outcome, tracked)) :
    ∃ input, inputOf disk options = .ok input ∧
      Steps (storedState disk artifactDir options.projectDir) input outcome := by
  obtain ⟨config, read, prepared⟩ := Step.exists_of_bind_eq_ok prepared
  obtain ⟨project, collected, prepared⟩ := Step.exists_of_bind_eq_ok prepared
  obtain ⟨started, -, prepared⟩ := Step.exists_of_bind_eq_ok prepared
  obtain ⟨⟨passed, left⟩, ranPass, prepared⟩ := Step.exists_of_bind_eq_ok prepared
  obtain ⟨last, -, prepared⟩ := Step.exists_of_bind_eq_ok prepared
  cases prepared
  refine ⟨_, ?_, steps_of_pass ranPass⟩
  simp only [inputOf, read, collected, bind, Except.bind]
  rfl

end Steps

/-! ### Caches of earlier builds -/

/-- The content of a cache that a build has saved, which itself found no cache that it could use, or the
cache of an earlier build. -/
inductive SavedCache : ByteArray → Prop
  | first {disk after options artifactDir token build}
      (ran : (run options artifactDir token).run disk = (.ok build, after))
      (unusable : ∀ content, disk.readFile (cachePath artifactDir) = .ok content →
        Stored.readCache (Stored.cacheKey options.projectDir) content = none) :
      SavedCache (Stored.writeCache (Stored.cacheKey options.projectDir) build.outcome.state)
  | next {disk after options artifactDir token build content}
      (ran : (run options artifactDir token).run disk = (.ok build, after))
      (found : disk.readFile (cachePath artifactDir) = .ok content) (saved : SavedCache content) :
      SavedCache (Stored.writeCache (Stored.cacheKey options.projectDir) build.outcome.state)

/-- The cache in an artifact folder is absent, cannot be used, or was saved by an earlier build. -/
def CacheOfHistory (disk : Disk) (artifactDir projectDir : FilePath) : Prop :=
  ∀ content, disk.readFile (cachePath artifactDir) = .ok content →
    Stored.readCache (Stored.cacheKey projectDir) content = none ∨ SavedCache content

section History

variable {disk after : Disk} {options : BuildOptions} {artifactDir : FilePath}
  {token : Cancellation} {build : Build}

/-- The stored state is sound when it is read from the cache and such states are sound. -/
theorem sound_storedState {projectDir : FilePath}
    (sound : ∀ content state, disk.readFile (cachePath artifactDir) = .ok content →
      Stored.readCache (Stored.cacheKey projectDir) content = some state → state.Sound) :
    (storedState disk artifactDir projectDir).Sound := by
  rw [storedState, load]
  split
  next content found =>
    cases read : Stored.readCache (Stored.cacheKey projectDir) content with
    | none => exact State.sound_empty
    | some state => exact sound content state found read
  next => exact State.sound_empty

/-- A build that starts from a sound state ends with one. -/
theorem sound_of_run (ran : (run options artifactDir token).run disk = (.ok build, after))
    (sound : (storedState disk artifactDir options.projectDir).Sound) :
    build.outcome.state.Sound := by
  obtain ⟨made, wrote, cleaned, succeeds⟩ := exists_succeeds ran
  obtain ⟨input, -, steps⟩ := steps_of_prepare succeeds.prepares
  exact steps.sound sound

/-- A state that is read from the cache of an earlier build is sound. -/
theorem SavedCache.sound {content : ByteArray} (saved : SavedCache content) {key : String}
    {state : State} (read : Stored.readCache key content = some state) : state.Sound := by
  induction saved generalizing key state with
  | first ran unusable =>
    rw [Stored.eq_of_readCache_writeCache read]
    apply sound_of_run ran
    apply sound_storedState
    intro content state found used
    rw [unusable content found] at used
    cases used
  | next ran found saved ih =>
    rw [Stored.eq_of_readCache_writeCache read]
    apply sound_of_run ran
    apply sound_storedState
    intro other state same used
    rw [found] at same
    cases same
    exact ih used

/-- Whatever builds there were before, the stored state is sound. -/
theorem CacheOfHistory.sound {projectDir : FilePath}
    (cache : CacheOfHistory disk artifactDir projectDir) :
    (storedState disk artifactDir projectDir).Sound := by
  apply sound_storedState
  intro content state found read
  rcases cache content found with unusable | saved
  · rw [unusable] at read
    cases read
  · exact saved.sound read

end History

end ResourceAccessors.Build
