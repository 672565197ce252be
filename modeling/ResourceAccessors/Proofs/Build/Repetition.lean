import ResourceAccessors.Proofs.Build.Convergence
import ResourceAccessors.Proofs.Build.Reread

/-!
# Building again

A build right after a build that saved its state finds everything as it was: it reads the same input,
reuses every output, and leaves the disk as it is. This holds unless the folders that the first build
made open a way that was closed before.
-/

namespace ResourceAccessors

open Disk (Location)
open FilePath (IsEntryName)

/-- No link stands in the folder that is made when none of those that are there does. -/
theorem Disk.holdsNoLinks_of_leads {disk : Disk} {path : FilePath} {folder : Location}
    (leads : ((makeFolders path).run disk).2.LeadsTo path folder)
    (linkless : ∀ found ∈ disk.entries, found.1.tail = folder → found.2.linkTarget?.isNone = true) :
    disk.HoldsNoLinks path := by
  intro made found ran resolved name target stands
  rw [ran] at leads
  obtain rfl : folder = found := Except.ok.inj (leads.resolve.symm.trans resolved)
  have absent := linkless _ (mem_entries_of_stands (List.cons_ne_nil name folder) stands) rfl
  cases absent

namespace Build

open Generation

/-! ### Storing the state -/

section Storing

variable {disk after : Disk} {artifactDir projectDir : FilePath} {folder : Location} {state : State}

/-- Storing the state changes the artifact folder only, and adds nothing there but the cache. -/
theorem differsIn_of_storeState (leads : disk.LeadsTo artifactDir folder)
    (ran : (storeState artifactDir projectDir state).run disk = (.ok (), after)) :
    Disk.DiffersIn folder disk after := by
  rcases storeState_cases leads ran with rfl | ⟨-, rfl⟩
  · exact .refl folder _
  · exact Disk.differsIn_put disk _ _

/-- A state that can be stored is stored unless a folder stands in its place. -/
theorem storeState_run (leads : disk.LeadsTo artifactDir folder)
    (free : disk.isFolderAt (Stored.cacheName :: folder) = false)
    (storable : Stored.isStorable state = true) :
    (storeState artifactDir projectDir state).run disk =
      (.ok (), disk.put (Stored.cacheName :: folder)
        (.file (Stored.writeCache (Stored.cacheKey projectDir) state))) := by
  rw [storeState_run_eq, if_pos storable, putCache_run leads, cachePath,
    leads.replaceFile_run isEntryName_cacheName (by decide) free]

/-- Storing a state that is stored already changes nothing. -/
theorem storeState_run_of_stored (leads : disk.LeadsTo artifactDir folder)
    (stands : disk.entry? (Stored.cacheName :: folder) =
      some (.file (Stored.writeCache (Stored.cacheKey projectDir) state))) :
    (storeState artifactDir projectDir state).run disk = (.ok (), disk) := by
  cases storable : Stored.isStorable state with
  | true =>
    have free : disk.isFolderAt (Stored.cacheName :: folder) = false := by
      rw [Disk.isFolderAt, stands]
    rw [storeState_run leads free storable, Disk.put_of_stands (by simp) stands]
  | false => simp [storeState_run_eq, storable, leads.makeFolders_run]

end Storing

/-! ### The disk after a build -/

/-- What a build that succeeds leaves: the artifact folder in line, and everywhere else the disk as it
was, with folders where nothing stood. -/
structure Leaves (options : BuildOptions) (artifactDir : FilePath) (folder : Location)
    (before after : Disk) (build : Build) : Prop where
  line : Artifact.InLine artifactDir folder build.outcome.artifacts before after build.written
    build.removed
  leads : after.LeadsTo artifactDir folder
  around : Disk.GrowsAround folder before after
  legal : after.Legal
  named : ∀ artifact ∈ build.outcome.artifacts, IsEntryName artifact.name
  /-- The cache holds the state, unless it cannot be stored or a folder stands in its place. -/
  stored : Stored.isStorable build.outcome.state = true →
    after.isFolderAt (Stored.cacheName :: folder) = false →
    after.fileAt? (Stored.cacheName :: folder) =
      some (Stored.writeCache (Stored.cacheKey options.projectDir) build.outcome.state)

section Leaving

variable {disk made wrote cleaned after : Disk} {options : BuildOptions} {artifactDir : FilePath}
  {token again : Cancellation} {build : Build} {folder : Location}

/-- A build that succeeds leaves the disk so. -/
theorem Succeeds.leaves
    (succeeds : Succeeds options artifactDir token disk made wrote cleaned after build)
    (legal : disk.Legal) (leads : made.LeadsTo artifactDir folder)
    (noLinks : ∀ name target, disk.entry? (name :: folder) ≠ some (.link target))
    (distinct : (build.outcome.artifacts.map Artifact.name).Nodup)
    (named : ∀ artifact ∈ build.outcome.artifacts, Artifact.IsName artifact.name) :
    Leaves options artifactDir folder disk after build := by
  obtain ⟨grows, -⟩ := Disk.leadsTo_of_makeFolders succeeds.makes
  have entryNames := fun artifact mem => (named artifact mem).entryName
  obtain ⟨line, ends⟩ := succeeds.inLine legal leads noLinks distinct named
  have lineCleaned := succeeds.inLine_cleaned legal leads noLinks distinct entryNames
  have leadsCleaned := leads.mono lineCleaned.keeps
  obtain ⟨differs, names⟩ := Artifact.differsIn_of_run leads (grows.legal legal) distinct entryNames
    (fun name target stands => noLinks name target (grows.link_of_link stands)) succeeds.writes
    succeeds.removes
  have differsAfter := differs.trans (differsIn_of_storeState leadsCleaned succeeds.stores)
  obtain ⟨elsewhere, -, keepsAfter⟩ :=
    entry?_of_storeState leadsCleaned (lineCleaned.noLinks _) succeeds.stores
  constructor
  case line => exact line
  case leads => exact ends
  case around => exact grows.around differsAfter line.keeps
  case legal =>
    apply (grows.legal legal).of_differsIn differsAfter ((grows.legal legal).names leads.stands)
    · intro name mem
      by_cases cache : name = Stored.cacheName
      · rw [cache]
        exact ⟨isEntryName_cacheName, by decide⟩
      · apply names
        rw [Disk.mem_namesIn_iff, ← elsewhere _ fun same => cache (List.cons.inj same).1]
        exact Disk.mem_namesIn_iff.1 mem
    · exact keepsAfter.working.trans lineCleaned.keeps.working
  case named => exact entryNames
  case stored =>
    intro storable free
    have freeCleaned : cleaned.isFolderAt (Stored.cacheName :: folder) = false := by
      rw [Bool.eq_false_iff, Ne, Disk.isFolderAt_iff]
      intro stands
      have still := Disk.isFolderAt_iff.2 (keepsAfter.folders _ stands)
      rw [free] at still
      cases still
    have ran := succeeds.stores
    rw [storeState_run leadsCleaned freeCleaned storable] at ran
    cases ran
    exact Disk.fileAt?_eq_some_iff.2 (Disk.entry?_put_self cleaned (by simp) _)

/-- A build that succeeds leaves the disk so, whichever earlier build saved the cache that it found. -/
theorem exists_leaves (ran : (run options artifactDir token).run disk = (.ok build, after))
    (legal : disk.Legal) (noLinks : disk.HoldsNoLinks artifactDir)
    (cache : CacheOfHistory disk artifactDir options.projectDir)
    (avoids : ∀ input, inputOf disk options = .ok input → input.AvoidsReserved) :
    ∃ folder, Leaves options artifactDir folder disk after build := by
  obtain ⟨made, wrote, cleaned, succeeds⟩ := exists_succeeds ran
  obtain ⟨-, leads⟩ := Disk.leadsTo_of_makeFolders succeeds.makes
  obtain ⟨folder, leads⟩ := leads succeeds.text_ne
  obtain ⟨input, read, steps⟩ := steps_of_prepare succeeds.prepares
  have places := steps.places cache.sound
  exact ⟨folder, succeeds.leaves legal leads (noLinks made folder succeeds.makes leads.resolve)
    (places.nodup_names_iff.2 (avoids input read)) fun artifact mem =>
      places.isName (namedPlainly_of_inputOf legal read) _ (List.mem_map_of_mem mem)⟩

/-- A build that succeeds has saved its state, unless it cannot be stored or a folder stands in place of
the cache. -/
theorem Leaves.saved (leaves : Leaves options artifactDir folder disk after build)
    (storable : Stored.isStorable build.outcome.state = true)
    (free : after.isFolder (cachePath artifactDir) = false) :
    after.readFile (cachePath artifactDir) =
      .ok (Stored.writeCache (Stored.cacheKey options.projectDir) build.outcome.state) := by
  have noFolder : after.isFolderAt (Stored.cacheName :: folder) = false := by
    rw [Bool.eq_false_iff, Ne, Disk.isFolderAt_iff]
    intro stands
    have found := leaves.leads.opens.find?_child isEntryName_cacheName (by decide) stands (by simp)
    rw [Disk.isFolder, cachePath, found] at free
    cases free
  exact (leaves.leads.readFile_child_iff isEntryName_cacheName
    (leaves.line.noLinks Stored.cacheName)).2 ⟨by decide, leaves.stored storable noFolder⟩

/-! ### Building again -/

/-- A build that finds all as the one before it left it. -/
structure Confirms (second first : Build) : Prop where
  written : second.written = []
  removed : second.removed = []
  reuses : second.outcome.Reuses first.outcome

/-- Where the artifact folder is in line and the state is stored, a build with the same outcome changes
nothing. -/
theorem Leaves.run_again {second : Outcome} {tracked : List FilePath}
    (leaves : Leaves options artifactDir folder disk after build)
    (saved : after.readFile (cachePath artifactDir) =
      .ok (Stored.writeCache (Stored.cacheKey options.projectDir) build.outcome.state))
    (prepared : prepare after options artifactDir again = .ok (second, tracked))
    (reuses : second.Reuses build.outcome) :
    (run options artifactDir again).run after = (.ok ⟨artifactDir, [], [], tracked, second⟩, after) := by
  have noLinks := leaves.line.noLinks
  have writes := Artifact.writeAll_run_of_stand leaves.leads leaves.named noLinks leaves.line.short
    leaves.line.stand
  have removes := Artifact.removeStale_run_of_only leaves.leads
    (fun _ mem => leaves.legal.isName mem) noLinks leaves.line.only
  have stores : (storeState artifactDir options.projectDir build.outcome.state).run after =
      (.ok (), after) := by
    obtain ⟨-, file⟩ :=
      (leaves.leads.readFile_child_iff isEntryName_cacheName (noLinks Stored.cacheName)).1 saved
    exact storeState_run_of_stored leaves.leads (Disk.fileAt?_eq_some_iff.1 file)
  obtain ⟨state, artifacts⟩ := And.intro reuses.state reuses.artifacts
  rw [← artifacts] at writes removes
  rw [← state] at stores
  exact Succeeds.run_eq ⟨rfl, prepared, leaves.leads.makeFolders_run, writes, removes, stores⟩

/-- The state that a build has saved is the one that the next build starts from. -/
theorem storedState_of_saved {projectDir : FilePath} {state : State}
    (saved : after.readFile (cachePath artifactDir) =
      .ok (Stored.writeCache (Stored.cacheKey projectDir) state)) :
    storedState after artifactDir projectDir = state := by
  rw [storedState, load, saved]
  dsimp only
  rw [Stored.readCache_writeCache, if_pos rfl, Option.getD_some]

end Leaving

/-- The paths under which a build reads the project folder: as it is given, and in its normal form. -/
def roots (options : BuildOptions) : List FilePath :=
  [options.projectDir, options.projectDir.normal]

/-- A build that succeeds and saves its state: the artifact folder holds no links, nothing at or below
the project folder leads into it, and no declared type has a reserved name. -/
structure Saves (options : BuildOptions) (artifactDir : FilePath) (token : Cancellation)
    (before after : Disk) (build : Build) : Prop where
  ran : (run options artifactDir token).run before = (.ok build, after)
  saved : after.readFile (cachePath artifactDir) =
    .ok (Stored.writeCache (Stored.cacheKey options.projectDir) build.outcome.state)
  legal : before.Legal
  tree : before.IsTree
  noLinks : before.HoldsNoLinks artifactDir
  outside : ∀ root ∈ roots options, ∀ folder, after.resolve artifactDir = .ok folder →
    before.StaysOutside root folder ∧ after.StaysOutside root folder
  avoids : ∀ input, inputOf before options = .ok input → input.AvoidsReserved

/-- Building again after a build that saved its state changes nothing: nothing is written or removed,
all outputs are reused, and the disk stays as it is. The cache that the first build found must not be
forged, and the folders that it made must not open a way to or below the project folder. -/
theorem run_again_confirms {disk after : Disk} {options : BuildOptions} {artifactDir : FilePath}
    {token again : Cancellation} {build : Build}
    (saves : Saves options artifactDir token disk after build)
    (cache : CacheOfHistory disk artifactDir options.projectDir)
    (opensNoWay : ∀ root ∈ roots options, disk.OpensNoWay after root)
    (patient : again.Outlasts token) :
    ∃ second, (run options artifactDir again).run after = (.ok second, after) ∧
      second.Confirms build := by
  obtain ⟨folder, leaves⟩ := exists_leaves saves.ran saves.legal saves.noLinks cache saves.avoids
  obtain ⟨made, wrote, cleaned, succeeds⟩ := exists_succeeds saves.ran
  obtain ⟨input, read, -⟩ := steps_of_prepare succeeds.prepares
  have alike : ∀ root ∈ roots options, disk.Alike after root := by
    intro root mem
    obtain ⟨outside, outsideAfter⟩ := saves.outside root mem folder leaves.leads.resolve
    exact leaves.around.alike saves.tree outside outsideAfter (opensNoWay root mem)
  have readAgain := inputOf_again (alike _ (by simp [roots])) (alike _ (by simp [roots])) saves.legal
    leaves.legal saves.tree leaves.line.keeps read
  obtain ⟨second, tracked, prepared, reuses⟩ := exists_prepare_again read readAgain succeeds.prepares
    (storedState_of_saved saves.saved) patient
  exact ⟨_, leaves.run_again saves.saved prepared reuses, rfl, rfl, reuses⟩

/-! ### Crates that keep to themselves -/

section Apart

variable {disk after : Disk} {options : BuildOptions} {artifactDir : FilePath} {token : Cancellation}
  {build : Build} {top folder : Location}

/-- Where no cache stands, none is forged. -/
theorem cacheOfHistory_of_absent {projectDir : FilePath}
    (absent : disk.isFile (cachePath artifactDir) = false) :
    CacheOfHistory disk artifactDir projectDir := by
  intro content found
  rw [Disk.isFile_iff.2 ⟨content, found⟩] at absent
  cases absent

/-- A build of a crate whose links do not lead away from it saves its state in an artifact folder that
is apart from the crate, unless it cannot be stored or a folder stands in place of the cache. -/
theorem saves_of_apart (ran : (run options artifactDir token).run disk = (.ok build, after))
    (legal : disk.Legal) (tree : disk.IsTree) (noLinks : disk.HoldsNoLinks artifactDir)
    (cache : CacheOfHistory disk artifactDir options.projectDir)
    (avoids : ∀ input, inputOf disk options = .ok input → input.AvoidsReserved)
    (storable : Stored.isStorable build.outcome.state = true)
    (free : after.isFolder (cachePath artifactDir) = false)
    (leads : after.LeadsTo artifactDir folder) (apart : ¬ folder <:+ top ∧ ¬ top <:+ folder)
    (within : disk.HoldsWithin top) (withinAfter : after.HoldsWithin top)
    (start : ∀ root ∈ roots options, disk.exists? root = false ∨ disk.LeadsTo root top)
    (startAfter : ∀ root ∈ roots options, after.LeadsTo root top) :
    Saves options artifactDir token disk after build where
  ran := ran
  saved := by
    obtain ⟨folder, leaves⟩ := exists_leaves ran legal noLinks cache avoids
    exact leaves.saved storable free
  legal := legal
  tree := tree
  noLinks := noLinks
  outside root mem found resolved := by
    obtain rfl : folder = found := Except.ok.inj (leads.resolve.symm.trans resolved)
    have written := (startAfter root mem).written
    exact ⟨within.staysOutside (start root mem) written apart,
      withinAfter.staysOutside (.inr (startAfter root mem)) written apart⟩
  avoids := avoids

end Apart

/-- A crate with one declared type and one resource, next to which no artifact folder stands. -/
def notesCrate : Disk where
  entries := [(["crate"], .folder), (["src", "crate"], .folder),
    (["lib.rs", "src", "crate"],
      .file "#[embedded_resource_properties]\npub struct Notes;\n".toUTF8),
    (["Notes", "src", "crate"], .folder),
    (["first.txt", "Notes", "src", "crate"], .file "one".toUTF8)]
  distinct := by decide
  working := []

/-- A build of the crate writes its three artifacts, and the next one finds them as they are. -/
theorem run_again_confirms_notesCrate : ∃ first second after,
    (run crateOptions ⟨"/out"⟩ .never).run notesCrate = (.ok first, after) ∧
      first.written.length = 3 ∧
      (run crateOptions ⟨"/out"⟩ .never).run after = (.ok second, after) ∧ second.Confirms first := by
  have linkless : notesCrate.IsLinkless := by decide +kernel
  have leads : ∀ root ∈ roots crateOptions, notesCrate.LeadsTo root ["crate"] := by decide +kernel
  have cache : CacheOfHistory notesCrate ⟨"/out"⟩ crateOptions.projectDir :=
    cacheOfHistory_of_absent (by decide +kernel)
  have checked : succeedsWith crateOptions ⟨"/out"⟩ notesCrate fun build after =>
      build.written.length = 3 ∧ Stored.isStorable build.outcome.state ∧ after.IsLinkless ∧
        (∀ root ∈ roots crateOptions, after.LeadsTo root ["crate"]) ∧
        after.LeadsTo ⟨"/out"⟩ ["out"] ∧ after.isFolder (cachePath ⟨"/out"⟩) = false := by
    decide +kernel
  obtain ⟨first, after, ran, holds⟩ := exists_of_succeedsWith checked
  obtain ⟨written, storable, linklessAfter, leadsAfter, leadsOut, free⟩ := of_decide_eq_true holds
  have saves : Saves crateOptions ⟨"/out"⟩ .never notesCrate after first :=
    saves_of_apart ran ⟨by decide +kernel, by decide⟩ (by decide +kernel)
      (Disk.holdsNoLinks_of_entries linkless) cache
      (avoidsReserved_of_checked (by decide +kernel)) storable free leadsOut (by decide)
      (linkless.holdsWithin ["crate"]) (linklessAfter.holdsWithin ["crate"])
      (fun root mem => .inr (leads root mem)) leadsAfter
  obtain ⟨second, again, confirms⟩ := run_again_confirms saves cache
    (fun root mem => linklessAfter.opensNoWay (leads root mem) (leadsAfter root mem))
    (fun count _ _ => ⟨.never, Cancellation.spend_never count⟩)
  exact ⟨first, second, after, ran, written, again, confirms⟩

/-! ### Where building again finds something else -/

/-- A build of a disk saves its state, and none confirms it right after. -/
def Unconfirmed (options : BuildOptions) (artifactDir : FilePath) (disk : Disk) : Prop :=
  ∃ build after, Saves options artifactDir .never disk after build ∧
    ∀ second final, (run options artifactDir .never).run after = (.ok second, final) →
      ¬ second.Confirms build

/-- A build that saves its state is not confirmed when no build succeeds after it. -/
theorem unconfirmed_of_fails {disk : Disk} {options : BuildOptions} {artifactDir : FilePath}
    {top folder : Location} (legal : disk.Legal) (tree : disk.IsTree)
    (noLinks : disk.HoldsNoLinks artifactDir)
    (absent : disk.isFile (cachePath artifactDir) = false)
    (avoids : ∀ input, inputOf disk options = .ok input → input.AvoidsReserved)
    (apart : ¬ folder <:+ top ∧ ¬ top <:+ folder) (within : disk.HoldsWithin top)
    (start : ∀ root ∈ roots options, disk.exists? root = false ∨ disk.LeadsTo root top)
    (checked : succeedsWith options artifactDir disk fun build after =>
      Stored.isStorable build.outcome.state ∧
        after.isFolder (cachePath artifactDir) = false ∧ after.LeadsTo artifactDir folder ∧
        after.entries.all (after.pointsWithin top) = true ∧
        (∀ root ∈ roots options, after.LeadsTo root top) ∧
        succeedsWith options artifactDir after (fun _ _ => true) = false) :
    Unconfirmed options artifactDir disk := by
  obtain ⟨build, after, ran, holds⟩ := exists_of_succeedsWith checked
  obtain ⟨storable, free, leads, withinAfter, startAfter, fails⟩ := of_decide_eq_true holds
  refine ⟨build, after, saves_of_apart ran legal tree noLinks (cacheOfHistory_of_absent absent) avoids
    storable free leads apart within (Disk.holdsWithin_of_entries withinAfter) start startAfter, ?_⟩
  intro second final ran
  rw [succeedsWith, ran] at fails
  cases fails

/-- The artifact folder and the crate of the examples do not hold each other. -/
theorem out_apart_crate :
    ¬ (["out"] : Location) <:+ ["crate"] ∧ ¬ (["crate"] : Location) <:+ ["out"] := by
  decide

/-- A crate with a link to itself that leads through the missing artifact folder. After a build the
folders go round in a circle. -/
def loopedCrate : Disk where
  entries := [(["crate"], .folder), (["loop", "crate"], .link ⟨"../out/../crate"⟩)]
  distinct := by decide
  working := []

/-- The folders go round in a circle after the first build, so no build succeeds after it. -/
theorem unconfirmed_loopedCrate : Unconfirmed crateOptions ⟨"/out"⟩ loopedCrate := by
  have made : ((Disk.makeFolders ⟨"/out"⟩).run loopedCrate).2.LeadsTo ⟨"/out"⟩ ["out"] := by
    decide +kernel
  have noLinks := Disk.holdsNoLinks_of_leads made (by decide +kernel)
  exact unconfirmed_of_fails ⟨by decide +kernel, by decide⟩ (by decide +kernel) noLinks
    (by decide +kernel) (avoidsReserved_of_checked (by decide +kernel)) out_apart_crate
    (Disk.holdsWithin_of_entries (by decide +kernel)) (by decide +kernel) (by decide +kernel)

/-- A crate with a configuration that cannot be parsed. -/
def brokenConfig : Disk where
  entries := [(["crate"], .folder), (["embedres.toml", "crate"], .file "[".toUTF8)]
  distinct := by decide
  working := []

/-- The options of a build that reaches the crate through the artifact folder. Where the folder is
missing, the build finds the crate by the normal form of the path, but not its configuration. -/
def detourOptions : BuildOptions :=
  ⟨false, ⟨"/out/../crate"⟩, "Demo"⟩

/-- The first build makes the folder through which the broken configuration is found, so no build
succeeds after it. -/
theorem unconfirmed_brokenConfig : Unconfirmed detourOptions ⟨"/out"⟩ brokenConfig := by
  have noLinks : brokenConfig.HoldsNoLinks ⟨"/out"⟩ :=
    Disk.holdsNoLinks_of_entries (by decide +kernel)
  exact unconfirmed_of_fails ⟨by decide +kernel, by decide⟩ (by decide +kernel) noLinks
    (by decide +kernel) (avoidsReserved_of_checked (by decide +kernel)) out_apart_crate
    (Disk.holdsWithin_of_entries (by decide +kernel)) (by decide +kernel) (by decide +kernel)

/-- Artifacts with the same name that differ are never confirmed. -/
theorem Confirms.text_eq {disk after : Disk} {options : BuildOptions} {artifactDir : FilePath}
    {token : Cancellation} {second first : Build} (confirms : second.Confirms first)
    (ran : (run options artifactDir token).run disk = (.ok second, after)) {one other : Artifact}
    (oneMem : one ∈ first.outcome.artifacts) (otherMem : other ∈ first.outcome.artifacts)
    (same : one.name = other.name) : one.text = other.text := by
  obtain ⟨made, wrote, cleaned, succeeds⟩ := exists_succeeds ran
  have writes := succeeds.writes
  rw [confirms.written, confirms.reuses.artifacts] at writes
  have read := Artifact.readFile_of_writeAll_nil writes
  have bytes : one.text.toUTF8 = other.text.toUTF8 := by
    have again := read one oneMem
    rw [same, read other otherMem] at again
    exact (Except.ok.inj again).symm
  have texts := congrArg String.fromUTF8? bytes
  rw [fromUTF8?_toUTF8, fromUTF8?_toUTF8] at texts
  exact Option.some.inj texts

/-- A build uses the cache that stands in the artifact folder. -/
theorem storedState_of_fileAt {disk : Disk} {artifactDir projectDir : FilePath} {folder : Location}
    {state : State} (leads : disk.LeadsTo artifactDir folder) (linkless : disk.IsLinkless)
    (file : disk.fileAt? (Stored.cacheName :: folder) =
      some (Stored.writeCache (Stored.cacheKey projectDir) state)) :
    storedState disk artifactDir projectDir = state := by
  apply storedState_of_saved
  exact (leads.readFile_child_iff isEntryName_cacheName fun target => linkless.entry?_ne _ target).2
    ⟨by decide, file⟩

/-- A build that starts from a state gives the artifacts that a pass from this state does, and a state that
can be stored where the pass gives such a one. -/
theorem exists_prepare_of_storedState {disk : Disk} {options : BuildOptions} {artifactDir : FilePath}
    {state : State} {artifacts : List Artifact}
    (stored : storedState disk artifactDir options.projectDir = state)
    (checked : (inputOf disk options).toOption.any fun input =>
      (pass state input .never).toOption.any fun passed =>
        passed.1.artifacts = artifacts ∧ Stored.isStorable passed.1.state) :
    ∃ outcome tracked, prepare disk options artifactDir .never = .ok (outcome, tracked) ∧
      outcome.artifacts = artifacts ∧ Stored.isStorable outcome.state = true := by
  cases read : inputOf disk options with
  | error cause =>
    rw [read] at checked
    cases checked
  | ok input =>
    obtain ⟨outcome, -, passes⟩ := exists_pass_eq state input
    obtain ⟨tracked, prepares⟩ := exists_prepare_eq read (stored ▸ passes)
    have same : outcome.artifacts = artifacts ∧ Stored.isStorable outcome.state = true := by
      rw [read, Except.toOption, Option.any_some, passes, Cancellation.spend_never] at checked
      exact of_decide_eq_true checked
    refine ⟨outcome, tracked, ?_, same⟩
    rw [prepares, Cancellation.spend_never]
    rfl

/-- Two artifacts with one name. -/
def twins : List Artifact :=
  [⟨"notes.g.rs", "one"⟩, ⟨"notes.g.rs", "two"⟩]

/-- A state that no pass leaves: its last step has two artifacts with one name. -/
def forgedState : State where
  extraction := .empty
  plans := .empty
  artifacts := .empty
  manifest := Keyed.empty.insert manifestKey ⟨⟨[], ⟨"/crate"⟩, []⟩, twins⟩

/-- An empty crate, and an artifact folder with a forged cache. -/
def forgedCache : Disk where
  entries := [(["crate"], .folder), (["out"], .folder),
    (["index-v1.json", "out"],
      .file (Stored.writeCache (Stored.cacheKey crateOptions.projectDir) forgedState))]
  distinct := by decide
  working := []

/-- The build uses the forged cache. -/
theorem storedState_forgedCache :
    storedState forgedCache ⟨"/out"⟩ crateOptions.projectDir = forgedState := by
  have leads : forgedCache.LeadsTo ⟨"/out"⟩ ["out"] := by decide +kernel
  exact storedState_of_fileAt leads (by decide +kernel) rfl

/-- The pass of the build gives what the forged cache says. -/
theorem exists_prepare_forgedCache : ∃ outcome tracked,
    prepare forgedCache crateOptions ⟨"/out"⟩ .never = .ok (outcome, tracked) ∧
      outcome.artifacts = twins ∧ Stored.isStorable outcome.state = true :=
  exists_prepare_of_storedState storedState_forgedCache (by decide +kernel)

/-- The build writes and removes artifacts without touching the cache. -/
theorem exists_cleaned_forgedCache : ∃ written wrote removed cleaned,
    (Artifact.writeAll ⟨"/out"⟩ twins).run forgedCache = (.ok written, wrote) ∧
      (Artifact.removeStale ⟨"/out"⟩ (twins.map Artifact.name)).run wrote = (.ok removed, cleaned) ∧
      cleaned.IsLinkless ∧ cleaned.LeadsTo ⟨"/out"⟩ ["out"] ∧
      cleaned.isFolderAt [Stored.cacheName, "out"] = false ∧
      ∀ root ∈ roots crateOptions, cleaned.LeadsTo root ["crate"] := by
  have checked : (match (Artifact.writeAll ⟨"/out"⟩ twins).run forgedCache with
      | (.ok _, wrote) =>
        match (Artifact.removeStale ⟨"/out"⟩ (twins.map Artifact.name)).run wrote with
        | (.ok _, cleaned) => decide (cleaned.IsLinkless ∧ cleaned.LeadsTo ⟨"/out"⟩ ["out"] ∧
            cleaned.isFolderAt [Stored.cacheName, "out"] = false ∧
            ∀ root ∈ roots crateOptions, cleaned.LeadsTo root ["crate"])
        | (.error _, _) => false
      | (.error _, _) => false) = true := by
    decide +kernel
  split at checked
  next written wrote writes =>
    split at checked
    next removed cleaned removes =>
      exact ⟨written, wrote, removed, cleaned, writes, removes, of_decide_eq_true checked⟩
    next => cases checked
  next => cases checked

/-- The build succeeds with the forged artifacts and saves its state. -/
theorem exists_saves_forgedCache : ∃ build after,
    Saves crateOptions ⟨"/out"⟩ .never forgedCache after build ∧ build.outcome.artifacts = twins := by
  have linkless : forgedCache.IsLinkless := by decide +kernel
  have leadsRoots : ∀ root ∈ roots crateOptions, forgedCache.LeadsTo root ["crate"] := by
    decide +kernel
  have leadsOut : forgedCache.LeadsTo ⟨"/out"⟩ ["out"] := by decide +kernel
  obtain ⟨outcome, tracked, prepared, artifacts, storable⟩ := exists_prepare_forgedCache
  obtain ⟨written, wrote, removed, cleaned, writes, removes, linklessCleaned, leads, free,
    rootsCleaned⟩ := exists_cleaned_forgedCache
  rw [← artifacts] at writes removes
  obtain ⟨after, stores, file⟩ : ∃ after,
      (storeState ⟨"/out"⟩ crateOptions.projectDir outcome.state).run cleaned = (.ok (), after) ∧
      after.fileAt? [Stored.cacheName, "out"] =
        some (Stored.writeCache (Stored.cacheKey crateOptions.projectDir) outcome.state) :=
    ⟨_, storeState_run leads free storable,
      Disk.fileAt?_eq_some_iff.2 (Disk.entry?_put_self _ (by simp) _)⟩
  obtain ⟨-, links, keeps⟩ :=
    entry?_of_storeState leads (fun target => linklessCleaned.entry?_ne _ target) stores
  have noLink : ∀ location target, after.entry? location ≠ some (.link target) :=
    fun location target stands => linklessCleaned.entry?_ne location target (links _ _ stands)
  let build : Build := ⟨⟨"/out"⟩, written, removed, tracked, outcome⟩
  have succeeds : Succeeds crateOptions ⟨"/out"⟩ .never forgedCache forgedCache wrote cleaned after
      build :=
    ⟨rfl, prepared, leadsOut.makeFolders_run, writes, removes, stores⟩
  refine ⟨build, after, ?_, artifacts⟩
  exact {
    ran := succeeds.run_eq
    saved := ((leads.mono keeps).readFile_child_iff isEntryName_cacheName (noLink _)).2
      ⟨by decide, file⟩
    legal := ⟨by decide +kernel, by decide⟩
    tree := by decide +kernel
    noLinks := Disk.holdsNoLinks_of_entries linkless
    outside := by
      intro root mem folder resolved
      obtain rfl : ["out"] = folder :=
        Except.ok.inj ((leads.mono keeps).resolve.symm.trans resolved)
      have leadsRoot := leadsRoots root mem
      have within : after.HoldsWithin ["crate"] :=
        fun _ _ _ _ stands => absurd stands (noLink _ _)
      exact ⟨(linkless.holdsWithin _).staysOutside (.inr leadsRoot) leadsRoot.written out_apart_crate,
        within.staysOutside (.inr ((rootsCleaned root mem).mono keeps)) leadsRoot.written
          out_apart_crate⟩
    avoids := avoidsReserved_of_checked (by decide +kernel) }

/-- The cache asks for two artifacts with one name and different texts, so no build finds both of
them written. -/
theorem unconfirmed_forgedCache : Unconfirmed crateOptions ⟨"/out"⟩ forgedCache := by
  obtain ⟨build, after, saves, artifacts⟩ := exists_saves_forgedCache
  refine ⟨build, after, saves, fun second final ran confirms => ?_⟩
  have same : ∀ one ∈ twins, ∀ other ∈ twins, one.name = other.name → one.text = other.text := by
    rw [← artifacts]
    exact fun one oneMem other otherMem => confirms.text_eq ran oneMem otherMem
  exact absurd same (by decide)

/-- Building again after a build that saved its state need not confirm it: a link can lead somewhere
only after the build, and so can the path of the crate, and a forged cache can ask for two artifacts
with one name. -/
theorem not_run_again_confirms : Unconfirmed crateOptions ⟨"/out"⟩ loopedCrate ∧
    Unconfirmed detourOptions ⟨"/out"⟩ brokenConfig ∧
    Unconfirmed crateOptions ⟨"/out"⟩ forgedCache :=
  ⟨unconfirmed_loopedCrate, unconfirmed_brokenConfig, unconfirmed_forgedCache⟩

end Build

end ResourceAccessors
