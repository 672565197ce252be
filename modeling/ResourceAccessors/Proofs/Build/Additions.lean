import ResourceAccessors.Proofs.Build.Frame
import ResourceAccessors.Proofs.Build.Tracking
import ResourceAccessors.Proofs.Disk.Linkless
import ResourceAccessors.Proofs.Generation.Ownership
import ResourceAccessors.Proofs.Project.Additions

/-!
# New resource files

When a file is created in a folder that was there, and the next build has an accessor for it, the build
before it has tracked the file: it lies in a source folder, or in the folder of a declaration that the
earlier build knew.
-/

namespace ResourceAccessors

open FilePath (IsEntryName Component)

/-- The source folders that a configuration gives, or the default ones. -/
def BuildOptions.sourceRoots (options : BuildOptions) (config : Option Config) : List FilePath :=
  Project.sourceRootsOf options.projectDir.normal (config.getD Config.default)

/-- A disk after a file was created in a crate, with the folders on the way to it. The file is neither the
configuration nor the ignore file of the crate. -/
structure Disk.Creates (before after : Disk) (options : BuildOptions) (config : Option Config)
    (file : FilePath) : Prop where
  gained : ∀ {path}, options.projectDir.normal.Inside path →
    before.Gained after (options.sourceRoots config) file path
  configured : ∀ path ∈ Config.candidates.map options.projectDir.join,
    after.find? path = before.find? path
  ignored : after.find? (options.projectDir.normal.child Project.ignoreName) =
    before.find? (options.projectDir.normal.child Project.ignoreName)

namespace Build

open Generation

/-- A build has an accessor for a file, or embeds it though no files to embed are configured. -/
def Offers (build : Build) (config : Option Config) (file : FilePath) : Prop :=
  (∃ property ∈ build.outcome.properties, (property.candidate.path == file) = true) ∨
    (config.getD Config.default).embedded = [] ∧
      ∃ path ∈ build.outcome.embedded, (path == file) = true

/-- A file is read the same where its path leads to the same. -/
theorem readFile_iff_of_find? {before after : Disk} {path : FilePath}
    (same : after.find? path = before.find? path) (content : ByteArray) :
    after.readFile path = .ok content ↔ before.readFile path = .ok content := by
  rw [Disk.readFile_eq_ok_iff, Disk.readFile_eq_ok_iff, same]

section Parts

variable {disk : Disk} {options : BuildOptions} {artifactDir : FilePath} {outcome : Outcome}
  {tracked : List FilePath} {config : Config} {project : Project} {build : Build}
  {found : Option Config} {file : FilePath}

/-- No files to embed are configured when no patterns are. -/
theorem Prepares.embedded_eq_none
    (prepares : Prepares disk options artifactDir outcome tracked config project)
    (none : config.embedded = []) : project.embedded = .none := by
  obtain ⟨found, collected, rfl⟩ := prepares.collected
  obtain ⟨excluded, paths, offered, embedded, collects⟩ := Project.exists_collects collected
  have embedding := collects.embedding
  rw [none] at embedding
  cases embedding
  exact collects.embedded

/-- A build that offers a file has an accessor for it. -/
theorem Offers.exists_property (offers : build.Offers found file)
    (prepares : Prepares disk options artifactDir build.outcome tracked
      (found.getD Config.default) project) :
    ∃ property ∈ build.outcome.properties, (property.candidate.path == file) = true := by
  rcases offers with accessor | ⟨none, path, mem, same⟩
  · exact accessor
  · have everything := prepares.embedded_eq_none none
    rw [prepares.steps.embedded, ← prepares.steps.listed_eq] at mem
    obtain ⟨listed, listedMem, rfl⟩ := List.mem_map.1 mem
    obtain ⟨property, propertyMem, rfl⟩ :=
      prepares.steps.exists_property_of_listed everything listedMem
    exact ⟨property, propertyMem, same⟩

end Parts

/-! ### What the build before tracks -/

section Tracked

variable {disk other : Disk} {options : BuildOptions} {artifactDir : FilePath} {outcome : Outcome}
  {tracked : List FilePath} {config : Config} {project : Project} {path parent : FilePath}
  {folder : Disk.Location}

/-- What lies in a folder of a declaration is tracked. -/
theorem Prepares.isCoveredBy_of_searchPath
    (prepares : Prepares disk options artifactDir outcome tracked config project)
    (found : path.parent? = some parent) (leads : disk.LeadsTo parent folder)
    (searched : parent ∈ outcome.searchPaths) : path.IsCoveredBy tracked := by
  obtain ⟨last, -, components⟩ := FilePath.exists_last_of_parent? found
  rw [prepares.tracked]
  exact isCoveredBy_of_leadsTo (mem_trackable_iff.2 (.inr (.inr (.inr (.inl searched))))) leads
    (FilePath.components_ne_of_text_ne (FilePath.plain_of_parent? found) leads.written)
    ⟨[last], components.symm⟩

/-- A source is tracked when its folder was there. -/
theorem Prepares.isCoveredBy_of_source
    (prepares : Prepares disk options artifactDir outcome tracked config project)
    (found : path.parent? = some parent) (leads : disk.LeadsTo parent folder)
    (written : ∀ sourceRoot ∈ Project.sourceRootsOf options.projectDir.normal config,
      sourceRoot.text ≠ "")
    {modulePath : List String}
    (defined : Project.sourceModule? other
      (Project.sourceRootsOf options.projectDir.normal config) path = some modulePath) :
    path.IsCoveredBy tracked := by
  obtain ⟨read, collected, rfl⟩ := prepares.collected
  obtain ⟨excluded, paths, offered, embedded, collects⟩ := Project.exists_collects collected
  obtain ⟨sourceRoot, mem, rest, more, components⟩ := Project.exists_append_of_sourceModule? defined
  obtain ⟨last, -, split⟩ := FilePath.exists_last_of_parent? found
  have plain : sourceRoot.plain = sourceRoot := by
    obtain ⟨source, -, rfl⟩ := List.mem_map.1 mem
    exact FilePath.plain_normal _
  have some := FilePath.components_ne_of_text_ne plain (written sourceRoot mem)
  have front : sourceRoot.components <+: parent.components := by
    rw [← List.dropLast_concat_getLast more, ← List.append_assoc] at components
    rw [(List.append_inj' (components.symm.trans split) rfl).1.symm]
    exact List.prefix_append _ _
  obtain ⟨above, leadsAbove⟩ :=
    leads.exists_of_prefix (FilePath.plain_of_parent? found) front some
  rw [← FilePath.plain, plain] at leadsAbove
  rw [prepares.tracked]
  refine isCoveredBy_of_leadsTo ?_ leadsAbove some ⟨rest, components.symm⟩
  rw [mem_trackable_iff, collects.sourceRoots]
  exact .inl mem

end Tracked

/-- The sources are the same when the created file is offered and is no source. -/
theorem Prepares.sources_eq_of_creates {before after : Disk} {options : BuildOptions}
    {artifactDir againDir file : FilePath} {outcome again : Outcome} {tracked trackedAgain : List FilePath}
    {config : Option Config} {project projectAfter : Project}
    (prepares : Prepares before options artifactDir outcome tracked
      (config.getD Config.default) project)
    (preparesAgain : Prepares after options againDir again trackedAgain
      (config.getD Config.default) projectAfter)
    (legal : before.Legal) (legalAfter : after.Legal)
    (creates : before.Creates after options config file) {chosen : Resource.File}
    (mem : chosen ∈ projectAfter.files) (spelled : file.components = chosen.path.components)
    (noSource : Project.sourceModule? after (options.sourceRoots config) chosen.path = none) :
    projectAfter.sources = project.sources := by
  obtain ⟨read, collected, rfl⟩ := prepares.collected
  obtain ⟨readAfter, collectedAfter, rfl⟩ := preparesAgain.collected
  obtain ⟨excluded, paths, offered, embedded, collects⟩ := Project.exists_collects collected
  obtain ⟨excludedAfter, pathsAfter, offeredAfter, embeddedAfter, collectsAfter⟩ :=
    Project.exists_collects collectedAfter
  exact collects.sources_eq_of_gained collectsAfter
    (fun inside => (creates.gained inside).congr spelled) legal legalAfter
    (Project.value_ignoreRules_congr (readFile_iff_of_find? creates.ignored) _)
    (collectsAfter.path_mem legalAfter mem) noSource

/-- A created file for which the next build has an accessor, or which it embeds though no files to embed
are configured, lies at or below a path that the build before has tracked, if the folder of the file was
there. -/
theorem run_tracks_created {before after final made : Disk} {options : BuildOptions}
    {artifactDir againDir : FilePath} {token again : Cancellation} {first second : Build}
    {config : Option Config} {file : FilePath} (legal : before.Legal) (legalAfter : after.Legal)
    (cache : CacheOfHistory before artifactDir options.projectDir)
    (cacheAfter : CacheOfHistory after againDir options.projectDir)
    (configured : config? before options.projectDir = .ok config)
    (written : ∀ sourceRoot ∈ options.sourceRoots config, sourceRoot.text ≠ "")
    (creates : before.Creates after options config file)
    (ran : (run options artifactDir token).run before = (.ok first, made))
    (ranAgain : (run options againDir again).run after = (.ok second, final))
    (offers : second.Offers config file) :
    file.IsCoveredBy first.tracked ∨
      ∀ parent, file.parent? = some parent → before.isFolder parent = false := by
  obtain ⟨_, _, _, succeeds⟩ := exists_succeeds ran
  obtain ⟨_, _, _, succeedsAgain⟩ := exists_succeeds ranAgain
  obtain ⟨firstConfig, project, prepares⟩ := exists_prepares succeeds.prepares
  obtain ⟨secondConfig, projectAfter, preparesAgain⟩ := exists_prepares succeedsAgain.prepares
  have configuredAfter := config?_of_readFile_iff
    (fun path mem => readFile_iff_of_find? (creates.configured path mem)) configured
  obtain rfl : config.getD Config.default = firstConfig := by
    obtain ⟨found, read, same⟩ := prepares.configured
    rw [configured] at read
    rw [Except.ok.inj read, same]
  obtain rfl : config.getD Config.default = secondConfig := by
    obtain ⟨found, read, same⟩ := preparesAgain.configured
    rw [configuredAfter] at read
    rw [Except.ok.inj read, same]
  obtain ⟨property, mem, same⟩ := offers.exists_property preparesAgain
  obtain ⟨site, siteMem, chosen, chosenMem, inFolder, agrees⟩ :=
    preparesAgain.steps.exists_site_selected cacheAfter.sound mem
  have spelled : chosen.path.components = file.components := by
    have paths : property.candidate.path.plain = chosen.path.plain :=
      congrArg Resource.Candidate.path agrees
    rw [← FilePath.beq_iff_components, FilePath.beq_iff_plain, ← paths, ← FilePath.beq_iff_plain]
    exact same
  obtain ⟨parent, found, rfl⟩ : ∃ parent, chosen.path.parent? = some parent ∧
      site.searchPath options.projectDir = parent := by
    cases parentOf : chosen.path.parent? with
    | none =>
      rw [parentOf] at inFolder
      cases inFolder
    | some parent =>
      rw [parentOf] at inFolder
      have equal : (parent == site.searchPath options.projectDir) = true := inFolder
      rw [FilePath.beq_iff_plain, FilePath.plain_of_parent? parentOf] at equal
      exact ⟨parent, rfl, (FilePath.plain_normal _).symm.trans equal.symm⟩
  have fileParent : file.parent? = chosen.path.parent? := by
    rw [FilePath.parent?, FilePath.parent?, spelled]
  cases folder : before.isFolder (site.searchPath options.projectDir) with
  | false =>
    refine .inr fun parent parentOf => ?_
    rw [fileParent, found] at parentOf
    rw [← Option.some.inj parentOf, folder]
  | true =>
    obtain ⟨location, leads⟩ := Disk.leadsTo_of_isFolder folder
    have covered : chosen.path.IsCoveredBy first.tracked := by
      cases defined : Project.sourceModule? after (options.sourceRoots config) chosen.path with
      | some modulePath => exact prepares.isCoveredBy_of_source found leads written defined
      | none =>
        refine prepares.isCoveredBy_of_searchPath found leads ?_
        have searched := mem_searchPaths preparesAgain.steps siteMem
        have sources := prepares.sources_eq_of_creates preparesAgain legal legalAfter creates chosenMem
          spelled.symm defined
        rw [preparesAgain.steps.searchPaths_declared cacheAfter.sound, Input.declared, sources]
          at searched
        rw [prepares.steps.searchPaths_declared cache.sound]
        exact searched
    refine .inl ?_
    rw [FilePath.IsCoveredBy, ← spelled]
    exact covered

/-! ### A new note -/

section Plain

variable {before after : Disk} {root file path : FilePath} {top : Disk.Location} {names : List String}

/-- On disks without links that differ in one file only, all other paths lead to the same. -/
theorem find?_eq_of_plain (plain : before.IsPlainAt root top) (plainAfter : after.IsPlainAt root top)
    (spelled : file.components = root.components ++ names.reverse.map .name)
    (same : ∀ location, top <:+ location → location ≠ names ++ top →
      after.entry? location = before.entry? location)
    (inside : root.Inside path) (differs : path.components ≠ file.components) :
    after.find? path = before.find? path := by
  obtain ⟨place, lies, leads⟩ := Disk.exists_place_of_inside top inside
  rw [leads before plain, leads after plainAfter]
  cases place with
  | none => rfl
  | some location =>
    have other : location ≠ names ++ top := by
      rintro rfl
      exact differs ((lies _ rfl).components_eq.trans spelled.symm)
    rw [Disk.standing, Disk.standing, Option.bind_some, Option.bind_some,
      same location (lies location rfl).suffix other]

/-- On such disks the file is all that is new. -/
theorem gained_of_plain {content : ByteArray} (plain : before.IsPlainAt root top)
    (plainAfter : after.IsPlainAt root top)
    (spelled : file.components = root.components ++ names.reverse.map .name)
    (free : before.entry? (names ++ top) = none)
    (created : after.entry? (names ++ top) = some (.file content))
    (same : ∀ location, top <:+ location → location ≠ names ++ top →
      after.entry? location = before.entry? location)
    (sourceRoots : List FilePath) (inside : root.Inside path) :
    before.Gained after sourceRoots file path := by
  obtain ⟨place, lies, leads⟩ := Disk.exists_place_of_inside top inside
  by_cases here : place = some (names ++ top)
  · have components := (lies _ here).components_eq.trans spelled.symm
    refine .file ?_ (leads after plainAfter ▸ Disk.standing_eq_some_iff.2 ⟨here, created⟩) components
    rw [leads before plain, here, Disk.standing, Option.bind_some, free]
    rfl
  · refine .same ?_
    rw [leads before plain, leads after plainAfter]
    cases place with
    | none => rfl
    | some location =>
      have other : location ≠ names ++ top := fun same => here (congrArg some same)
      rw [Disk.standing, Disk.standing, Option.bind_some, Option.bind_some,
        same location (lies location rfl).suffix other]

end Plain

/-- A crate with one declared type that has no resources yet, next to an empty artifact folder. -/
def withoutNotes : Disk where
  entries := [(["crate"], .folder), (["src", "crate"], .folder),
    (["lib.rs", "src", "crate"],
      .file "#[embedded_resource_properties]\npub struct Notes;\n".toUTF8),
    (["Notes", "src", "crate"], .folder), (["out"], .folder)]
  distinct := by decide
  working := []

/-- The disk with a first resource of the type. -/
def withFirstNote (disk : Disk) : Disk :=
  disk.put ["first.txt", "Notes", "src", "crate"] (.file "one".toUTF8)

/-- After a build that left the crate alone the first resource is all that is new. -/
theorem creates_withFirstNote {made : Disk}
    (plain : (withFirstNote made).IsPlainAt ⟨"/crate"⟩ ["crate"])
    (stays : ∀ location, ["crate"] <:+ location →
      made.entry? location = withoutNotes.entry? location) :
    withoutNotes.Creates (withFirstNote made) crateOptions none ⟨"/crate/src/Notes/first.txt"⟩ := by
  have plainBefore : withoutNotes.IsPlainAt ⟨"/crate"⟩ ["crate"] := by decide +kernel
  have spelled : (⟨"/crate/src/Notes/first.txt"⟩ : FilePath).components =
      (⟨"/crate"⟩ : FilePath).components ++ ["first.txt", "Notes", "src"].reverse.map .name := by
    decide
  have normal : crateOptions.projectDir.normal = ⟨"/crate"⟩ := FilePath.normal_eq_iff.2 (by decide)
  have same : ∀ location, ["crate"] <:+ location →
      location ≠ ["first.txt", "Notes", "src"] ++ ["crate"] →
        Disk.entry? (withFirstNote made) location = withoutNotes.entry? location := by
    intro location below other
    exact (Disk.entry?_put_other made other _).trans (stays location below)
  have others : ∀ {path : FilePath}, (⟨"/crate"⟩ : FilePath).Inside path →
      path.components ≠ (⟨"/crate/src/Notes/first.txt"⟩ : FilePath).components →
        (withFirstNote made).find? path = withoutNotes.find? path :=
    find?_eq_of_plain plainBefore plain spelled same
  constructor
  case gained =>
    rw [normal]
    exact gained_of_plain plainBefore plain spelled rfl (Disk.entry?_put_self _ (by simp) _) same _
  case configured =>
    intro path mem
    have apart : ∀ path ∈ Config.candidates.map crateOptions.projectDir.join,
        path.components ≠ (⟨"/crate/src/Notes/first.txt"⟩ : FilePath).components := by
      decide
    exact others (under_of_mem_candidates mem).inside (apart path mem)
  case ignored =>
    rw [normal]
    exact others (.child .here (by decide)) (by decide)

/-- A build of the crate with a resource has an accessor for it, and a build before it was there has
tracked its folder. -/
theorem run_tracks_created_firstNote : ∃ first made second final,
    (run crateOptions ⟨"/out"⟩ .never).run withoutNotes = (.ok first, made) ∧
      (run crateOptions ⟨"/again"⟩ .never).run (withFirstNote made) = (.ok second, final) ∧
      second.Offers none ⟨"/crate/src/Notes/first.txt"⟩ ∧
      (⟨"/crate/src/Notes/first.txt"⟩ : FilePath).IsCoveredBy first.tracked := by
  have checked : succeedsWith crateOptions ⟨"/out"⟩ withoutNotes fun _ made =>
      decide ((withFirstNote made).IsPlainAt ⟨"/crate"⟩ ["crate"] ∧
        (∀ found ∈ (withFirstNote made).entries, Disk.Location.Legal found.1) ∧
        (withFirstNote made).working = [] ∧
        (withFirstNote made).isFile (cachePath ⟨"/again"⟩) = false) &&
      succeedsWith crateOptions ⟨"/again"⟩ (withFirstNote made) fun second _ =>
        ∃ property ∈ second.outcome.properties,
          (property.candidate.path == ⟨"/crate/src/Notes/first.txt"⟩) = true := by
    decide +kernel
  obtain ⟨first, made, ran, holds⟩ := exists_of_succeedsWith checked
  obtain ⟨facts, again⟩ := Bool.and_eq_true_iff.1 holds
  obtain ⟨plain, entries, working, absent⟩ := of_decide_eq_true facts
  obtain ⟨second, final, ranAgain, accessor⟩ := exists_of_succeedsWith again
  have legal : withoutNotes.Legal := ⟨by decide +kernel, by decide⟩
  have legalAfter : (withFirstNote made).Legal := ⟨entries, by rw [working]; decide⟩
  have cache : CacheOfHistory withoutNotes ⟨"/out"⟩ crateOptions.projectDir :=
    cacheOfHistory_of_absent (by decide +kernel)
  have leads : withoutNotes.LeadsTo ⟨"/out"⟩ ["out"] := by decide +kernel
  have stays : ∀ location, ["crate"] <:+ location →
      made.entry? location = withoutNotes.entry? location := by
    intro location below
    refine entry?_eq_of_run legal cache ran leads
      (FilePath.plain_of_normal (FilePath.normal_eq_iff.2 (by decide))) fun inOut => ?_
    obtain ⟨front, rfl⟩ := below
    cases front with
    | nil => cases inOut
    | cons name between =>
      have last := congrArg List.getLast? inOut
      rw [List.cons_append, List.tail_cons, List.getLast?_concat] at last
      exact absurd last (by decide)
  have configured : config? withoutNotes crateOptions.projectDir = .ok none := by
    have missing : (configPath? withoutNotes crateOptions.projectDir).isNone = true := by
      decide +kernel
    rw [config?, Option.isNone_iff_eq_none.1 missing]
  have folder : (⟨"/crate/src/Notes/first.txt"⟩ : FilePath).parent?.all withoutNotes.isFolder = true ∧
      (⟨"/crate/src/Notes/first.txt"⟩ : FilePath).parent?.isSome = true := by
    decide +kernel
  have offers : second.Offers none ⟨"/crate/src/Notes/first.txt"⟩ := .inl (of_decide_eq_true accessor)
  refine ⟨first, made, second, final, ran, ranAgain, offers, ?_⟩
  refine (run_tracks_created legal legalAfter cache (cacheOfHistory_of_absent absent) configured
    (by decide) (creates_withFirstNote plain stays) ran ranAgain offers).resolve_right fun missing => ?_
  obtain ⟨parent, found⟩ := Option.isSome_iff_exists.1 folder.2
  have stood := folder.1
  rw [found, Option.all_some, missing parent found] at stood
  cases stood

/-! ### New files that were not tracked -/

/-- A build succeeds, then a file is created, and the next build has an accessor for it or embeds it; but the
build before has not tracked it. -/
def Misses (options : BuildOptions) (disk : Disk) (create : Disk → Disk) (file : FilePath) : Prop :=
  ∃ first made second final,
    (run options ⟨"/out"⟩ .never).run disk = (.ok first, made) ∧
      made.exists? file = false ∧ (create made).isFile file = true ∧
      (run options ⟨"/again"⟩ .never).run (create made) = (.ok second, final) ∧
      ((∃ property ∈ second.outcome.properties, (property.candidate.path == file) = true) ∨
        ∃ path ∈ second.outcome.embedded, (path == file) = true) ∧
      ¬ file.IsCoveredBy first.tracked

instance (file : FilePath) (tracked : List FilePath) : Decidable (file.IsCoveredBy tracked) :=
  inferInstanceAs (Decidable (∃ top ∈ tracked, top.components <+: file.components))

/-- A build that misses a created file is found by running the two builds. -/
theorem misses_of_checked {options : BuildOptions} {disk : Disk} {create : Disk → Disk}
    {file : FilePath} (checked : succeedsWith options ⟨"/out"⟩ disk fun first made =>
      decide (made.exists? file = false ∧ (create made).isFile file = true ∧
        ¬ file.IsCoveredBy first.tracked) &&
      succeedsWith options ⟨"/again"⟩ (create made) fun second _ =>
        (∃ property ∈ second.outcome.properties, (property.candidate.path == file) = true) ∨
          ∃ path ∈ second.outcome.embedded, (path == file) = true) :
    Misses options disk create file := by
  obtain ⟨first, made, ran, holds⟩ := exists_of_succeedsWith checked
  obtain ⟨facts, again⟩ := Bool.and_eq_true_iff.1 holds
  obtain ⟨new, created, missed⟩ := of_decide_eq_true facts
  obtain ⟨second, final, ranAgain, offered⟩ := exists_of_succeedsWith again
  exact ⟨first, made, second, final, ran, new, created, ranAgain, of_decide_eq_true offered, missed⟩

/-- A crate with a type whose resource folder is missing. -/
def withoutFolder : Disk where
  entries := [(["crate"], .folder), (["src", "crate"], .folder),
    (["lib.rs", "src", "crate"],
      .file "#[embedded_resource_properties(path=\"/a\")]\npub struct N;\n".toUTF8)]
  distinct := by decide
  working := []

/-- A crate that embeds the files of a folder. -/
def withEmbedded : Disk where
  entries := [(["crate"], .folder), (["data", "crate"], .folder),
    (["embedres.toml", "crate"], .file "[resources]\nembed=[\"data/*\"]\n".toUTF8)]
  distinct := by decide
  working := []

/-- A crate with a source that no configuration names yet. -/
def withoutConfig : Disk where
  entries := [(["crate"], .folder), (["lib", "crate"], .folder),
    (["lib.rs", "lib", "crate"],
      .file "#[embedded_resource_properties(path=\"/\",extension=\".toml\")]\npub struct N;\n".toUTF8)]
  distinct := by decide
  working := []

/-- A crate with two sources that are filed under one key. -/
def withTwins : Disk where
  entries := [(["crate"], .folder), (["src", "crate"], .folder), (["a", "src", "crate"], .folder),
    (["b.rs", "a", "src", "crate"],
      .file "#[embedded_resource_properties(path=\"/\",extension=\".gitignore\")]\npub struct N;\n".toUTF8),
    (["a\\b.rs", "src", "crate"], .file .empty)]
  distinct := by decide
  working := []

/-- A crate whose source folder is the folder in which the build runs. -/
def withSourcesAbove : Disk where
  entries := [(["crate"], .folder), (["d", "crate"], .folder),
    (["embedres.toml", "crate"], .file "sources=[\"..\"]".toUTF8)]
  distinct := by decide
  working := []

/-- A created file need not be tracked when its folder was missing, when it is embedded by a pattern, when
it is the configuration or the ignore file, or when a source folder is the empty path. -/
theorem not_run_tracks_created :
    Misses crateOptions withoutFolder
        (fun made => (made.put ["a", "crate"] .folder).put ["x.txt", "a", "crate"] (.file .empty))
        ⟨"/crate/a/x.txt"⟩ ∧
      Misses crateOptions withEmbedded (fun made => made.put ["x.txt", "data", "crate"] (.file .empty))
        ⟨"/crate/data/x.txt"⟩ ∧
      Misses crateOptions withoutConfig
        (fun made => made.put ["embedres.toml", "crate"] (.file "sources=[\"lib\"]".toUTF8))
        ⟨"/crate/embedres.toml"⟩ ∧
      Misses crateOptions withTwins
        (fun made => made.put [".gitignore", "crate"] (.file "a\\\\b.rs".toUTF8))
        ⟨"/crate/.gitignore"⟩ ∧
      Misses ⟨false, ⟨"crate"⟩, "Demo"⟩ withSourcesAbove
        (fun made => made.put ["x.rs", "d", "crate"]
          (.file "#[embedded_resource_properties(path=\".\",extension=\".rs\")]\npub struct N;\n".toUTF8))
        ⟨"crate/d/x.rs"⟩ := by
  refine ⟨misses_of_checked ?_, misses_of_checked ?_, misses_of_checked ?_, misses_of_checked ?_,
    misses_of_checked ?_⟩
  · decide +kernel
  · decide +kernel
  · decide +kernel
  · decide +kernel
  · decide +kernel

end Build

end ResourceAccessors
