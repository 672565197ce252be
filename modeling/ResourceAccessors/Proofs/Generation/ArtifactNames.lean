import ResourceAccessors.Proofs.Declaration.Names
import ResourceAccessors.Proofs.Generation.Placement

/-!
# Names of artifacts

The manifest and the index are written under fixed names, which the artifacts of the types are not
kept away from. A type whose plain name is one of them shares it; no numbered name does. An artifact
under the name of the index is included by the index, that is, the index includes itself.

Every artifact of a pass is called by a name that an entry of a folder can have, that ends as the names
of artifacts do and that is text, when the declarations are shown by plain names.
-/

namespace ResourceAccessors.Generation

/-- No declared type has a plain name that is reserved. -/
def Input.AvoidsReserved (input : Input) : Prop :=
  ∀ site ∈ input.declared, Artifact.nameFor site.display ∉ Artifact.reservedNames

variable {input : Input} {outcome : Outcome} {placements : List Placement}

/-- A reserved name is that of a type exactly when it is the plain name of a declared type. -/
theorem Outcome.Places.reserved_mem_iff (places : outcome.Places input placements) {name : String}
    (reserved : name ∈ Artifact.reservedNames) : name ∈ outcome.siteArtifacts.map Artifact.name ↔
      ∃ site ∈ input.declared, Artifact.nameFor site.display = name := by
  have given : ∀ site, site ∈ input.declared ↔ ∃ placement ∈ placements, placement.site = site := by
    intro site
    rw [← places.sites, List.mem_map]
  rw [places.included, places.names.mem_iff, List.mem_map]
  constructor
  · rintro ⟨placement, mem, rfl⟩
    refine ⟨placement.site, (given _).2 ⟨placement, mem, rfl⟩, ?_⟩
    rcases places.named placement mem with plain | ⟨count, -, numbered, -⟩
    · exact plain.symm
    · rw [numbered] at reserved
      exact absurd reserved (Artifact.numberedName_not_reserved _ count)
  · rintro ⟨site, declared, rfl⟩
    obtain ⟨placement, mem, rfl⟩ := (given site).1 declared
    rcases places.named placement mem with plain | ⟨-, -, -, other, otherMem, plain⟩
    · exact ⟨placement, mem, plain⟩
    · exact ⟨other, otherMem, plain⟩

/-- The names of all artifacts are those of the types and the reserved ones. -/
theorem Outcome.Places.names_artifacts (places : outcome.Places input placements) :
    outcome.artifacts.map Artifact.name =
      outcome.siteArtifacts.map Artifact.name ++ Artifact.reservedNames := by
  obtain ⟨text, artifacts⟩ := places.artifacts
  rw [artifacts, List.map_append]
  rfl

/-- The names of all artifacts are distinct exactly when no declared type has a reserved one. -/
theorem Outcome.Places.nodup_names_iff (places : outcome.Places input placements) :
    (outcome.artifacts.map Artifact.name).Nodup ↔ input.AvoidsReserved := by
  have distinct : (outcome.siteArtifacts.map Artifact.name).Nodup := by
    rw [places.included]
    exact outcome.state.artifacts.nodup_keys
  rw [places.names_artifacts, List.nodup_append]
  constructor
  · rintro ⟨-, -, apart⟩ site declared reserved
    have among := (places.reserved_mem_iff reserved).2 ⟨site, declared, rfl⟩
    exact apart _ among _ reserved rfl
  · intro avoids
    refine ⟨distinct, Artifact.nodup_reservedNames, ?_⟩
    rintro name among _ reserved rfl
    obtain ⟨site, declared, same⟩ := (places.reserved_mem_iff reserved).1 among
    exact avoids site declared (same ▸ reserved)

namespace Generator

/-- The names of the artifacts of a run are distinct exactly when no declared type has a reserved
name. The index includes itself, or the manifest twice, exactly when a declared type has that name. -/
theorem distinct_names_iff (events : List Event) {token : Cancellation} {next : Generator}
    (ran : (new.afterAll events).run input token = (.ok outcome, next)) :
    ((outcome.artifacts.map Artifact.name).Nodup ↔ input.AvoidsReserved) ∧
    ∃ included,
      ⟨Artifact.indexName, Render.index included⟩ ∈ outcome.artifacts ∧
      outcome.artifacts.map Artifact.name = included ++ Artifact.reservedNames ∧
      ∀ name ∈ Artifact.reservedNames, name ∈ included ↔
        ∃ site ∈ input.declared, Artifact.nameFor site.display = name := by
  have places := (steps_of_run ran).1.places (sound_afterAll events)
  refine ⟨places.nodup_names_iff, _, ?_, places.names_artifacts,
    fun name reserved => places.reserved_mem_iff reserved⟩
  obtain ⟨text, artifacts⟩ := places.artifacts
  rw [artifacts]
  exact List.mem_append_right _ (List.mem_cons_of_mem _ List.mem_cons_self)

/-- The artifacts of a project with one type that is called otherwise have distinct names. -/
theorem distinct_names_onlyResource :
    ∃ outcome,
      (new.afterAll [.run (onlyResource "a") .never, .reload]).run (onlyResource "b") .never =
        (.ok outcome, ⟨outcome.state⟩) ∧
      (outcome.artifacts.map Artifact.name).Nodup := by
  obtain ⟨outcome, ran⟩ :=
    run_never (new.afterAll [.run (onlyResource "a") .never, .reload]) (onlyResource "b")
  have avoids : (onlyResource "b").AvoidsReserved := by
    rw [Input.AvoidsReserved]
    decide +kernel
  exact ⟨outcome, ran, (distinct_names_iff [.run (onlyResource "a") .never, .reload] ran).1.2 avoids⟩

/-- A project whose only type is called like the index. -/
def namedLikeIndex : Input where
  options := ⟨false, ⟨"/project"⟩, "Demo"⟩
  sources := [⟨⟨"/project/src/lib.rs"⟩, [],
    "#[embedded_resource_properties]\npub struct embedded_resources;\n"⟩]
  files := []
  embedded := none

/-- The artifact of the type and the index have one name, which the index includes. -/
theorem index_clashes_namedLikeIndex :
    ∃ outcome, new.run namedLikeIndex .never = (.ok outcome, ⟨outcome.state⟩) ∧
      ¬ (outcome.artifacts.map Artifact.name).Nodup ∧
      Artifact.indexName ∈ outcome.siteArtifacts.map Artifact.name := by
  obtain ⟨outcome, ran⟩ := run_never new namedLikeIndex
  have places := (steps_of_run ran).1.places State.sound_empty
  have declared : ∃ site ∈ namedLikeIndex.declared,
      Artifact.nameFor site.display = Artifact.indexName := by
    decide +kernel
  have reserved : Artifact.indexName ∈ Artifact.reservedNames := by decide
  refine ⟨outcome, ran, fun distinct => ?_, (places.reserved_mem_iff reserved).2 declared⟩
  obtain ⟨site, siteMem, same⟩ := declared
  exact places.nodup_names_iff.1 distinct site siteMem (same ▸ reserved)

end Generator

/-! ### Names of entries -/

/-- A declaration stands in one of the sources. -/
theorem Input.exists_source {site : Declaration.Site} (declared : site ∈ input.declared) :
    ∃ source ∈ input.sources, site ∈ source.sites := by
  obtain ⟨source, kept, siteMem⟩ := List.mem_flatMap.1 declared
  obtain ⟨entry, entryMem, rfl⟩ := List.mem_map.1 kept
  obtain ⟨source, sourceMem, same⟩ := List.mem_map.1 (Keyed.mem_of_mem_ofList entryMem)
  rw [← same] at siteMem
  exact ⟨source, sourceMem, siteMem⟩

/-- Declarations in modules with plain names are shown by plain names. -/
theorem Input.namedPlainly_of_mem_declared
    (modules : ∀ source ∈ input.sources, ∀ name ∈ source.modulePath, Syntax.Plain name) :
    ∀ site ∈ input.declared, site.NamedPlainly := by
  intro site declared
  obtain ⟨source, sourceMem, siteMem⟩ := Input.exists_source declared
  exact Declaration.namedPlainly_of_mem_sitesOf (modules source sourceMem) siteMem

/-- The artifacts of a pass have names of artifacts. -/
theorem Outcome.Places.isName (places : outcome.Places input placements)
    (plain : ∀ site ∈ input.declared, site.NamedPlainly) :
    ∀ name ∈ outcome.artifacts.map Artifact.name, Artifact.IsName name := by
  intro name mem
  rw [places.names_artifacts, places.included, List.mem_append, places.names.mem_iff] at mem
  rcases mem with ofSite | reserved
  · obtain ⟨placement, placed, rfl⟩ := List.mem_map.1 ofSite
    have shown : Syntax.Plain placement.site.display := by
      apply (plain placement.site _).display
      rw [← places.sites]
      exact List.mem_map_of_mem placed
    rcases places.named placement placed with same | ⟨count, -, same, -⟩
    · rw [same]
      exact Artifact.isName_nameFor shown
    · rw [same]
      exact Artifact.isName_numberedName (Artifact.plain_stemFor shown) count
  · revert name
    decide

end ResourceAccessors.Generation
