import ResourceAccessors.Proofs.Json.RoundTrip
import ResourceAccessors.Proofs.Keyed
import ResourceAccessors.Stored.Cache

/-!
# Stored states read back

Each stored form is read back as the value it was made from, and has a text that the reader of JSON
reads back. A state is therefore found again in its text.
-/

namespace ResourceAccessors

namespace Stored

open Declaration Generation

variable {α β : Type}

/-- A stored form that reads back, with a text that reads back too. -/
structure Faithful (encode : α → Json) (decode : Decoder α) : Prop where
  reads (value : α) : decode (encode value) = some value
  plain (value : α) : Json.IsPlain (encode value)

/-! ### Containers -/

section Containers

variable {encode : α → Json} {decode : Decoder α}

/-- The items of a list read back. -/
theorem Faithful.readAll (faithful : Faithful encode decode) (items : List α) :
    readAll decode (items.map encode) = some items := by
  induction items with
  | nil => rfl
  | cons first rest inductionHypothesis =>
    rw [List.map_cons, Stored.readAll, faithful.reads, inductionHypothesis]
    rfl

/-- A list is stored faithfully when its items are. -/
theorem Faithful.list (faithful : Faithful encode decode) :
    Faithful (.ofList encode) (list decode) where
  reads := faithful.readAll
  plain items := by
    refine .array fun item mem => ?_
    obtain ⟨value, -, rfl⟩ := List.mem_map.1 mem
    exact faithful.plain value

/-- The entries of a map read back. -/
theorem Faithful.readEntries (faithful : Faithful encode decode) (entries : List (String × α)) :
    readEntries decode (entries.map fun (key, value) => (key, encode value)) = some entries := by
  induction entries with
  | nil => rfl
  | cons first rest inductionHypothesis =>
    rw [List.map_cons, Stored.readEntries, faithful.reads, inductionHypothesis]
    rfl

/-- A map is stored faithfully when its values are. -/
theorem Faithful.keyed (faithful : Faithful encode decode) :
    Faithful (ofKeyed encode) (keyed decode) where
  reads map := by
    rw [ofKeyed, Stored.keyed, faithful.readEntries, Option.map_some, Keyed.ofList_entries]
  plain map := by
    refine .object fun field mem => ?_
    obtain ⟨entry, -, rfl⟩ := List.mem_map.1 mem
    exact faithful.plain entry.2

/-- A record is stored faithfully when its input and its output are. -/
theorem Faithful.record {encodeOutput : β → Json} {decodeOutput : Decoder β}
    (input : Faithful encode decode) (output : Faithful encodeOutput decodeOutput) :
    Faithful (ofRecord encode encodeOutput) (record decode decodeOutput) where
  reads value := by
    simp [Stored.record, ofRecord, structureFields, fieldsNamed, fieldNamed, input.reads,
      output.reads]
  plain value := by
    refine .object ?_
    simp [input.plain, output.plain]

end Containers

/-! ### Texts and paths -/

/-- A text is stored faithfully. -/
theorem faithful_text : Faithful .string text :=
  ⟨fun _ => rfl, .string⟩

/-- Some texts are stored faithfully. -/
theorem faithful_texts : Faithful .ofStrings (list text) :=
  faithful_text.list

/-- A path is stored as it is written. -/
theorem faithful_path : Faithful ofPath path :=
  ⟨fun _ => rfl, fun value => .string value.text⟩

/-- A text that may be absent is stored faithfully. -/
theorem faithful_optional : Faithful (.ofOption .string) (optional text) where
  reads value := by cases value <;> rfl
  plain value := by
    cases value with
    | none => exact .null
    | some value => exact .string value

/-- A truth value is stored faithfully. -/
theorem faithful_flag : Faithful .bool flag :=
  ⟨fun _ => rfl, .bool⟩

/-! ### Declarations -/

/-- Each kind of a type has a name of its own. -/
theorem faithful_kind : Faithful ofKind kind where
  reads value := by cases value <;> rfl
  plain value := by cases value <;> exact .string _

/-- A visibility is stored faithfully. -/
theorem faithful_visibility : Faithful ofVisibility visibility where
  reads value := by cases value <;> rfl
  plain value := by
    cases value with
    | restricted tokens => exact .object (by simpa using .string tokens)
    | _ => exact .string _

/-- The arguments of a declaration are stored faithfully. -/
theorem faithful_arguments : Faithful ofArguments arguments where
  reads value := by
    simp [arguments, ofArguments, structureFields, fieldsNamed, fieldNamed, faithful_text.reads,
      faithful_optional.reads]
  plain value := by
    refine .object ?_
    simp [faithful_text.plain, faithful_optional.plain]

/-- A declaration is stored faithfully. -/
theorem faithful_site : Faithful ofSite site where
  reads value := by
    simp [site, ofSite, siteFields, structureFields, fieldsNamed, fieldNamed,
      faithful_text.reads, faithful_texts.reads, faithful_path.reads, faithful_kind.reads,
      faithful_visibility.reads, faithful_arguments.reads]
  plain value := by
    refine .object ?_
    simp [faithful_text.plain, faithful_texts.plain, faithful_path.plain, faithful_kind.plain,
      faithful_visibility.plain, faithful_arguments.plain]

/-! ### Plans and their inputs -/

/-- A candidate is stored faithfully. -/
theorem faithful_candidate : Faithful ofCandidate candidate where
  reads value := by
    simp [candidate, ofCandidate, structureFields, fieldsNamed, fieldNamed, faithful_text.reads,
      faithful_path.reads, faithful_optional.reads]
  plain value := by
    refine .object ?_
    simp [faithful_text.plain, faithful_path.plain, faithful_optional.plain]

/-- An accessor is stored faithfully. -/
theorem faithful_property : Faithful ofProperty property where
  reads value := by
    simp [property, ofProperty, structureFields, fieldsNamed, fieldNamed, faithful_text.reads,
      faithful_candidate.reads]
  plain value := by
    refine .object ?_
    simp [faithful_text.plain, faithful_candidate.plain]

/-- A plan is stored faithfully. -/
theorem faithful_plan : Faithful ofPlan plan where
  reads value := by
    simp [plan, ofPlan, structureFields, fieldsNamed, fieldNamed, faithful_text.reads,
      faithful_flag.reads, faithful_path.reads, faithful_site.reads, faithful_property.list.reads]
  plain value := by
    refine .object ?_
    simp [faithful_text.plain, faithful_flag.plain, faithful_path.plain, faithful_site.plain,
      faithful_property.list.plain]

/-- Options are stored faithfully. -/
theorem faithful_options : Faithful ofOptions options where
  reads value := by
    simp [options, ofOptions, structureFields, fieldsNamed, fieldNamed, faithful_flag.reads,
      faithful_text.reads, faithful_path.reads]
  plain value := by
    refine .object ?_
    simp [faithful_text.plain, faithful_flag.plain, faithful_path.plain]

/-- A file is stored faithfully. -/
theorem faithful_file : Faithful ofFile file where
  reads value := by
    simp [file, ofFile, structureFields, fieldsNamed, fieldNamed, faithful_path.reads,
      faithful_optional.reads]
  plain value := by
    refine .object ?_
    simp [faithful_path.plain, faithful_optional.plain]

/-- What a plan is made from is stored faithfully. -/
theorem faithful_planInput : Faithful ofPlanInput planInput where
  reads value := by
    simp [planInput, ofPlanInput, structureFields, fieldsNamed, fieldNamed, faithful_site.reads,
      faithful_options.reads, faithful_file.list.reads]
  plain value := by
    refine .object ?_
    simp [faithful_site.plain, faithful_options.plain, faithful_file.list.plain]

/-- A source is stored faithfully. -/
theorem faithful_source : Faithful ofSource source where
  reads value := by
    simp [source, ofSource, structureFields, fieldsNamed, fieldNamed, faithful_text.reads,
      faithful_texts.reads, faithful_path.reads]
  plain value := by
    refine .object ?_
    simp [faithful_text.plain, faithful_texts.plain, faithful_path.plain]

/-! ### The manifest -/

/-- An embedded file is stored faithfully. -/
theorem faithful_embedded : Faithful ofEmbedded embedded where
  reads value := by
    simp [embedded, ofEmbedded, structureFields, fieldsNamed, fieldNamed, faithful_text.reads,
      faithful_path.reads]
  plain value := by
    refine .object ?_
    simp [faithful_text.plain, faithful_path.plain]

/-- What the manifest is made from is stored faithfully. -/
theorem faithful_manifestInput : Faithful ofManifestInput manifestInput where
  reads value := by
    simp [manifestInput, ofManifestInput, structureFields, fieldsNamed, fieldNamed,
      faithful_texts.reads, faithful_path.reads, faithful_embedded.list.reads]
  plain value := by
    refine .object ?_
    simp [faithful_texts.plain, faithful_path.plain, faithful_embedded.list.plain]

/-- An artifact is stored faithfully. -/
theorem faithful_artifact : Faithful ofArtifact artifact where
  reads value := by
    simp [artifact, ofArtifact, structureFields, fieldsNamed, fieldNamed, faithful_text.reads]
  plain value := by
    refine .object ?_
    simp [faithful_text.plain]

/-! ### States -/

/-- A state reads back from its stored form. -/
theorem faithful_state : Faithful ofState state := by
  have extraction := (faithful_source.record faithful_site.list).keyed
  have plans := (faithful_planInput.record faithful_plan).keyed
  have artifacts := (faithful_plan.record faithful_text).keyed
  have manifest := (faithful_manifestInput.record faithful_artifact.list).keyed
  constructor
  case reads =>
    intro value
    simp [state, ofState, structureFields, fieldsNamed, fieldNamed, extraction.reads, plans.reads,
      artifacts.reads, manifest.reads]
  case plain =>
    intro value
    refine .object ?_
    simp [extraction.plain, plans.plain, artifacts.plain, manifest.plain]

/-- The text of a state holds this state. -/
theorem bind_state_parse?_print (value : State) :
    (Json.parse? (ofState value).print).bind state = some value := by
  rw [Json.parse?_print (faithful_state.plain value), Option.bind_some, faithful_state.reads]

end Stored

end ResourceAccessors
