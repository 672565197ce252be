import ResourceAccessors.Generation.State
import ResourceAccessors.Proofs.FilePath.Normal
import ResourceAccessors.Proofs.Keyed

/-!
# Spellings of paths

Paths are equal when they have the same components, however they are written. For every kind of value
that holds paths, this module gives the value with each path in its shortest spelling. Values are
equal exactly when they agree in this form.
-/

namespace ResourceAccessors

/-- Values whose equality does not see how the paths in them are spelled. -/
class Spelled (α : Type) [BEq α] where
  /-- The value with every path in its shortest spelling. -/
  plain : α → α
  beq_iff (left right : α) : (left == right) = true ↔ plain left = plain right

namespace Spelled

variable {α β : Type}

/-! ### Texts, paths and artifacts -/

instance : Spelled String where
  plain := id
  beq_iff left right := by simp

instance : Spelled FilePath where
  plain := FilePath.plain
  beq_iff := FilePath.beq_iff_plain

instance : Spelled Artifact where
  plain := id
  beq_iff left right := by simp

/-- A text is spelled in one way. -/
@[simp]
theorem plain_string (text : String) : plain text = text := rfl

/-- A path is spelled plainly by its components. -/
@[simp]
theorem plain_path (path : FilePath) : plain path = path.plain := rfl

/-- An artifact is spelled in one way. -/
@[simp]
theorem plain_artifact (artifact : Artifact) : plain artifact = artifact := rfl

/-! ### Containers -/

section Containers

variable [BEq α] [Spelled α] [BEq β] [Spelled β]

/-- Lists are equal exactly when their items agree one by one. -/
theorem list_beq_iff (left right : List α) :
    (left == right) = true ↔ left.map plain = right.map plain := by
  induction left generalizing right with
  | nil => cases right <;> simp
  | cons first rest inductionHypothesis =>
    cases right with
    | nil => simp
    | cons other others =>
      rw [List.cons_beq_cons, Bool.and_eq_true, beq_iff, inductionHypothesis]
      simp

instance : Spelled (List α) where
  plain := List.map plain
  beq_iff := list_beq_iff

instance : Spelled (α × β) where
  plain pair := (plain pair.1, plain pair.2)
  beq_iff left right := by
    show (left.1 == right.1 && left.2 == right.2) = true ↔ _
    simp [beq_iff]

instance : Spelled (Generation.Record α β) where
  plain record := ⟨plain record.input, plain record.output⟩
  beq_iff left right := by
    show Generation.instBEqRecord.beq left right = true ↔ _
    simp [Generation.instBEqRecord.beq, beq_iff]

instance : Spelled (Keyed α) where
  plain map := ⟨plain map.entries, List.pairwise_map.2 map.ascending⟩
  beq_iff left right := by
    show (left.entries == right.entries) = true ↔ _
    rw [Keyed.mk.injEq, beq_iff]

/-- A list is spelled plainly item by item. -/
@[simp]
theorem plain_list (items : List α) : plain items = items.map plain := rfl

/-- A pair is spelled plainly on both sides. -/
@[simp]
theorem plain_pair (pair : α × β) : plain pair = (plain pair.1, plain pair.2) := rfl

/-- A record is spelled plainly in its input and its output. -/
@[simp]
theorem plain_record (record : Generation.Record α β) :
    plain record = ⟨plain record.input, plain record.output⟩ := rfl

/-- A map is spelled plainly entry by entry. -/
@[simp]
theorem entries_plain (map : Keyed α) : (plain map).entries = map.entries.map plain := rfl

/-- The collection of a list in the shortest spelling. -/
theorem plain_ofList (items : List (String × α)) :
    plain (Keyed.ofList items) = Keyed.ofList (items.map plain) :=
  Keyed.ext (Keyed.entries_ofList_map plain items).symm

/-- Keyed values in the shortest spelling. -/
theorem map_plain_zip (keys : List String) (values : List α) :
    (keys.zip values).map plain = keys.zip (values.map plain) := by
  rw [List.zip_map_right]
  rfl

/-- A function that does not see the spelling gives equal results on values that agree. -/
theorem eq_of_plain {γ : Type} {f : α → γ} (blind : ∀ value, f (plain value) = f value)
    {left right : α} (same : plain left = plain right) : f left = f right := by
  rw [← blind left, same, blind]

/-- Functions that do not see the spelling give equal lists on lists that agree. -/
theorem map_eq_of_plain {γ : Type} {f : α → γ}
    (blind : ∀ left right, plain left = plain right → f left = f right) {left right : List α}
    (same : left.map plain = right.map plain) : left.map f = right.map f := by
  induction left generalizing right with
  | nil =>
    cases right with
    | nil => rfl
    | cons other others => simp at same
  | cons first rest inductionHypothesis =>
    cases right with
    | nil => simp at same
    | cons other others =>
      simp only [List.map_cons, List.cons.injEq] at same
      rw [List.map_cons, List.map_cons, blind first other same.1, inductionHypothesis same.2]

/-- Collecting what does not see the spelling gives equal lists on lists that agree. -/
theorem flatMap_of_plain {γ : Type} {f : α → List γ} (blind : ∀ value, f (plain value) = f value)
    {left right : List α} (same : left.map plain = right.map plain) :
    left.flatMap f = right.flatMap f := by
  have each := map_eq_of_plain (fun one other agree => eq_of_plain blind agree) same
  rw [List.flatMap_def, List.flatMap_def, each]

end Containers

/-! ### What a pass reads and leaves behind -/

open Generation

instance : Spelled Declaration.Site where
  plain site := { site with sourceFile := site.sourceFile.plain }
  beq_iff left right := by
    cases left
    cases right
    show Declaration.instBEqSite.beq _ _ = true ↔ _
    simp [Declaration.instBEqSite.beq, beq_iff]

instance : Spelled BuildOptions where
  plain options := { options with projectDir := options.projectDir.plain }
  beq_iff left right := by
    cases left
    cases right
    show instBEqBuildOptions.beq _ _ = true ↔ _
    simp [instBEqBuildOptions.beq, beq_iff]

instance : Spelled Resource.File where
  plain file := { file with path := file.path.plain }
  beq_iff left right := by
    cases left
    cases right
    show Resource.instBEqFile.beq _ _ = true ↔ _
    simp [Resource.instBEqFile.beq, beq_iff]

instance : Spelled Resource.Candidate where
  plain candidate := { candidate with path := candidate.path.plain }
  beq_iff left right := by
    cases left
    cases right
    show Resource.instBEqCandidate.beq _ _ = true ↔ _
    simp [Resource.instBEqCandidate.beq, beq_iff]

instance : Spelled Property where
  plain property := { property with candidate := plain property.candidate }
  beq_iff left right := by
    cases left
    cases right
    show instBEqProperty.beq _ _ = true ↔ _
    simp [instBEqProperty.beq, beq_iff]

instance : Spelled Plan where
  plain plan :=
    { plan with
      site := plain plan.site
      searchPath := plan.searchPath.plain
      properties := plan.properties.map plain }
  beq_iff left right := by
    cases left
    cases right
    show instBEqPlan.beq _ _ = true ↔ _
    simp [instBEqPlan.beq, beq_iff]

instance : Spelled PlanInput where
  plain input := ⟨plain input.site, plain input.options, input.files.map plain⟩
  beq_iff left right := by
    show instBEqPlanInput.beq left right = true ↔ _
    simp [instBEqPlanInput.beq, beq_iff]

instance : Spelled SourceFile where
  plain source := { source with path := source.path.plain }
  beq_iff left right := by
    cases left
    cases right
    show instBEqSourceFile.beq _ _ = true ↔ _
    simp [instBEqSourceFile.beq, beq_iff]

instance : Spelled Render.EmbeddedFile where
  plain file := { file with path := file.path.plain }
  beq_iff left right := by
    cases left
    cases right
    show Render.instBEqEmbeddedFile.beq _ _ = true ↔ _
    simp [Render.instBEqEmbeddedFile.beq, beq_iff]

instance : Spelled ManifestInput where
  plain input := ⟨input.files.map plain, input.projectDir.plain, input.artifactNames⟩
  beq_iff left right := by
    show instBEqManifestInput.beq left right = true ↔ _
    simp [instBEqManifestInput.beq, beq_iff]

instance : Spelled State where
  plain state :=
    ⟨plain state.extraction, plain state.plans, plain state.artifacts, plain state.manifest⟩
  beq_iff left right := by
    show instBEqState.beq left right = true ↔ _
    simp [instBEqState.beq, beq_iff]

/-- Of a declaration its file is spelled plainly. -/
@[simp]
theorem plain_site (site : Declaration.Site) :
    plain site = { site with sourceFile := site.sourceFile.plain } := rfl

/-- Of options the project folder is spelled plainly. -/
@[simp]
theorem plain_options (options : BuildOptions) :
    plain options = { options with projectDir := options.projectDir.plain } := rfl

/-- Of a file its path is spelled plainly. -/
@[simp]
theorem plain_file (file : Resource.File) :
    plain file = { file with path := file.path.plain } := rfl

/-- Of a candidate its path is spelled plainly. -/
@[simp]
theorem plain_candidate (candidate : Resource.Candidate) :
    plain candidate = { candidate with path := candidate.path.plain } := rfl

/-- Of an accessor its candidate is spelled plainly. -/
@[simp]
theorem plain_property (property : Property) :
    plain property = { property with candidate := plain property.candidate } := rfl

/-- Of a plan all that holds a path is spelled plainly. -/
@[simp]
theorem plain_plan (plan : Plan) :
    plain plan = { plan with
      site := plain plan.site
      searchPath := plan.searchPath.plain
      properties := plan.properties.map plain } := rfl

/-- Of an embedded file its path is spelled plainly. -/
@[simp]
theorem plain_embedded (file : Render.EmbeddedFile) :
    plain file = { file with path := file.path.plain } := rfl

end Spelled

end ResourceAccessors
