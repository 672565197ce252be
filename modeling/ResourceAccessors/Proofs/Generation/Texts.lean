import ResourceAccessors.Proofs.Generation.Selection

/-!
# Passes without the texts of files

The texts of the files reach the plans, where nothing is decided by them: which files a declaration
selects, how they are named and which of them are embedded follows from the paths. Without texts, a
plan is given the artifact that a build for an editor gives it.
-/

namespace ResourceAccessors

open Spelled

namespace Resource

/-- The file with its text left out. -/
def File.withoutText (file : File) : File :=
  { file with text := none }

/-- The candidate with its text left out. -/
def Candidate.withoutText (candidate : Candidate) : Candidate :=
  { candidate with text := none }

/-- Files are selected without regard to their texts. -/
theorem select_withoutText (searchPath : FilePath) (extension : String) (files : List File)
    (options : BuildOptions) :
    select searchPath extension (files.map File.withoutText) options =
      (select searchPath extension files options).map Candidate.withoutText := by
  have matching : File.matchesSearch searchPath extension ∘ File.withoutText =
      File.matchesSearch searchPath extension := rfl
  have candidates : Candidate.ofFile options ∘ File.withoutText =
      Candidate.withoutText ∘ Candidate.ofFile options := rfl
  have order : ∀ left right : Candidate,
      left.atMost right = left.withoutText.atMost right.withoutText := fun _ _ => rfl
  rw [select, select, List.filter_map, matching, List.map_map, candidates, ← List.map_map]
  exact (List.map_mergeSort fun left _ right _ => order left right).symm

end Resource

namespace Generation

/-- The accessor with the text of its resource left out. -/
def Property.withoutText (property : Property) : Property :=
  { property with candidate := property.candidate.withoutText }

/-- The plan with the texts of its resources left out. -/
def Plan.withoutTexts (plan : Plan) : Plan :=
  { plan with properties := plan.properties.map Property.withoutText }

/-- What a plan is made from, with the texts of the files left out. -/
def PlanInput.withoutTexts (input : PlanInput) : PlanInput :=
  { input with files := input.files.map Resource.File.withoutText }

/-- The input with the texts of the files left out. -/
def Input.withoutTexts (input : Input) : Input :=
  { input with files := input.files.map Resource.File.withoutText }

/-! ### Plans -/

/-- An accessor is named without regard to its text. -/
theorem Property.ofCandidate_withoutText (typeName : String) (candidate : Resource.Candidate) :
    ofCandidate typeName candidate.withoutText = (ofCandidate typeName candidate).withoutText := by
  simp only [ofCandidate, withoutText, Resource.Candidate.withoutText]

/-- A plan is made without regard to the texts. -/
theorem PlanInput.plan_withoutTexts (input : PlanInput) :
    input.withoutTexts.plan = input.plan.withoutTexts := by
  have selected := Resource.select_withoutText (input.site.searchPath input.options.projectDir)
    input.site.arguments.extension input.files input.options
  have properties : ∀ candidates : List Resource.Candidate,
      (candidates.map Resource.Candidate.withoutText).map
          (Property.ofCandidate input.site.name) =
        (candidates.map (Property.ofCandidate input.site.name)).map Property.withoutText := by
    intro candidates
    rw [List.map_map, List.map_map]
    exact List.map_congr_left fun candidate _ => Property.ofCandidate_withoutText _ candidate
  simp only [PlanInput.plan, PlanInput.withoutTexts, Plan.withoutTexts, selected, properties]

/-- The folder of a declaration holds the same files without their texts. -/
theorem planInput_withoutTexts (input : Input) (site : Declaration.Site) :
    planInput input.withoutTexts site = (planInput input site).withoutTexts := by
  have inFolder : ∀ folder, filesIn folder (input.files.map Resource.File.withoutText) =
      (filesIn folder input.files).map Resource.File.withoutText := by
    intro folder
    rw [filesIn_eq, filesIn_eq, List.filter_map]
    rfl
  rw [planInput, planInput, PlanInput.withoutTexts, Input.withoutTexts]
  dsimp only
  rw [inFolder]

/-- Inputs that differ in the texts and in the spelling of the paths of files lead to plans that
differ so. -/
theorem plain_plan_withoutTexts_eq {one other : Input} (same : one.SameButFiles other)
    (paths : (one.files.map Resource.File.path == other.files.map Resource.File.path) = true)
    (site : Declaration.Site) :
    plain (planInput one site).plan.withoutTexts =
      plain (planInput other site).plan.withoutTexts := by
  have files : (one.files.map Resource.File.withoutText).map plain =
      (other.files.map Resource.File.withoutText).map plain := by
    have each : ∀ files : List Resource.File,
        (files.map Resource.File.withoutText).map plain =
          ((files.map Resource.File.path).map plain).map fun path => ⟨path, none⟩ := by
      intro files
      rw [List.map_map, List.map_map, List.map_map]
      rfl
    rw [each, each, (list_beq_iff _ _).1 paths]
  have inFolder : ∀ folder (files : List Resource.File),
      ((filesIn folder files).map Resource.File.withoutText).map plain =
        filesIn folder ((files.map Resource.File.withoutText).map plain) := by
    intro folder files
    have sees : (fun file : Resource.File => file.path.parent? == some folder) ∘
        (plain ∘ Resource.File.withoutText) = fun file => file.path.parent? == some folder := by
      funext file
      simp [Resource.File.withoutText]
    rw [List.map_map, List.map_map, filesIn_eq, filesIn_eq, List.filter_map, sees]
  rw [← PlanInput.plan_withoutTexts, ← PlanInput.plan_withoutTexts]
  refine respects_plan _ _ ?_
  show PlanInput.mk _ _ _ = PlanInput.mk _ _ _
  simp only [PlanInput.withoutTexts, planInput, same.options, inFolder, files]

/-- Plans that agree do so without the texts. -/
theorem plain_withoutTexts {one other : Plan} (same : plain one = plain other) :
    plain one.withoutTexts = plain other.withoutTexts := by
  have commutes : ∀ plan : Plan, plain plan.withoutTexts = (plain plan).withoutTexts := by
    intro plan
    simp only [plain_plan, Plan.withoutTexts, List.map_map]
    rfl
  rw [commutes, commutes, same]

/-! ### What is made from the plans -/

/-- Leaving out the texts, for a build of the other kind or not, changes no names and no folder. -/
theorem changes_withoutTexts (plan : Plan) (isDesignTime : Bool) :
    Plan.Changes Property.withoutText plan { plan.withoutTexts with isDesignTime } where
  site := rfl
  folder := rfl
  properties := rfl
  name _ := rfl
  fileName _ := rfl
  resourceName _ := rfl

/-- A build for an editor gives a plan the artifact that each build gives it without the texts. -/
theorem accessors_withoutTexts {plan : Plan} (designTime : plan.isDesignTime = true)
    (isDesignTime : Bool) :
    Render.accessors { plan.withoutTexts with isDesignTime } = Render.accessors plan := by
  refine (changes_withoutTexts plan isDesignTime).accessors_eq fun property _ => ?_
  have shown : Render.shownText plan property = none := by
    rw [Render.shownText, designTime]
    rfl
  rw [shown]
  cases isDesignTime <;> rfl

/-- Whether a diagnostic tells that a resource is no text. -/
def Diagnostic.isNotText : Diagnostic → Bool
  | .resourceNotText _ _ => true
  | _ => false

/-- The other diagnostics. -/
def Diagnostic.apartFromTexts (diagnostics : List Diagnostic) : List Diagnostic :=
  diagnostics.filter fun diagnostic => !diagnostic.isNotText

/-- Without the texts, a plan has the same problems apart from resources that are no texts. -/
theorem ofPlan_withoutTexts (embedded : List String) (plan : Plan) :
    Diagnostic.apartFromTexts (Diagnostic.ofPlan embedded plan.withoutTexts) =
      Diagnostic.apartFromTexts (Diagnostic.ofPlan embedded plan) := by
  refine (changes_withoutTexts plan plan.isDesignTime).filter_ofPlan _ embedded ?_
  intro type property _
  have others : ∀ property : Property,
      (Diagnostic.ofProperty type embedded property).filter (fun diagnostic =>
        !diagnostic.isNotText) =
      (if property.candidate.resourceName ∈ embedded then []
        else [Diagnostic.resourceNotEmbedded type property.candidate.resourceName]).filter
          fun diagnostic => !diagnostic.isNotText := by
    intro property
    rw [Diagnostic.ofProperty, List.filter_append]
    cases property.candidate.text <;> rfl
  rw [others, others]
  rfl

/-- The same problems apart from resources that are no texts are collected without the texts. -/
theorem collect_withoutTexts (plans : List Plan) (embedded : List Render.EmbeddedFile) :
    Diagnostic.apartFromTexts (Diagnostic.collect (plans.map Plan.withoutTexts) embedded) =
      Diagnostic.apartFromTexts (Diagnostic.collect plans embedded) := by
  have each := fun plan (_ : plan ∈ plans) =>
    ofPlan_withoutTexts (embedded.map Render.EmbeddedFile.resourceName) plan
  rw [Diagnostic.apartFromTexts, Diagnostic.apartFromTexts, Diagnostic.collect,
    Diagnostic.collect, List.flatMap_map, List.filter_flatMap, List.filter_flatMap,
    List.flatMap_def, List.flatMap_def]
  exact congrArg _ (List.map_congr_left each)

/-- The same files are embedded without the texts. -/
theorem embeddedFiles_withoutTexts (input : Input) (plans : List Plan) :
    embeddedFiles input (plans.map Plan.withoutTexts) = embeddedFiles input plans := by
  have wanted : ((plans.map Plan.withoutTexts).flatMap Plan.properties).map embeddedOf =
      (plans.flatMap Plan.properties).map embeddedOf := by
    rw [List.flatMap_map, List.map_flatMap, List.map_flatMap]
    congr 1
    funext plan
    rw [Plan.withoutTexts, List.map_map]
    rfl
  simp only [embeddedFiles, wanted]

end Generation

end ResourceAccessors
