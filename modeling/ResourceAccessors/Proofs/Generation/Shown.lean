import ResourceAccessors.Generation.Diagnostic
import ResourceAccessors.Render.Accessors

/-!
# What is shown of a plan

The artifact and the problems of a plan show where it looks for resources only as the documented
folder, and of each accessor only the names and the text. Plans that differ in nothing else are given
the same artifact, and the same problems of every kind that does not concern texts.
-/

namespace ResourceAccessors.Generation

/-- One plan is made from another one by a change of the accessors that keeps their names. The paths
and the kind of build may differ. -/
structure Plan.Changes (change : Property → Property) (one other : Plan) : Prop where
  site : other.site = { one.site with sourceFile := other.site.sourceFile }
  folder : other.searchFolder = one.searchFolder
  properties : other.properties = one.properties.map change
  name : ∀ property, (change property).name = property.name
  fileName : ∀ property, (change property).candidate.fileName = property.candidate.fileName
  resourceName : ∀ property,
    (change property).candidate.resourceName = property.candidate.resourceName

namespace Plan.Changes

variable {change : Property → Property} {one other : Plan}

/-- The types of both plans are displayed in the same way. -/
theorem display_eq (changes : Changes change one other) :
    other.site.display = one.site.display := by
  rw [changes.site]
  rfl

/-- The lines of an accessor are the same when the same text is shown. -/
theorem accessorLines_eq (changes : Changes change one other) {property : Property}
    (shown : Render.shownText other (change property) = Render.shownText one property) :
    Render.accessorLines other (change property) = Render.accessorLines one property := by
  have visibility : other.site.accessorVisibility = one.site.accessorVisibility := by
    rw [changes.site]
    rfl
  unfold Render.accessorLines
  rw [visibility, shown, changes.name, changes.fileName, changes.resourceName]

/-- The artifacts are the same when the same text is shown for every accessor. -/
theorem accessors_eq (changes : Changes change one other)
    (shown : ∀ property ∈ one.properties,
      Render.shownText other (change property) = Render.shownText one property) :
    Render.accessors other = Render.accessors one := by
  have lines : other.properties.flatMap (Render.accessorLines other) =
      one.properties.flatMap (Render.accessorLines one) := by
    rw [changes.properties, List.flatMap_map, List.flatMap_def, List.flatMap_def]
    exact congrArg _ (List.map_congr_left fun property mem =>
      changes.accessorLines_eq (shown property mem))
  have summary : Render.summary other = Render.summary one := by
    have arguments : other.site.arguments = one.site.arguments := by rw [changes.site]
    unfold Render.summary
    rw [arguments, changes.folder, changes.properties, List.isEmpty_map]
  have cfg : other.site.cfgAttributes = one.site.cfgAttributes := by
    rw [changes.site]
    rfl
  have selfType : other.site.selfType = one.site.selfType := by
    rw [changes.site]
    rfl
  have generics : other.site.implGenerics = one.site.implGenerics := by rw [changes.site]
  have clauses : other.site.whereClause = one.site.whereClause := by rw [changes.site]
  have arguments : other.site.arguments = one.site.arguments := by rw [changes.site]
  unfold Render.accessors Render.accessorsLines
  dsimp only
  rw [lines, summary, cfg, generics, selfType, clauses, arguments]

/-- The files behind each accessor name are the same. -/
theorem fileNamesByName_eq (changes : Changes change one other) :
    Diagnostic.fileNamesByName other.properties = Diagnostic.fileNamesByName one.properties := by
  rw [Diagnostic.fileNamesByName, changes.properties, List.foldl_map, Diagnostic.fileNamesByName]
  simp only [changes.name, changes.fileName]

/-- The problems of the kinds that are the same for every accessor are the same for the plans. -/
theorem filter_ofPlan (changes : Changes change one other) (keep : Diagnostic → Bool)
    (embedded : List String)
    (problems : ∀ type, ∀ property ∈ one.properties,
      (Diagnostic.ofProperty type embedded (change property)).filter keep =
        (Diagnostic.ofProperty type embedded property).filter keep) :
    (Diagnostic.ofPlan embedded other).filter keep =
      (Diagnostic.ofPlan embedded one).filter keep := by
  have reachable : other.site.isReachable = one.site.isReachable := by
    rw [changes.site]
    rfl
  have each : ∀ type,
      (other.properties.flatMap (Diagnostic.ofProperty type embedded)).filter keep =
        (one.properties.flatMap (Diagnostic.ofProperty type embedded)).filter keep := by
    intro type
    rw [changes.properties, List.flatMap_map, List.filter_flatMap, List.filter_flatMap,
      List.flatMap_def, List.flatMap_def]
    exact congrArg _ (List.map_congr_left (problems type))
  simp only [Diagnostic.ofPlan, Diagnostic.duplicates, List.filter_append, each, reachable,
    changes.display_eq, changes.fileNamesByName_eq]

/-- The problems are the same when those of every accessor are. -/
theorem ofPlan_eq (changes : Changes change one other) (embedded : List String)
    (problems : ∀ type, ∀ property ∈ one.properties,
      Diagnostic.ofProperty type embedded (change property) =
        Diagnostic.ofProperty type embedded property) :
    Diagnostic.ofPlan embedded other = Diagnostic.ofPlan embedded one := by
  have everything : ∀ list : List Diagnostic, list.filter (fun _ => true) = list :=
    fun list => List.filter_eq_self.2 fun _ _ => rfl
  have all := changes.filter_ofPlan (fun _ => true) embedded fun type property mem => by
    rw [problems type property mem]
  rwa [everything, everything] at all

end Plan.Changes

end ResourceAccessors.Generation
