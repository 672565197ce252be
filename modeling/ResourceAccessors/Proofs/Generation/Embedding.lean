import ResourceAccessors.Generation.Embedding
import ResourceAccessors.Proofs.FilePath.Join
import ResourceAccessors.Proofs.FilePath.Order
import ResourceAccessors.Proofs.Spelling

/-!
# Which files are embedded

Every wanted file is represented by an embedded file with its identity, which is a wanted file
itself. No two embedded files share an identity; of several wanted files with one identity the one
with the least path is embedded.
-/

namespace ResourceAccessors.Generation

open Render (EmbeddedFile)
open Spelled

/-! ### The order of files -/

/-- How two files compare: by identity, then by path. -/
def compareFiles : EmbeddedFile → EmbeddedFile → Ordering :=
  compareLex (compareOn EmbeddedFile.resourceName) (compareOn EmbeddedFile.path)

instance : Std.TransCmp compareFiles :=
  inferInstanceAs (Std.TransCmp (compareLex _ _))

/-- Embedded files stand in the order in which they compare. -/
theorem embeddedAtMost_eq (left right : EmbeddedFile) :
    embeddedAtMost left right = (compareFiles left right).isLE := rfl

/-- The order of files is transitive. -/
theorem embeddedAtMost_trans (first second third : EmbeddedFile)
    (left : embeddedAtMost first second = true) (right : embeddedAtMost second third = true) :
    embeddedAtMost first third = true := by
  rw [embeddedAtMost_eq] at left right ⊢
  exact Std.TransCmp.isLE_trans left right

/-- Of two files one does not come after the other. -/
theorem embeddedAtMost_total (left right : EmbeddedFile) :
    (embeddedAtMost left right || embeddedAtMost right left) = true :=
  isLE_or_isLE compareFiles left right

/-- A file does not come after itself. -/
theorem embeddedAtMost_refl (file : EmbeddedFile) : embeddedAtMost file file = true := by
  simpa using embeddedAtMost_total file file

/-- Files in order have identities in order. -/
theorem resourceName_le_of_embeddedAtMost {left right : EmbeddedFile}
    (ordered : embeddedAtMost left right = true) : left.resourceName ≤ right.resourceName :=
  isLE_compare_text_iff.1 (Ordering.isLE_left_of_isLE_then ordered)

/-- Files of one identity in order have paths in order. -/
theorem path_isLE_of_embeddedAtMost {left right : EmbeddedFile}
    (ordered : embeddedAtMost left right = true) (same : left.resourceName = right.resourceName) :
    (compare left.path right.path).isLE = true := by
  have equal : compare left.resourceName right.resourceName = .eq := by
    rw [same]
    exact Std.ReflCmp.compare_self
  rw [embeddedAtMost, equal] at ordered
  exact ordered

/-! ### Equal files in a row -/

/-- The files that are left stand among all files. -/
theorem lastOfEqual_sublist (files : List EmbeddedFile) : (lastOfEqual files).Sublist files := by
  fun_induction lastOfEqual files with
  | case1 => exact .slnil
  | case2 file => exact .refl _
  | case3 file next rest same inductionHypothesis => exact inductionHypothesis.cons file
  | case4 file next rest different inductionHypothesis => exact inductionHypothesis.cons_cons file

/-- Every file has an equal one among those that are left. -/
theorem exists_mem_lastOfEqual {files : List EmbeddedFile} {file : EmbeddedFile}
    (mem : file ∈ files) : ∃ kept ∈ lastOfEqual files, plain kept = plain file := by
  fun_induction lastOfEqual files generalizing file with
  | case1 => cases mem
  | case2 only =>
    refine ⟨only, List.mem_singleton_self only, ?_⟩
    rw [List.mem_singleton.1 mem]
  | case3 first next rest same inductionHypothesis =>
    rcases List.mem_cons.1 mem with rfl | later
    · obtain ⟨kept, keptMem, agrees⟩ := inductionHypothesis List.mem_cons_self
      exact ⟨kept, keptMem, agrees.trans ((beq_iff _ _).1 same).symm⟩
    · exact inductionHypothesis later
  | case4 first next rest different inductionHypothesis =>
    rcases List.mem_cons.1 mem with rfl | later
    · exact ⟨file, List.mem_cons_self, rfl⟩
    · obtain ⟨kept, keptMem, agrees⟩ := inductionHypothesis later
      exact ⟨kept, List.mem_cons_of_mem _ keptMem, agrees⟩

/-! ### Files of one identity in a row -/

/-- The first files of each identity stand among all files. -/
theorem firstOfEachIdentity_sublist (files : List EmbeddedFile) :
    (firstOfEachIdentity files).Sublist files := by
  induction files with
  | nil => exact .slnil
  | cons file rest inductionHypothesis =>
    rw [firstOfEachIdentity]
    cases kept : firstOfEachIdentity rest with
    | nil => exact (List.nil_sublist rest).cons_cons file
    | cons next others =>
      rw [kept] at inductionHypothesis
      dsimp only
      split
      · exact ((List.sublist_cons_self next others).trans inductionHypothesis).cons_cons file
      · exact inductionHypothesis.cons_cons file

/-- The first files of each identity have ascending identities when the files stand in order. -/
theorem pairwise_firstOfEachIdentity {files : List EmbeddedFile}
    (sorted : files.Pairwise fun left right => embeddedAtMost left right = true) :
    (firstOfEachIdentity files).Pairwise fun left right =>
      left.resourceName < right.resourceName := by
  induction files with
  | nil => exact .nil
  | cons file rest inductionHypothesis =>
    obtain ⟨below, rests⟩ := List.pairwise_cons.1 sorted
    have ascending := inductionHypothesis rests
    rw [firstOfEachIdentity]
    cases kept : firstOfEachIdentity rest with
    | nil => exact List.pairwise_singleton _ _
    | cons next others =>
      rw [kept] at ascending
      obtain ⟨above, later⟩ := List.pairwise_cons.1 ascending
      have nextMem : next ∈ rest :=
        (firstOfEachIdentity_sublist rest).subset (kept ▸ List.mem_cons_self)
      have atMost := resourceName_le_of_embeddedAtMost (below next nextMem)
      dsimp only
      split
      next same =>
        refine List.pairwise_cons.2 ⟨fun other mem => ?_, later⟩
        rw [same]
        exact above other mem
      next different =>
        refine List.pairwise_cons.2 ⟨fun other mem => ?_, ascending⟩
        have less : file.resourceName < next.resourceName := by
          refine Decidable.byContradiction fun notLess => ?_
          exact different (String.le_antisymm atMost (String.not_lt.1 notLess))
        rcases List.mem_cons.1 mem with rfl | behind
        · exact less
        · exact String.lt_trans less (above other behind)

/-- For every file the first one of its identity is kept. -/
theorem exists_mem_firstOfEachIdentity {files : List EmbeddedFile} {file : EmbeddedFile}
    (sorted : files.Pairwise fun left right => embeddedAtMost left right = true)
    (mem : file ∈ files) :
    ∃ kept ∈ firstOfEachIdentity files, kept.resourceName = file.resourceName ∧
      embeddedAtMost kept file = true := by
  induction files with
  | nil => cases mem
  | cons first rest inductionHypothesis =>
    obtain ⟨below, rests⟩ := List.pairwise_cons.1 sorted
    rw [firstOfEachIdentity]
    rcases List.mem_cons.1 mem with rfl | later
    · refine ⟨file, ?_, rfl, embeddedAtMost_refl file⟩
      cases firstOfEachIdentity rest with
      | nil => exact List.mem_singleton_self file
      | cons next others =>
        dsimp only
        split <;> exact List.mem_cons_self
    · obtain ⟨kept, keptMem, sameName, ordered⟩ := inductionHypothesis rests later
      cases shape : firstOfEachIdentity rest with
      | nil =>
        rw [shape] at keptMem
        cases keptMem
      | cons next others =>
        rw [shape] at keptMem
        dsimp only
        split
        next same =>
          -- The kept file gives way to the one in front of it when they share the identity.
          rcases List.mem_cons.1 keptMem with rfl | behind
          · exact ⟨first, List.mem_cons_self, same.trans sameName, below file later⟩
          · exact ⟨kept, List.mem_cons_of_mem _ behind, sameName, ordered⟩
        · exact ⟨kept, List.mem_cons_of_mem _ keptMem, sameName, ordered⟩

/-! ### Changed files -/

/-- Equal files in a row stay so under a change that keeps which files are equal. -/
theorem lastOfEqual_map {change : EmbeddedFile → EmbeddedFile} {files : List EmbeddedFile}
    (equal : ∀ left ∈ files, ∀ right ∈ files, (change left == change right) = (left == right)) :
    lastOfEqual (files.map change) = (lastOfEqual files).map change := by
  fun_induction lastOfEqual files with
  | case1 => rfl
  | case2 file => rfl
  | case3 file next rest same inductionHypothesis =>
    have sameChanged := equal file List.mem_cons_self next (by simp)
    rw [List.map_cons, List.map_cons, lastOfEqual, sameChanged, if_pos same]
    exact inductionHypothesis fun left leftMem right rightMem =>
      equal left (List.mem_cons_of_mem _ leftMem) right (List.mem_cons_of_mem _ rightMem)
  | case4 file next rest different inductionHypothesis =>
    have sameChanged := equal file List.mem_cons_self next (by simp)
    rw [List.map_cons, List.map_cons, lastOfEqual, sameChanged, if_neg different]
    exact congrArg _ (inductionHypothesis fun left leftMem right rightMem =>
      equal left (List.mem_cons_of_mem _ leftMem) right (List.mem_cons_of_mem _ rightMem))

/-- The first files of each identity stay so under a change that keeps identities. -/
theorem firstOfEachIdentity_map {change : EmbeddedFile → EmbeddedFile}
    (names : ∀ file, (change file).resourceName = file.resourceName) (files : List EmbeddedFile) :
    firstOfEachIdentity (files.map change) = (firstOfEachIdentity files).map change := by
  induction files with
  | nil => rfl
  | cons file rest inductionHypothesis =>
    rw [List.map_cons, firstOfEachIdentity, firstOfEachIdentity, inductionHypothesis]
    cases firstOfEachIdentity rest with
    | nil => rfl
    | cons next others =>
      simp only [List.map_cons, names]
      split <;> rfl

/-- A change of files that keeps identities, equality and order. -/
structure KeepsPlaces (change : EmbeddedFile → EmbeddedFile) (files : List EmbeddedFile) : Prop where
  names : ∀ file, (change file).resourceName = file.resourceName
  equal : ∀ left ∈ files, ∀ right ∈ files, (change left == change right) = (left == right)
  order : ∀ left ∈ files, ∀ right ∈ files,
    embeddedAtMost (change left) (change right) = embeddedAtMost left right

/-- The first files of each identity among some files, in order, stay so under such a change. -/
theorem KeepsPlaces.firstOfEachIdentity_mergeSort {change : EmbeddedFile → EmbeddedFile}
    {files : List EmbeddedFile} (keeps : KeepsPlaces change files) :
    firstOfEachIdentity (lastOfEqual ((files.map change).mergeSort embeddedAtMost)) =
      (firstOfEachIdentity (lastOfEqual (files.mergeSort embeddedAtMost))).map change := by
  have sorted : (files.map change).mergeSort embeddedAtMost =
      (files.mergeSort embeddedAtMost).map change :=
    (List.map_mergeSort fun left leftMem right rightMem =>
      (keeps.order left leftMem right rightMem).symm).symm
  rw [sorted, lastOfEqual_map, firstOfEachIdentity_map keeps.names]
  intro left leftMem right rightMem
  exact keeps.equal left (List.mem_mergeSort.1 leftMem) right (List.mem_mergeSort.1 rightMem)

/-! ### The embedded files -/

/-- The files that a pass is to embed. -/
def wantedFiles (input : Input) (plans : List Plan) : List EmbeddedFile :=
  match input.embedded with
  | some paths => paths.map (embeddedAt input.options)
  | none => (plans.flatMap Plan.properties).map embeddedOf

/-- The embedded files are the first ones of each identity among the wanted files in order. -/
theorem embeddedFiles_eq (input : Input) (plans : List Plan) :
    embeddedFiles input plans = firstOfEachIdentity
      (lastOfEqual ((wantedFiles input plans).mergeSort embeddedAtMost)) := rfl

/-- The wanted files stand in order when equal ones are left out. -/
theorem pairwise_lastOfEqual_mergeSort (files : List EmbeddedFile) :
    (lastOfEqual (files.mergeSort embeddedAtMost)).Pairwise fun left right =>
      embeddedAtMost left right = true :=
  (List.pairwise_mergeSort embeddedAtMost_trans embeddedAtMost_total files).sublist
    (lastOfEqual_sublist _)

/-- Every embedded file is a wanted one. -/
theorem mem_wantedFiles_of_mem {input : Input} {plans : List Plan} {file : EmbeddedFile}
    (mem : file ∈ embeddedFiles input plans) : file ∈ wantedFiles input plans := by
  rw [embeddedFiles_eq] at mem
  have left := (firstOfEachIdentity_sublist _).subset mem
  have sorted := (lastOfEqual_sublist _).subset left
  exact List.mem_mergeSort.1 sorted

/-- The identities of the embedded files ascend. -/
theorem pairwise_embeddedFiles (input : Input) (plans : List Plan) :
    (embeddedFiles input plans).Pairwise fun left right =>
      left.resourceName < right.resourceName := by
  rw [embeddedFiles_eq]
  exact pairwise_firstOfEachIdentity (pairwise_lastOfEqual_mergeSort _)

/-- For every wanted file one of its identity is embedded, at a path that does not come after its
own. -/
theorem exists_embedded {input : Input} {plans : List Plan} {file : EmbeddedFile}
    (mem : file ∈ wantedFiles input plans) :
    ∃ kept ∈ embeddedFiles input plans, kept.resourceName = file.resourceName ∧
      (compare kept.path file.path).isLE = true := by
  obtain ⟨equal, equalMem, agrees⟩ :=
    exists_mem_lastOfEqual (List.mem_mergeSort.2 mem : file ∈ _)
  obtain ⟨kept, keptMem, sameName, ordered⟩ :=
    exists_mem_firstOfEachIdentity (pairwise_lastOfEqual_mergeSort _) equalMem
  have equalName : equal.resourceName = file.resourceName := eq_of_plain (fun _ => rfl) agrees
  have equalPath : equal.path.plain = file.path.plain := congrArg EmbeddedFile.path agrees
  refine ⟨kept, embeddedFiles_eq input plans ▸ keptMem, sameName.trans equalName, ?_⟩
  have atMost := path_isLE_of_embeddedAtMost ordered sameName
  rwa [← FilePath.compare_plain, equalPath, FilePath.compare_plain] at atMost

end ResourceAccessors.Generation
