import ResourceAccessors.FilePath.Order
import ResourceAccessors.Proofs.FilePath.Components

/-!
# The order of paths is an order

Comparing paths is transitive and total, and says that two paths are equal exactly when they have the
same components. Lists that are sorted by such a comparison stand in its order.
-/

namespace ResourceAccessors

/-- Comparing texts is transitive. -/
instance transOrdText : Std.TransOrd String :=
  Std.TransOrd.compareOfLessAndEq_of_antisymm_of_trans_of_total_of_not_le String.le_antisymm
    String.le_trans String.le_total String.not_le

/-- Texts compare as equal only when they are. -/
instance lawfulEqOrdText : Std.LawfulEqOrd String where
  eq_of_compare := (compareOfLessAndEq_eq_eq String.le_refl String.not_le).1

/-- Texts compare in the order of texts. -/
theorem isLE_compare_text_iff {left right : String} :
    (compare left right).isLE = true ↔ left ≤ right :=
  isLE_compareOfLessAndEq String.le_antisymm String.not_le String.le_total

/-! ### Sorting by a comparison -/

section Sorting

variable {α : Type} (order : α → α → Ordering)

/-- Of two items one does not come after the other. -/
theorem isLE_or_isLE [Std.OrientedCmp order] (left right : α) :
    ((order left right).isLE || (order right left).isLE) = true := by
  have swapped : order right left = (order left right).swap := Std.OrientedCmp.eq_swap
  rw [swapped]
  cases order left right <;> rfl

/-- A list that is sorted by a comparison stands in its order. -/
theorem pairwise_mergeSort_isLE [Std.TransCmp order] (items : List α) :
    (items.mergeSort fun left right => (order left right).isLE).Pairwise
      fun left right => (order left right).isLE = true :=
  List.pairwise_mergeSort (fun _ _ _ => Std.TransCmp.isLE_trans) (isLE_or_isLE order) items

end Sorting

namespace FilePath

instance : Std.TransOrd Component :=
  inferInstanceAs (Std.TransCmp (compareLex (compareOn Component.rank)
    (compareLex (compareOn fun component => bytesOf component.spelling)
      (compareOn Component.spelling))))

instance : Std.LawfulEqOrd Component where
  eq_of_compare {left right} same := by
    obtain ⟨sameRank, sameName⟩ := Ordering.then_eq_eq.1 same
    obtain ⟨-, sameSpelling⟩ := Ordering.then_eq_eq.1 sameName
    have rank := Std.LawfulEqOrd.eq_of_compare sameRank
    have spelling := Std.LawfulEqOrd.eq_of_compare sameSpelling
    cases left <;> cases right <;> simp_all [Component.rank, Component.spelling]

instance : Std.TransOrd FilePath :=
  inferInstanceAs (Std.TransCmp (compareOn FilePath.components))

/-- Paths compare as equal exactly when they are equal. -/
theorem compare_eq_iff_beq (left right : FilePath) :
    compare left right = .eq ↔ (left == right) = true := by
  have lists : compare left.components right.components = .eq ↔
      left.components = right.components := Std.LawfulEqOrd.compare_eq_iff_eq
  rw [beq_iff_components]
  exact lists

/-! ### Ascending paths -/

/-- A path that is not among some paths is inserted. -/
theorem insertInOrder_perm {path : FilePath} {paths : List FilePath}
    (fresh : path.components ∉ paths.map components) :
    (insertInOrder path paths).Perm (path :: paths) := by
  induction paths with
  | nil => exact .refl _
  | cons first rest ih =>
    rw [List.map_cons, List.mem_cons, not_or] at fresh
    rw [insertInOrder]
    split
    next => exact .refl _
    next same =>
      rw [compare_eq_iff_beq, beq_iff_components] at same
      exact absurd same fresh.1
    next => exact ((ih fresh.2).cons first).trans (.swap path first rest)

/-- Different paths are all kept when they are put in order. -/
theorem ascending_perm {paths : List FilePath} (distinct : (paths.map components).Nodup) :
    (ascending paths).Perm paths := by
  have inserted : ∀ kept : List FilePath, ((kept ++ paths).map components).Nodup →
      (paths.foldl (fun kept path => insertInOrder path kept) kept).Perm (kept ++ paths) := by
    clear distinct
    induction paths with
    | nil =>
      intro kept _
      rw [List.append_nil]
      exact .refl _
    | cons first rest ih =>
      intro kept distinct
      have moved : (kept ++ first :: rest).Perm (first :: kept ++ rest) := List.perm_middle
      have fresh : first.components ∉ kept.map components := by
        have apart := (moved.map components).nodup_iff.1 distinct
        rw [List.cons_append, List.map_cons, List.nodup_cons, List.map_append] at apart
        exact fun mem => apart.1 (List.mem_append_left _ mem)
      have step := (insertInOrder_perm fresh).append_right rest
      have whole := moved.trans step.symm
      exact (ih _ ((whole.map components).nodup_iff.1 distinct)).trans whole.symm
  exact inserted [] distinct

/-- What is inserted in order is the path or was there. -/
theorem mem_insertInOrder {path found : FilePath} {paths : List FilePath}
    (mem : found ∈ insertInOrder path paths) : found = path ∨ found ∈ paths := by
  induction paths with
  | nil => exact .inl (List.mem_singleton.1 mem)
  | cons first rest ih =>
    rw [insertInOrder] at mem
    split at mem
    next => exact List.mem_cons.1 mem
    next => exact .inr mem
    next =>
      rcases List.mem_cons.1 mem with rfl | later
      · exact .inr List.mem_cons_self
      · rcases ih later with new | old
        · exact .inl new
        · exact .inr (List.mem_cons_of_mem _ old)

/-- A path that is inserted is there, or an equal one is. What was there stays. -/
theorem exists_mem_insertInOrder {path found : FilePath} {paths : List FilePath}
    (mem : found = path ∨ found ∈ paths) :
    ∃ other ∈ insertInOrder path paths, (other == found) = true := by
  have same : ∀ one : FilePath, (one == one) = true := fun one => (beq_iff_components one one).2 rfl
  induction paths with
  | nil =>
    obtain rfl := mem.resolve_right List.not_mem_nil
    exact ⟨found, List.mem_singleton_self _, same _⟩
  | cons first rest ih =>
    rw [insertInOrder]
    split
    next => exact ⟨found, List.mem_cons.2 mem, same _⟩
    next equal =>
      rcases mem with rfl | old
      · rw [compare_eq_iff_beq, beq_iff_components] at equal
        exact ⟨first, List.mem_cons_self, (beq_iff_components _ _).2 equal.symm⟩
      · exact ⟨found, old, same _⟩
    next =>
      rcases mem with rfl | old
      · obtain ⟨other, otherMem, equal⟩ := ih (.inl rfl)
        exact ⟨other, List.mem_cons_of_mem _ otherMem, equal⟩
      · rcases List.mem_cons.1 old with rfl | later
        · exact ⟨found, List.mem_cons_self, same _⟩
        · obtain ⟨other, otherMem, equal⟩ := ih (.inr later)
          exact ⟨other, List.mem_cons_of_mem _ otherMem, equal⟩

/-- Every path is put in order, or an equal one is. -/
theorem exists_mem_ascending {path : FilePath} {paths : List FilePath} (mem : path ∈ paths) :
    ∃ other ∈ ascending paths, (other == path) = true := by
  have reached : ∀ kept : List FilePath, (∃ other ∈ kept, (other == path) = true) ∨ path ∈ paths →
      ∃ other ∈ paths.foldl (fun kept path => insertInOrder path kept) kept,
        (other == path) = true := by
    clear mem
    induction paths with
    | nil => exact fun kept mem => mem.resolve_right List.not_mem_nil
    | cons first rest ih =>
      intro kept mem
      apply ih
      rcases mem with ⟨other, otherMem, equal⟩ | mem
      · obtain ⟨next, nextMem, same⟩ : ∃ next ∈ insertInOrder first kept, (next == other) = true :=
          exists_mem_insertInOrder (.inr otherMem)
        refine .inl ⟨next, nextMem, ?_⟩
        rw [beq_iff_components] at same equal ⊢
        exact same.trans equal
      · rcases List.mem_cons.1 mem with rfl | later
        · exact .inl (exists_mem_insertInOrder (.inl rfl))
        · exact .inr later
  exact reached [] (.inr mem)

/-- Paths stay in strictly ascending order when one is inserted. -/
theorem pairwise_insertInOrder {path : FilePath} {paths : List FilePath}
    (sorted : paths.Pairwise fun left right => compare left right = .lt) :
    (insertInOrder path paths).Pairwise fun left right => compare left right = .lt := by
  induction paths with
  | nil => exact List.pairwise_singleton _ _
  | cons first rest ih =>
    obtain ⟨below, later⟩ := List.pairwise_cons.1 sorted
    rw [insertInOrder]
    split
    next less =>
      refine List.pairwise_cons.2 ⟨fun other mem => ?_, sorted⟩
      rcases List.mem_cons.1 mem with rfl | among
      · exact less
      · exact Std.TransCmp.lt_trans less (below other among)
    next => exact sorted
    next greater =>
      refine List.pairwise_cons.2 ⟨fun other mem => ?_, ih later⟩
      rcases mem_insertInOrder mem with rfl | among
      · exact Std.OrientedCmp.lt_of_gt greater
      · exact below other among

/-- Paths that are put in order are in strictly ascending order. -/
theorem pairwise_ascending (paths : List FilePath) :
    (ascending paths).Pairwise fun left right => compare left right = .lt := by
  have stays : ∀ kept : List FilePath,
      (kept.Pairwise fun left right => compare left right = .lt) →
        (paths.foldl (fun kept path => insertInOrder path kept) kept).Pairwise
          fun left right => compare left right = .lt := by
    induction paths with
    | nil => exact fun kept sorted => sorted
    | cons first rest ih => exact fun kept sorted => ih _ (pairwise_insertInOrder sorted)
  exact stays [] .nil

/-- The ascending paths are among the given ones. -/
theorem mem_of_mem_ascending {path : FilePath} {paths : List FilePath}
    (mem : path ∈ ascending paths) : path ∈ paths := by
  have stays : ∀ kept : List FilePath,
      path ∈ paths.foldl (fun kept path => insertInOrder path kept) kept →
        path ∈ kept ∨ path ∈ paths := by
    clear mem
    induction paths with
    | nil => exact fun kept mem => .inl mem
    | cons first rest ih =>
      intro kept mem
      rcases ih _ mem with inserted | later
      · rcases mem_insertInOrder inserted with rfl | old
        · exact .inr List.mem_cons_self
        · exact .inl old
      · exact .inr (List.mem_cons_of_mem _ later)
  rcases stays [] mem with none | among
  · cases none
  · exact among

/-- Of paths in their shortest spelling the ascending ones are the given ones. -/
theorem mem_ascending_iff {path : FilePath} {paths : List FilePath}
    (plains : ∀ path ∈ paths, path.plain = path) : path ∈ ascending paths ↔ path ∈ paths := by
  refine ⟨mem_of_mem_ascending, fun mem => ?_⟩
  obtain ⟨other, otherMem, same⟩ := exists_mem_ascending mem
  rw [beq_iff_plain, plains path mem, plains other (mem_of_mem_ascending otherMem)] at same
  rwa [← same]

/-- Paths in strictly ascending order are told by which paths they are. -/
theorem eq_of_pairwise_of_mem_iff {one other : List FilePath}
    (sorted : one.Pairwise fun left right => compare left right = .lt)
    (otherSorted : other.Pairwise fun left right => compare left right = .lt)
    (same : ∀ path, path ∈ one ↔ path ∈ other) : one = other := by
  have apart : ∀ {paths : List FilePath},
      (paths.Pairwise fun left right => compare left right = .lt) → paths.Nodup := by
    intro paths sorted
    refine sorted.imp ?_
    rintro path _ less rfl
    rw [(compare_eq_iff_beq path path).2 ((beq_iff_components path path).2 rfl)] at less
    cases less
  have perm : one.Perm other :=
    (List.perm_ext_iff_of_nodup (apart sorted) (apart otherSorted)).2 same
  refine perm.eq_of_pairwise (fun left right _ _ less greater => ?_) sorted otherSorted
  exact absurd (Std.TransCmp.lt_trans less greater) (by simp)

end FilePath

end ResourceAccessors
