import ResourceAccessors.FilePath.Normal
import ResourceAccessors.Proofs.FilePath.Components

/-!
# Normal paths are canonical

The shape of the components that folding keeps, and that a normal form is its own normal form and its
own shortest spelling. Normal paths are therefore equal exactly when their texts are.
-/

namespace ResourceAccessors.FilePath

/-- The components that folding keeps, last one first: names on top of a root or of some `..`. -/
inductive Kept : List Component → Prop
  | root : Kept [.root]
  | parents (count : Nat) : Kept (List.replicate count .parent)
  | name {kept text} (below : Kept kept) (step : Component.IsStep (.name text)) :
      Kept (.name text :: kept)

/-- Folding one more step keeps the shape. -/
theorem Kept.foldOnto {kept : List Component} {component : Component} (shape : Kept kept)
    (step : component.IsStep) : Kept (component.foldOnto kept) := by
  cases component with
  | root => cases step
  | current => cases step
  | name text => exact .name shape step
  | parent =>
    cases shape with
    | root => exact .root
    | name below _ => exact below
    | parents count =>
      cases count with
      | zero => exact .parents 1
      | succ count => exact .parents (count + 2)

/-- Folding any steps keeps the shape. -/
theorem Kept.foldl {steps kept : List Component} (shape : Kept kept)
    (all : ∀ component ∈ steps, component.IsStep) :
    Kept (steps.foldl Component.foldOnto kept) := by
  induction steps generalizing kept with
  | nil => exact shape
  | cons first rest inductionHypothesis =>
    exact inductionHypothesis (shape.foldOnto (all first List.mem_cons_self))
      fun component mem => all component (List.mem_cons_of_mem _ mem)

/-- What folding well-formed components keeps has the shape. -/
theorem kept_of_wellFormed {all : List Component} (wellFormed : WellFormed all) :
    Kept (all.foldl Component.foldOnto []) := by
  cases wellFormed with
  | rooted steps =>
    have shape := Kept.root.foldl steps
    exact shape
  | here steps =>
    have shape := (Kept.parents 0).foldl steps
    exact shape
  | relative steps => exact (Kept.parents 0).foldl steps

/-- Well-formed components stay so with one more step behind them. -/
theorem WellFormed.append_step {all : List Component} {component : Component}
    (wellFormed : WellFormed all) (step : component.IsStep) : WellFormed (all ++ [component]) := by
  have extended : ∀ {rest : List Component}, (∀ c ∈ rest, c.IsStep) →
      ∀ c ∈ rest ++ [component], c.IsStep := by
    intro rest steps c mem
    rcases List.mem_append.1 mem with old | new
    · exact steps c old
    · exact List.mem_singleton.1 new ▸ step
  cases wellFormed with
  | rooted steps => exact .rooted (extended steps)
  | here steps => exact .here (extended steps)
  | relative steps => exact .relative (extended steps)

/-- Components of the shape are well formed. -/
theorem Kept.wellFormed_reverse {kept : List Component} (shape : Kept kept) :
    WellFormed kept.reverse := by
  induction shape with
  | root => exact .rooted (by simp)
  | parents count =>
    rw [List.reverse_replicate]
    refine .relative fun component mem => ?_
    rw [List.eq_of_mem_replicate mem]
    trivial
  | name _ step inductionHypothesis =>
    rw [List.reverse_cons]
    exact inductionHypothesis.append_step step

/-- Folding `..` after `..` keeps all of them. -/
theorem foldl_replicate_parent (count done : Nat) :
    (List.replicate count .parent).foldl Component.foldOnto (List.replicate done .parent) =
      List.replicate (done + count) .parent := by
  induction count generalizing done with
  | zero => rfl
  | succ count inductionHypothesis =>
    have once : Component.foldOnto (List.replicate done .parent) .parent =
        List.replicate (done + 1) .parent := by
      cases done <;> rfl
    rw [List.replicate_succ, List.foldl_cons, once, inductionHypothesis]
    congr 1
    omega

/-- Components of the shape are kept as they are when they are folded again. -/
theorem Kept.foldl_reverse {kept : List Component} (shape : Kept kept) :
    kept.reverse.foldl Component.foldOnto [] = kept := by
  induction shape with
  | root => rfl
  | parents count =>
    rw [List.reverse_replicate]
    simpa using foldl_replicate_parent count 0
  | name _ _ inductionHypothesis =>
    rw [List.reverse_cons, List.foldl_append, inductionHypothesis]
    rfl

/-! ### Normal forms -/

/-- The components of a normal form. -/
@[simp]
theorem components_normal (path : FilePath) : path.normal.components = path.normalComponents :=
  components_ofComponents (kept_of_wellFormed (wellFormed_components path)).wellFormed_reverse

/-- A normal form is written in its shortest spelling. -/
@[simp]
theorem plain_normal (path : FilePath) : path.normal.plain = path.normal := by
  rw [plain, components_normal, normal]

/-- A normal form is its own normal form. -/
@[simp]
theorem normal_normal (path : FilePath) : path.normal.normal = path.normal := by
  have shape := kept_of_wellFormed (wellFormed_components path)
  have again : path.normal.normalComponents = path.normalComponents := by
    rw [normalComponents, components_normal, normalComponents, shape.foldl_reverse]
  rw [normal, again, ← normal]

/-- The normal form depends on the components only. -/
@[simp]
theorem normal_plain (path : FilePath) : path.plain.normal = path.normal := by
  simp [normal, normalComponents]

/-- A path that is its own normal form is written in its shortest spelling. -/
theorem plain_of_normal {path : FilePath} (normal : path.normal = path) : path.plain = path := by
  rw [← normal, plain_normal]

end ResourceAccessors.FilePath
