import Mathlib.Data.List.Basic
import Mathlib.Data.String.Basic
import ResourceAccessors.FilePath.FileName
import ResourceAccessors.Proofs.FilePath.Components

/-!
# Parents and file names

A path has a parent when its last component is not the root. The parent has the components in front of
the last one, and is written in its shortest spelling.

The extension of a file name is what stands in it from its last dot on, the dot included. A name that
starts with its only dot is all extension, one that ends in a dot has this dot as its extension, and
one without a dot has the empty one.
-/

namespace ResourceAccessors.FilePath

variable {path folder parent : FilePath}

/-- A front part of well-formed components is well formed. -/
theorem WellFormed.front {all taken : List Component} (wellFormed : WellFormed all)
    (front : taken <+: all) : WellFormed taken := by
  obtain ⟨rest, rfl⟩ := front
  cases taken with
  | nil => exact .relative (by simp)
  | cons first others =>
    have steps : ∀ {components : List Component}, (∀ c ∈ components ++ rest, c.IsStep) →
        ∀ c ∈ components, c.IsStep := fun all c mem => all c (List.mem_append_left _ mem)
    cases wellFormed with
    | rooted all => exact .rooted (steps all)
    | here all => exact .here (steps all)
    | relative all => exact .relative (steps all)

/-- The parent of a path has the components in front of the last one. -/
theorem parent?_eq_some_iff : path.parent? = some parent ↔ ∃ before last, last ≠ .root ∧
    path.components = before ++ [last] ∧ parent = ofComponents before := by
  rw [parent?]
  rcases List.eq_nil_or_concat' path.components with none | ⟨before, last, some⟩
  · simp [none]
  · rw [some, List.reverse_concat]
    cases last with
    | root => simp
    | _ => simp [eq_comm]

/-- A path is its parent and one more component, which is not the root. -/
theorem exists_last_of_parent? (found : path.parent? = some parent) :
    ∃ last, last ≠ .root ∧ path.components = parent.components ++ [last] := by
  obtain ⟨before, last, notRoot, components, rfl⟩ := parent?_eq_some_iff.1 found
  have front : before <+: path.components := ⟨[last], components.symm⟩
  rw [components_ofComponents ((wellFormed_components path).front front)]
  exact ⟨last, notRoot, components⟩

/-- A parent is in its shortest spelling. -/
theorem plain_of_parent? (found : path.parent? = some parent) : parent.plain = parent := by
  obtain ⟨before, last, -, components, rfl⟩ := parent?_eq_some_iff.1 found
  rw [plain, components_ofComponents
    ((wellFormed_components path).front ⟨[last], components.symm⟩)]

/-- A path lies directly in a folder when it has the components of the folder and one more, which is
not the root. -/
theorem parent?_beq_iff : (path.parent? == some folder) = true ↔
    ∃ last, last ≠ .root ∧ path.components = folder.components ++ [last] := by
  constructor
  · intro inFolder
    cases found : path.parent? with
    | none =>
      rw [found] at inFolder
      cases inFolder
    | some parent =>
      rw [found, Option.some_beq_some, beq_iff_components] at inFolder
      rw [← inFolder]
      exact exists_last_of_parent? found
  · rintro ⟨last, notRoot, components⟩
    have found := parent?_eq_some_iff.2 ⟨folder.components, last, notRoot, components, rfl⟩
    rw [found, Option.some_beq_some, beq_iff_components]
    exact components_plain folder

end ResourceAccessors.FilePath

namespace ResourceAccessors.FileName

/-- The file name has the extension. -/
inductive EndsIn : String → String → Prop
  /-- A name without a dot has the empty extension. -/
  | dotless {name : String} (none : '.' ∉ name.toList) : EndsIn name ""
  /-- Behind the last dot stands no other one. -/
  | dotted (stem : String) {rest : String} (last : '.' ∉ rest.toList) :
      EndsIn (stem ++ "." ++ rest) ("." ++ rest)

/-! ### The last dot -/

/-- Characters do not split when there is no dot among them. -/
theorem splitAtLastDot?_eq_none_iff {chars : List Char} :
    splitAtLastDot? chars = none ↔ '.' ∉ chars := by
  induction chars with
  | nil => simp [splitAtLastDot?]
  | cons first rest inductionHypothesis =>
    rw [splitAtLastDot?, List.mem_cons, not_or]
    cases split : splitAtLastDot? rest with
    | some parts =>
      have dot : '.' ∈ rest := by
        by_contra none
        rw [inductionHypothesis.2 none] at split
        cases split
      simp [dot]
    | none =>
      have none := inductionHypothesis.1 split
      by_cases isDot : first = '.' <;> simp [isDot, none, eq_comm]

/-- Characters split at a dot behind which there is no other one. -/
theorem splitAtLastDot?_append {stem rest : List Char} (last : '.' ∉ rest) :
    splitAtLastDot? (stem ++ '.' :: rest) = some (stem, '.' :: rest) := by
  induction stem with
  | nil =>
    rw [List.nil_append, splitAtLastDot?, splitAtLastDot?_eq_none_iff.2 last]
    rfl
  | cons first others inductionHypothesis =>
    rw [List.cons_append, splitAtLastDot?, inductionHypothesis]

/-- Where characters split, the second part starts with the last dot. -/
theorem exists_of_splitAtLastDot?_eq_some {chars stem extension : List Char}
    (split : splitAtLastDot? chars = some (stem, extension)) :
    ∃ rest, '.' ∉ rest ∧ extension = '.' :: rest ∧ chars = stem ++ '.' :: rest := by
  induction chars generalizing stem with
  | nil => cases split
  | cons first rest inductionHypothesis =>
    rw [splitAtLastDot?] at split
    split at split
    next front ending later =>
      cases split
      obtain ⟨behind, last, rfl, rfl⟩ := inductionHypothesis later
      exact ⟨behind, last, rfl, rfl⟩
    next none =>
      split at split
      next isDot =>
        cases split
        exact ⟨rest, splitAtLastDot?_eq_none_iff.1 none, by rw [isDot], by rw [isDot]; rfl⟩
      next => cases split

/-! ### The extension -/

/-- Every file name has its extension. -/
theorem endsIn_extension (name : String) : EndsIn name (extension name) := by
  rw [extension]
  cases split : splitAtLastDot? name.toList with
  | none => exact .dotless (splitAtLastDot?_eq_none_iff.1 split)
  | some parts =>
    obtain ⟨rest, last, same, chars⟩ := exists_of_splitAtLastDot?_eq_some split
    have written : name = String.ofList parts.1 ++ "." ++ String.ofList rest := by
      apply String.toList_injective
      simpa using chars
    have ending : String.ofList parts.2 = "." ++ String.ofList rest := by
      apply String.toList_injective
      simpa using same
    show EndsIn name (String.ofList parts.2)
    rw [ending, written]
    exact .dotted _ (by simpa using last)

/-- A file name has no other extension. -/
theorem EndsIn.extension_eq {name ending : String} (ends : EndsIn name ending) :
    extension name = ending := by
  cases ends with
  | dotless none => rw [extension, splitAtLastDot?_eq_none_iff.2 none]
  | @dotted stem rest last =>
    have chars : (stem ++ "." ++ rest).toList = stem.toList ++ '.' :: rest.toList := by simp
    rw [extension, chars, splitAtLastDot?_append last]
    apply String.toList_injective
    simp

/-- The extension of a name is the only text that the name ends in as in an extension. -/
theorem extension_eq_iff {name ending : String} : extension name = ending ↔ EndsIn name ending :=
  ⟨fun same => same ▸ endsIn_extension name, EndsIn.extension_eq⟩

instance (name ending : String) : Decidable (EndsIn name ending) :=
  decidable_of_iff _ extension_eq_iff

end ResourceAccessors.FileName
