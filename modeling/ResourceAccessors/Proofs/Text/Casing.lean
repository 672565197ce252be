import ResourceAccessors.Text.Casing
import ResourceAccessors.Text.Identifier

/-!
# Upper-case letters in identifiers

The upper-case form of a character that starts an identifier starts one too, and is no small letter of
ASCII. Both are read off the tables, one run of the case mappings at a time.
-/

namespace ResourceAccessors.Text

/-! ### Ranges of a table -/

namespace CharTable

/-- Whether one interval of the table holds all codes from `low` to `high`. -/
def spans : CharTable → Nat → Nat → Bool
  | [], _, _ => false
  | (first, last) :: rest, low, high =>
    bif low.blt first then false else high.ble last || spans rest low high

/-- Whether the table holds no code from `low` to `high`. -/
def misses : CharTable → Nat → Nat → Bool
  | [], _, _ => true
  | (first, last) :: rest, low, high =>
    bif high.blt first then true else last.blt low && misses rest low high

variable {table : CharTable} {low high code : Nat}

/-- A table that spans a range holds every code in it. -/
theorem holds_of_spans (spans : table.spans low high = true) (above : low ≤ code)
    (below : code ≤ high) : table.holds code = true := by
  induction table with
  | nil => cases spans
  | cons range rest ih =>
    simp only [CharTable.spans, cond_eq_ite, Nat.blt_eq] at spans
    split at spans
    next => cases spans
    next inside =>
      rw [holds, if_neg (by omega)]
      rw [Bool.or_eq_true] at spans ⊢
      rcases spans with whole | later
      · exact .inl (decide_eq_true (Nat.le_trans below (Nat.le_of_ble_eq_true whole)))
      · exact .inr (ih later)

/-- A table that misses a range holds no code in it. -/
theorem not_holds_of_misses (misses : table.misses low high = true) (above : low ≤ code)
    (below : code ≤ high) : table.holds code = false := by
  induction table with
  | nil => rfl
  | cons range rest ih =>
    simp only [CharTable.misses, cond_eq_ite, Nat.blt_eq] at misses
    rw [holds]
    split at misses
    next before => rw [if_pos (by omega)]
    next =>
      rw [Bool.and_eq_true, Nat.blt_eq] at misses
      rw [ih misses.2, Bool.or_false]
      split
      next => rfl
      next => exact decide_eq_false (by omega)

end CharTable

/-! ### Case mappings -/

namespace Casing

/-- The code of the last character onto which a run maps. -/
def CaseRun.lastTarget (run : CaseRun) : Nat :=
  run.target + (run.last - run.first)

/-- Whether a run maps no character that starts an identifier, or onto such characters only. -/
def CaseRun.keepsStarts (run : CaseRun) : Bool :=
  Identifier.startTable.spans run.target run.lastTarget ||
    Identifier.startTable.misses run.first run.last ||
    (List.range (run.last - run.first + 1)).all fun distance =>
      distance % run.stride != 0 || Identifier.startTable.holds (run.target + distance)

/-- Whether a run maps onto characters, and onto no small letters of ASCII. -/
def CaseRun.isPlain (run : CaseRun) : Bool :=
  (run.lastTarget < 0x61 || 0x7a < run.target) &&
    (run.lastTarget < 0xd800 || 0xdfff < run.target && run.lastTarget < 0x110000)

/-- The runs of upper case map what starts an identifier onto what starts one. -/
theorem keepsStarts_upperRuns : ∀ run ∈ upperRuns, run.keepsStarts = true := by
  decide +kernel

/-- The runs of upper case map onto characters, and onto no small letters of ASCII. -/
theorem isPlain_upperRuns : ∀ run ∈ upperRuns, run.isPlain = true := by
  decide +kernel

/-- Where the upper-case form is listed on its own, it is not one character. -/
theorem length_upperExpansions : ∀ expansion ∈ upperExpansions, expansion.2.length ≠ 1 := by
  decide +kernel

/-- No small letter of ASCII is among them. -/
theorem large_upperExpansions : ∀ expansion ∈ upperExpansions, 0x7a < expansion.1 := by
  decide +kernel

/-- Every small letter of ASCII is in a run. -/
theorem isSome_imageIn?_small : ∀ code < 0x7b, 0x61 ≤ code → (imageIn? upperRuns code).isSome = true := by
  decide +kernel

/-- An image comes from a run at some distance from its first character. -/
theorem exists_run_of_imageIn? {runs : List CaseRun} {code image : Nat}
    (mapped : imageIn? runs code = some image) : ∃ run ∈ runs, run.first ≤ code ∧ code ≤ run.last ∧
      (code - run.first) % run.stride = 0 ∧ image = run.target + (code - run.first) := by
  induction runs with
  | nil => cases mapped
  | cons first rest ih =>
    rw [imageIn?] at mapped
    split at mapped
    next inside =>
      cases mapped
      exact ⟨first, List.mem_cons_self, inside.1, inside.2.1, inside.2.2, rfl⟩
    next =>
      obtain ⟨run, mem, found⟩ := ih mapped
      exact ⟨run, List.mem_cons_of_mem _ mem, found⟩

/-- What a code is mapped onto: a character that is no small letter of ASCII and starts identifiers if the
code does. -/
structure Raises (code image : Nat) : Prop where
  valid : image.isValidChar
  notSmall : image < 0x61 ∨ 0x7a < image
  starts : Identifier.startTable.holds code = true → Identifier.startTable.holds image = true

/-- A run of upper case raises what it maps. -/
theorem raises_of_imageIn? {code image : Nat} (mapped : imageIn? upperRuns code = some image) :
    Raises code image := by
  obtain ⟨run, mem, above, below, stride, rfl⟩ := exists_run_of_imageIn? mapped
  have plain := isPlain_upperRuns run mem
  have keeps := keepsStarts_upperRuns run mem
  have inRange : run.target + (code - run.first) ≤ run.lastTarget := by
    rw [CaseRun.lastTarget]
    omega
  simp only [CaseRun.isPlain, Bool.and_eq_true, Bool.or_eq_true, decide_eq_true_eq] at plain
  constructor
  case valid =>
    rw [Nat.isValidChar]
    omega
  case notSmall => omega
  case starts =>
    intro starts
    rw [CaseRun.keepsStarts, Bool.or_eq_true, Bool.or_eq_true] at keeps
    rcases keeps with (spans | misses) | each
    · exact CharTable.holds_of_spans spans (Nat.le_add_right _ _) inRange
    · rw [CharTable.not_holds_of_misses misses above below] at starts
      cases starts
    · have here := List.all_eq_true.1 each (code - run.first) (List.mem_range.2 (by omega))
      simpa [stride] using here

end Casing

/-! ### The first character in upper case -/

/-- What comes of a character at the front: no small letter of ASCII, and one that starts identifiers if the
character does. An underscore stays one. -/
structure IsRaised (c raised : Char) : Prop where
  notSmall : raised.isLower = false
  starts : startsIdentifier c = true → startsIdentifier raised = true
  underscore : c = '_' → raised = '_'

/-- A character is no small letter of ASCII when it lies outside their range. -/
theorem isLower_eq_false_iff {c : Char} : c.isLower = false ↔ c.toNat < 0x61 ∨ 0x7a < c.toNat := by
  have told : c.isLower = (decide (c.val ≥ 'a'.val) && decide (c.val ≤ 'z'.val)) := rfl
  rw [told, Bool.and_eq_false_iff, decide_eq_false_iff_not, decide_eq_false_iff_not, ge_iff_le,
    UInt32.le_iff_toNat_le, UInt32.le_iff_toNat_le]
  exact or_congr Nat.not_le Nat.not_le

/-- A character that is mapped nowhere stays as it is. -/
theorem IsRaised.refl {c : Char} (notSmall : c.toNat < 0x61 ∨ 0x7a < c.toNat) : IsRaised c c :=
  ⟨isLower_eq_false_iff.2 notSmall, id, id⟩

/-- What a run of upper case maps is raised. -/
theorem isRaised_of_imageIn? {c : Char} {image : Nat}
    (mapped : Casing.imageIn? Casing.upperRuns c.toNat = some image) :
    IsRaised c (Char.ofNat image) := by
  have raises := Casing.raises_of_imageIn? mapped
  have code : (Char.ofNat image).toNat = image := by
    rw [Char.ofNat, dif_pos raises.valid]
    rfl
  constructor
  case notSmall => exact isLower_eq_false_iff.2 (code.symm ▸ raises.notSmall)
  case starts =>
    intro starts
    rw [startsIdentifier, CharTable.contains, code]
    exact raises.starts starts
  case underscore =>
    rintro rfl
    have none : Casing.imageIn? Casing.upperRuns '_'.toNat = none := by decide +kernel
    rw [none] at mapped
    cases mapped

/-- The first character is raised, and the others stay. -/
theorem upperFirst_cons (c : Char) (rest : List Char) :
    ∃ raised, upperFirst (c :: rest) = raised :: rest ∧ IsRaised c raised := by
  rw [upperFirst, upperOf, Casing.image]
  cases listed : Casing.upperExpansions.lookup c.toNat with
  | some codes =>
    obtain ⟨before, after, all, -⟩ := List.lookup_eq_some_iff.1 listed
    have mem : (c.toNat, codes) ∈ Casing.upperExpansions := by
      rw [all]
      exact List.mem_append_right _ List.mem_cons_self
    refine ⟨c, ?_, .refl (.inr (Casing.large_upperExpansions _ mem))⟩
    dsimp only
    split
    next single one =>
      have length := congrArg List.length one
      rw [List.length_map] at length
      exact absurd length (Casing.length_upperExpansions _ mem)
    next => rfl
  | none =>
    cases mapped : Casing.imageIn? Casing.upperRuns c.toNat with
    | some image => exact ⟨Char.ofNat image, rfl, isRaised_of_imageIn? mapped⟩
    | none =>
      refine ⟨c, rfl, .refl ?_⟩
      have large : ¬ (0x61 ≤ c.toNat ∧ c.toNat < 0x7b) := by
        rintro ⟨above, below⟩
        have some := Casing.isSome_imageIn?_small c.toNat below above
        rw [mapped] at some
        cases some
      omega

end ResourceAccessors.Text
