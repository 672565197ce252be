import ResourceAccessors.Proofs.Accessor.Name
import ResourceAccessors.Proofs.FilePath.FileName
import ResourceAccessors.Proofs.Syntax.Words

/-!
# Accessors with the name of their type

The name of an accessor is compared with that of the type once, as it comes from the stem of the file name. The
whole file name is not compared, so the names can be the same where it says no more than the stem or where there
is no stem, and neither is a reserved name once an underscore stands behind it.
-/

namespace ResourceAccessors

/-! ### Stems -/

namespace FileName

/-- A name without a dot is all stem. -/
theorem stem_of_dotless {name : String} (none : '.' ∉ name.toList) : stem name = name := by
  rw [stem, splitAtLastDot?_eq_none_iff.2 none]

/-- The stem stands before the last dot. -/
theorem stem_of_dotted (front : String) {rest : String} (last : '.' ∉ rest.toList) :
    stem (front ++ "." ++ rest) = front := by
  have chars : (front ++ "." ++ rest).toList = front.toList ++ '.' :: rest.toList := by simp
  rw [stem, chars, splitAtLastDot?_append last]
  exact String.ofList_toList

/-- A name has no dot, or it splits at the last one. -/
theorem dotless_or_dotted (name : String) :
    '.' ∉ name.toList ∨ ∃ front rest, '.' ∉ rest.toList ∧ name = front ++ "." ++ rest := by
  have ends := endsIn_extension name
  generalize extension name = ending at ends
  cases ends with
  | dotless none => exact .inl none
  | dotted front last => exact .inr ⟨front, _, last, rfl⟩

end FileName

namespace Accessor

/-! ### Names of longer texts -/

/-- What is spelled of two texts, one behind the other. -/
theorem exists_transliterate_append (afterSpelled : Bool) (front behind : List Char) :
    ∃ between, transliterate afterSpelled (front ++ behind) =
      transliterate afterSpelled front ++ transliterate between behind := by
  induction front generalizing afterSpelled with
  | nil => exact ⟨afterSpelled, rfl⟩
  | cons c rest ih =>
    rw [List.cons_append, transliterate, transliterate]
    split
    next =>
      obtain ⟨between, later⟩ := ih false
      exact ⟨between, by rw [later, List.cons_append]⟩
    next =>
      obtain ⟨between, later⟩ := ih true
      exact ⟨between, by rw [later]; simp⟩

/-- A dot is spelled with at least four characters, and with one more where no spelled one stands before it. -/
theorem le_length_transliterate_dot (afterSpelled : Bool) (rest : List Char) :
    (if afterSpelled then 4 else 5) ≤ (transliterate afterSpelled ('.' :: rest)).length := by
  have spelled : transliterate afterSpelled ('.' :: rest) =
      (if afterSpelled then [] else ['_']) ++ ['d', 'o', 't'] ++ '_' :: transliterate true rest := by
    rw [transliterate, if_neg (by decide)]
    rfl
  rw [spelled]
  cases afterSpelled <;> simp

/-- The anchor looks at the first character only. -/
theorem anchor_append {front : List Char} (some : front ≠ []) (behind : List Char) :
    anchor (front ++ behind) = anchor front ++ behind := by
  obtain ⟨c, rest, rfl⟩ := List.exists_cons_of_ne_nil some
  rw [List.cons_append, anchor, anchor]
  split <;> rfl

/-- Anchoring leaves no text empty that was not. -/
theorem anchor_ne_nil {chars : List Char} (some : chars ≠ []) : anchor chars ≠ [] := by
  obtain ⟨c, rest, rfl⟩ := List.exists_cons_of_ne_nil some
  rw [anchor]
  split <;> exact List.cons_ne_nil _ _

/-- What stands behind the first character has no part in its case. -/
theorem upperFirst_append {front : List Char} (some : front ≠ []) (behind : List Char) :
    Text.upperFirst (front ++ behind) = Text.upperFirst front ++ behind := by
  obtain ⟨c, rest, rfl⟩ := List.exists_cons_of_ne_nil some
  rw [List.cons_append, Text.upperFirst, Text.upperFirst]
  split <;> rfl

/-- Raising the first character keeps the length, since it is raised only to a single one. -/
theorem length_upperFirst (chars : List Char) : (Text.upperFirst chars).length = chars.length := by
  cases chars with
  | nil => rfl
  | cons c rest =>
    obtain ⟨raised, upper, -⟩ := Text.upperFirst_cons c rest
    rw [upper, List.length_cons, List.length_cons]

/-- Anchoring adds characters and takes none. -/
theorem le_length_anchor (chars : List Char) : chars.length ≤ (anchor chars).length := by
  cases chars with
  | nil => exact Nat.le_refl 0
  | cons c rest =>
    rw [anchor]
    split <;> simp

/-- With an extension behind it, a text has a longer identifier, which is longer than the reserved names. -/
theorem length_identifierFor_dotted (front rest : String) :
    (identifierFor front).length < (identifierFor (front ++ "." ++ rest)).length ∧
      4 < (identifierFor (front ++ "." ++ rest)).length := by
  have chars : (front ++ "." ++ rest).toList = front.toList ++ '.' :: rest.toList := by simp
  rw [identifierFor, identifierFor, chars, String.length_ofList, String.length_ofList]
  by_cases none : front.toList = []
  · have spelled := le_length_transliterate_dot false rest.toList
    have whole := le_length_anchor (transliterate false ('.' :: rest.toList))
    have nothing : (anchor (transliterate false [])).length = 0 := rfl
    rw [if_neg Bool.false_ne_true] at spelled
    rw [none, List.nil_append, length_upperFirst, length_upperFirst, nothing]
    omega
  · obtain ⟨between, spelled⟩ :=
      exists_transliterate_append false front.toList ('.' :: rest.toList)
    have dot := le_length_transliterate_dot between rest.toList
    have some := transliterate_ne_nil none false
    have kept := le_length_anchor (transliterate false front.toList)
    have nonempty := List.length_pos_iff.2 some
    rw [spelled, anchor_append some, upperFirst_append (anchor_ne_nil some), List.length_append,
      length_upperFirst]
    split at dot <;> omega

/-! ### Reserved names -/

/-- An underscore goes behind a reserved name. -/
theorem length_le_of_reserved {word : String} (reserved : word ∈ reservedNames) : word.length ≤ 4 := by
  revert word
  decide

/-- The names with an underscore behind them, of which types can be called by two. -/
theorem suffixed_mem {word : String} (some : word ≠ "") (reserved : word ∈ reservedNames) :
    word ++ "_" ∈ ["__", "Self_"] := by
  simp only [reservedNames, List.mem_cons, List.not_mem_nil, or_false] at reserved
  rcases reserved with rfl | rfl | rfl
  · exact absurd rfl some
  · decide
  · decide

/-- A reserved word with an underscore is one of the words that end so. -/
theorem reserved_of_suffixed {word : String} (suffixed : word ++ "_" ∈ ["__", "Self_"]) :
    word ∈ reservedNames := by
  have cut (other : String) (same : word ++ "_" = other ++ "_") : word = other := by
    simpa [← String.toList_inj] using same
  simp only [List.mem_cons, List.not_mem_nil, or_false] at suffixed
  rcases suffixed with lone | self
  · rw [cut "_" lone]
    decide
  · rw [cut "Self" self]
    decide

/-- What avoids the reserved names is the text itself or a reserved name with an underscore. -/
theorem avoided_eq_iff {word typeName : String} :
    (if word ∈ reservedNames then word ++ "_" else word) = typeName ↔
      word = typeName ∧ typeName ∉ reservedNames ∨ word ∈ reservedNames ∧ word ++ "_" = typeName := by
  split
  next reserved =>
    constructor
    · exact fun same => .inr ⟨reserved, same⟩
    · rintro (⟨rfl, free⟩ | ⟨-, same⟩)
      · exact absurd reserved free
      · exact same
  next free =>
    constructor
    · rintro rfl
      exact .inl ⟨rfl, free⟩
    · rintro (⟨same, -⟩ | ⟨reserved, -⟩)
      · exact same
      · exact absurd reserved free

/-! ### The name of the type -/

section Name

variable {fileName typeName : String}

/-- Nothing with an underscore behind it is as it was. -/
theorem append_underscore_ne (word : String) : word ++ "_" ≠ word := by
  intro same
  have lengths := congrArg String.length same
  simp at lengths

/-- A stem that gives a name other than that of the type is named like the type when the name is reserved and the
type is called like it with an underscore behind. -/
theorem name_eq_iff_of_usable (some : identifierFor (FileName.stem fileName) ≠ "")
    (differs : identifierFor (FileName.stem fileName) ≠ typeName) :
    name fileName typeName = typeName ↔
      typeName ∈ ["__", "Self_"] ∧ identifierFor (FileName.stem fileName) ++ "_" = typeName := by
  simp only [name, if_neg (not_or.2 ⟨some, differs⟩)]
  rw [avoided_eq_iff]
  constructor
  · rintro (⟨same, -⟩ | ⟨reserved, rfl⟩)
    · exact absurd same differs
    · exact ⟨suffixed_mem some reserved, rfl⟩
  · rintro ⟨suffixed, rfl⟩
    exact .inr ⟨reserved_of_suffixed suffixed, rfl⟩

/-- Where the stem gives nothing or the name of the type, the whole file name is named like the type when it gives
this name too and says no more than the stem, or there is no stem. -/
theorem name_eq_iff_of_unusable (some : fileName ≠ "")
    (unusable : identifierFor (FileName.stem fileName) = "" ∨
      identifierFor (FileName.stem fileName) = typeName) :
    name fileName typeName = typeName ↔ identifierFor fileName = typeName ∧
      typeName ∉ reservedNames ∧ ('.' ∉ fileName.toList ∨ FileName.stem fileName = "") := by
  simp only [name, if_pos unusable]
  rw [avoided_eq_iff]
  rcases FileName.dotless_or_dotted fileName with dotless | ⟨front, rest, last, rfl⟩
  · have same : identifierFor fileName = typeName := by
      rw [FileName.stem_of_dotless dotless] at unusable
      exact unusable.resolve_left (identifierFor_ne some)
    simp [same, dotless]
  · have dot : '.' ∈ (front ++ "." ++ rest).toList := by simp
    obtain ⟨longer, large⟩ := length_identifierFor_dotted front rest
    have free : identifierFor (front ++ "." ++ rest) ∉ reservedNames := fun reserved =>
      absurd (length_le_of_reserved reserved) (Nat.not_le.2 large)
    rw [FileName.stem_of_dotted front last] at unusable ⊢
    have stemless : identifierFor (front ++ "." ++ rest) = typeName → front = "" := by
      rintro rfl
      by_contra written
      have shorter := unusable.resolve_left (identifierFor_ne written)
      rw [shorter] at longer
      exact Nat.lt_irrefl _ longer
    constructor
    · rintro (⟨same, unreserved⟩ | ⟨reserved, -⟩)
      · exact ⟨same, unreserved, .inr (stemless same)⟩
      · exact absurd reserved free
    · rintro ⟨same, unreserved, -⟩
      exact .inl ⟨same, unreserved⟩

/-- The accessor for a file has the name of its type in two cases. The whole file name gives this name, and there is
no extension or no stem to tell it from; or the stem gives a reserved name, and the type is called like it with an
underscore behind. -/
theorem name_eq_typeName_iff (some : fileName ≠ "") (typeName : String) :
    name fileName typeName = typeName ↔
      (identifierFor fileName = typeName ∧ typeName ∉ reservedNames ∧
        ('.' ∉ fileName.toList ∨ FileName.stem fileName = "")) ∨
      (typeName ∈ ["__", "Self_"] ∧ identifierFor (FileName.stem fileName) ++ "_" = typeName) := by
  by_cases unusable : identifierFor (FileName.stem fileName) = "" ∨
      identifierFor (FileName.stem fileName) = typeName
  · rw [name_eq_iff_of_unusable some unusable]
    refine (or_iff_left ?_).symm
    rintro ⟨suffixed, same⟩
    rcases unusable with empty | own
    · rw [empty] at same
      subst same
      exact absurd suffixed (by decide)
    · exact append_underscore_ne typeName (own ▸ same)
  · obtain ⟨written, differs⟩ := not_or.1 unusable
    rw [name_eq_iff_of_usable written differs]
    refine (or_iff_right ?_).symm
    rintro ⟨same, -, dotless | stemless⟩
    · rw [FileName.stem_of_dotless dotless] at differs
      exact differs same
    · rw [stemless] at written
      exact written rfl

/-- The stem of a file gives a reserved name, and the type has this name with an underscore behind. -/
theorem name_eq_typeName_iff_reservedStem :
    "self.txt" ≠ "" ∧ (name "self.txt" "Self_" = "Self_" ↔
      (identifierFor "self.txt" = "Self_" ∧ "Self_" ∉ reservedNames ∧
        ('.' ∉ "self.txt".toList ∨ FileName.stem "self.txt" = "")) ∨
      ("Self_" ∈ ["__", "Self_"] ∧ identifierFor (FileName.stem "self.txt") ++ "_" = "Self_")) ∧
    identifierFor (FileName.stem "self.txt") ++ "_" = "Self_" :=
  ⟨by decide, name_eq_typeName_iff (by decide) "Self_", by decide +kernel⟩

/-- Types that are named like an accessor for a file without an extension, for one without a stem, and for two with
reserved stems. -/
theorem name_eq_typeName_samples :
    (∀ typeName ∈ ["Notes", "_dot_notes", "Self_", "__"], IsIdentifier typeName.toList) ∧
      name "Notes" "Notes" = "Notes" ∧ name ".notes" "_dot_notes" = "_dot_notes" ∧
      name "self.txt" "Self_" = "Self_" ∧ name "_.txt" "__" = "__" := by
  decide +kernel

end Name

end Accessor

end ResourceAccessors
