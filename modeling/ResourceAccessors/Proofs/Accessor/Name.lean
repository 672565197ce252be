import ResourceAccessors.Accessor.Name
import ResourceAccessors.Proofs.Text.Casing
import ResourceAccessors.Syntax.Parser

/-!
# Accessor names are identifiers

Each step of making a name settles one thing: spelling out leaves characters that continue identifiers,
the anchor makes the first one start them, putting it in upper case rules out all words of the language
but two, and these are avoided at the end.
-/

namespace ResourceAccessors.Accessor

open Text (startsIdentifier continuesIdentifier IsRaised)

/-- Characters that make an identifier. -/
def IsIdentifier (chars : List Char) : Prop :=
  ∃ first others, chars = first :: others ∧ (first = '_' ∨ startsIdentifier first = true) ∧
    ∀ c ∈ others, continuesIdentifier c = true

/-- A name that a function can have. -/
structure IsLegal (name : String) : Prop where
  identifier : IsIdentifier name.toList
  /-- Every word of the language but `_` and `Self` starts with a small letter. -/
  notSmall : ∀ c ∈ name.toList.head?, c.isLower = false
  notWord : name ∉ Syntax.keywords

/-! ### Spelled characters -/

/-- An underscore may stand inside an identifier. -/
theorem continuesIdentifier_underscore : continuesIdentifier '_' = true := by
  decide +kernel

/-- A word for a character can stand in an identifier. -/
theorem continues_of_wordFor? {c : Char} {word : String} (known : wordFor? c = some word) :
    word.toList.all continuesIdentifier = true := by
  unfold wordFor? at known
  split at known <;> cases known <;> decide +kernel

/-- A digit of a number is the digit of a number below the base. -/
theorem exists_of_mem_toDigits {base number : Nat} {c : Char} (large : 1 < base)
    (mem : c ∈ Nat.toDigits base number) : ∃ digit < base, c = Nat.digitChar digit := by
  induction number using Nat.strongRecOn with
  | ind number ih =>
    by_cases small : number < base
    · rw [Nat.toDigits_of_lt_base small, List.mem_singleton] at mem
      exact ⟨number, small, mem⟩
    · rw [Nat.toDigits_of_base_le large (Nat.not_lt.1 small), List.mem_append,
        List.mem_singleton] at mem
      rcases mem with before | last
      · exact ih _ (Nat.div_lt_self (by omega) large) before
      · exact ⟨number % base, Nat.mod_lt _ (by omega), last⟩

/-- A character is spelled with characters that can stand in an identifier. -/
theorem continues_of_mem_spellOut {c letter : Char} (mem : letter ∈ spellOut c) :
    continuesIdentifier letter = true := by
  rw [spellOut] at mem
  split at mem
  next word known => exact List.all_eq_true.1 (continues_of_wordFor? known) letter mem
  next =>
    rcases List.mem_cons.1 mem with rfl | digit
    · decide +kernel
    · obtain ⟨plain, plainMem, rfl⟩ := List.mem_map.1 digit
      obtain ⟨value, below, rfl⟩ := exists_of_mem_toDigits (by decide) plainMem
      have all : ∀ value < 16, continuesIdentifier (Nat.digitChar value).toUpper = true := by
        decide +kernel
      exact all value below

/-- What is left of a name has only characters that can stand in an identifier. -/
theorem continues_of_mem_transliterate {afterSpelled : Bool} {chars : List Char} {letter : Char}
    (mem : letter ∈ transliterate afterSpelled chars) : continuesIdentifier letter = true := by
  induction chars generalizing afterSpelled with
  | nil => cases mem
  | cons c rest ih =>
    rw [transliterate] at mem
    split at mem
    next continues =>
      rcases List.mem_cons.1 mem with rfl | later
      · exact continues
      · exact ih later
    next =>
      rw [List.append_assoc, List.mem_append, List.mem_append, List.mem_cons] at mem
      rcases mem with before | spelled | rfl | later
      · split at before
        · cases before
        · rw [List.mem_singleton.1 before]
          exact continuesIdentifier_underscore
      · exact continues_of_mem_spellOut spelled
      · exact continuesIdentifier_underscore
      · exact ih later

/-- Something is left of every name. -/
theorem transliterate_ne_nil {chars : List Char} (some : chars ≠ []) (afterSpelled : Bool) :
    transliterate afterSpelled chars ≠ [] := by
  cases chars with
  | nil => exact absurd rfl some
  | cons c rest =>
    rw [transliterate]
    split <;> simp

/-! ### Identifiers -/

/-- Characters that can stand in an identifier make one behind the anchor. -/
theorem isIdentifier_anchor {chars : List Char} (some : chars ≠ [])
    (continues : ∀ c ∈ chars, continuesIdentifier c = true) : IsIdentifier (anchor chars) := by
  cases chars with
  | nil => exact absurd rfl some
  | cons c rest =>
    rw [anchor]
    split
    next => exact ⟨'_', c :: rest, rfl, .inl rfl, continues⟩
    next starts =>
      refine ⟨c, rest, rfl, ?_, fun d mem => continues d (List.mem_cons_of_mem _ mem)⟩
      by_cases underscore : c = '_'
      · exact .inl underscore
      · exact .inr (by simpa [underscore] using starts)

/-- An identifier stays one when its first character is raised. -/
theorem IsIdentifier.upperFirst {chars : List Char} (identifier : IsIdentifier chars) :
    IsIdentifier (Text.upperFirst chars) ∧
      ∀ c ∈ (Text.upperFirst chars).head?, c.isLower = false := by
  obtain ⟨first, others, rfl, starts, continues⟩ := identifier
  obtain ⟨raised, upper, isRaised⟩ := Text.upperFirst_cons first others
  rw [upper]
  refine ⟨⟨raised, others, rfl, starts.imp isRaised.underscore isRaised.starts, continues⟩, ?_⟩
  rintro c ⟨⟩
  exact isRaised.notSmall

/-- A text that is not empty becomes an identifier that does not start with a small letter. -/
theorem isIdentifier_identifierFor {text : String} (some : text ≠ "") :
    IsIdentifier (identifierFor text).toList ∧
      ∀ c ∈ (identifierFor text).toList.head?, c.isLower = false := by
  have chars : text.toList ≠ [] := fun none => some (String.toList_inj.1 none)
  rw [identifierFor, String.toList_ofList]
  exact (isIdentifier_anchor (transliterate_ne_nil chars false)
    fun _ => continues_of_mem_transliterate).upperFirst

/-- A text that is not empty gives an identifier that is not. -/
theorem identifierFor_ne {text : String} (some : text ≠ "") : identifierFor text ≠ "" := by
  obtain ⟨⟨first, others, chars, -⟩, -⟩ := isIdentifier_identifierFor some
  intro empty
  rw [empty] at chars
  cases chars

/-! ### Names -/

/-- The words of the language that do not start with a small letter. -/
theorem keywords_cases : ∀ word ∈ Syntax.keywords,
    word = "_" ∨ word = "Self" ∨ word.toList.head?.any Char.isLower = true := by
  decide

/-- The name of the accessor for a file is made from a text that is not empty. -/
theorem exists_name_eq {fileName : String} (some : fileName ≠ "") (typeName : String) :
    ∃ text, text ≠ "" ∧ name fileName typeName =
      if identifierFor text ∈ reservedNames then identifierFor text ++ "_" else identifierFor text := by
  by_cases unusable : identifierFor (FileName.stem fileName) = "" ∨
      identifierFor (FileName.stem fileName) = typeName
  · exact ⟨fileName, some, by simp only [name, if_pos unusable]⟩
  · refine ⟨FileName.stem fileName, fun empty => unusable (.inl ?_), by simp only [name, if_neg unusable]⟩
    rw [empty]
    rfl

/-- A reserved name with an underscore behind it is a legal one, unless it is empty. -/
theorem isLegal_of_reserved {word : String} (some : word ≠ "") (reserved : word ∈ reservedNames) :
    IsLegal (word ++ "_") := by
  simp only [reservedNames, List.mem_cons, List.not_mem_nil, or_false] at reserved
  rcases reserved with rfl | rfl | rfl
  · exact absurd rfl some
  · exact ⟨⟨'_', ['_'], rfl, .inl rfl, List.all_eq_true.1 (by decide +kernel)⟩, by rintro c ⟨⟩; rfl,
      by decide⟩
  · exact ⟨⟨'S', ['e', 'l', 'f', '_'], rfl, .inr (by decide +kernel),
      List.all_eq_true.1 (by decide +kernel)⟩, by rintro c ⟨⟩; rfl, by decide⟩

/-- The name of the accessor for a file is a legal one, on every type, unless the file has no name. -/
theorem isLegal_name_iff (fileName typeName : String) :
    IsLegal (name fileName typeName) ↔ fileName ≠ "" := by
  constructor
  · rintro legal rfl
    have bare : name "" typeName = "_" := by
      have nothing : identifierFor "" = "" := rfl
      have stem : FileName.stem "" = "" := rfl
      simp [name, nothing, stem, reservedNames]
    rw [bare] at legal
    exact absurd legal.notWord (by decide)
  · intro some
    obtain ⟨text, written, named⟩ := exists_name_eq some typeName
    obtain ⟨identifier, notSmall⟩ := isIdentifier_identifierFor written
    rw [named]
    split
    next reserved => exact isLegal_of_reserved (identifierFor_ne written) reserved
    next free =>
      refine ⟨identifier, notSmall, fun word => ?_⟩
      rcases keywords_cases _ word with bare | self | small
      · exact free (by simp [bare, reservedNames])
      · exact free (by simp [self, reservedNames])
      · obtain ⟨c, mem, small⟩ := (Option.any_eq_true ..).1 small
        rw [notSmall c mem] at small
        cases small

end ResourceAccessors.Accessor
