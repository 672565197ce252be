import ResourceAccessors.Proofs.Accessor.Name
import ResourceAccessors.Syntax.TextLiteral
import ResourceAccessors.Text.Quoted

/-!
# Quoted texts are literals

The literal of a text is read as one literal, whatever stands behind it but a word, and it stands for the
text. Each character is written in one of three ways, and each way is read back by itself.
-/

namespace ResourceAccessors

namespace Text.Quoted

open Syntax (simpleEscape?)

/-- How a character can be written inside a literal. -/
inductive Writes (c : Char) : List Char → Prop
  | letter (mark : Char) (known : simpleEscape? mark = some c) : Writes c ['\\', mark]
  | codePoint : Writes c (['\\', 'u', '{'] ++ hexDigits c ++ ['}'])
  | itself (plain : c ∉ ['"', '\\', '\n', '\r']) : Writes c [c]

/-- A character is written by its escape. -/
theorem writes_escape (c : Char) : Writes c (escape c) := by
  fun_cases escape c with
  | case1 => exact .letter '"' rfl
  | case2 => exact .letter '\\' rfl
  | case3 => exact .letter 't' rfl
  | case4 => exact .letter 'r' rfl
  | case5 => exact .letter 'n' rfl
  | case6 => exact .letter '0' rfl
  | case7 => exact .codePoint
  | case8 => exact .itself (by simp_all)

/-- Something is written for every character. -/
theorem Writes.ne_nil {c : Char} {form : List Char} (writes : Writes c form) : form ≠ [] := by
  cases writes <;> simp

/-- Escaping does not make a text shorter. -/
theorem length_le_flatMap_escape (chars : List Char) : chars.length ≤ (chars.flatMap escape).length := by
  induction chars with
  | nil => exact Nat.le_refl 0
  | cons c rest ih =>
    have some := List.length_pos_iff.2 (writes_escape c).ne_nil
    rw [List.flatMap_cons, List.length_append, List.length_cons]
    omega

/-- No written form holds a line feed. -/
theorem Writes.feed_notMem {c : Char} {form : List Char} (writes : Writes c form) : '\n' ∉ form := by
  cases writes with
  | letter mark known =>
    have other : mark ≠ '\n' := by
      rintro rfl
      cases known
    simp [other.symm]
  | codePoint =>
    have digits : '\n' ∉ hexDigits c := by
      intro mem
      obtain ⟨digit, below, same⟩ := Accessor.exists_of_mem_toDigits (by decide) mem
      have others : ∀ digit < 16, '\n' ≠ Nat.digitChar digit := by decide
      exact others digit below same
    simp [digits]
  | itself plain =>
    simp only [List.mem_cons, not_or] at plain
    simpa using Ne.symm plain.2.2.1

end Text.Quoted

/-- A literal stays on its line. -/
theorem Text.feed_notMem_quote (text : String) : '\n' ∉ (Text.quote text).toList := by
  simp [Text.quote, fun c => (Text.Quoted.writes_escape c).feed_notMem]

namespace Syntax

open Text.Quoted (Writes writes_escape escape hexDigits length_le_flatMap_escape)

/-! ### Code points -/

/-- A hexadecimal digit has its value. -/
theorem hexValue?_digitChar {digit : Nat} (below : digit < 16) :
    hexValue? (Nat.digitChar digit) = some digit := by
  have all : ∀ digit < 16, hexValue? (Nat.digitChar digit) = some digit := by decide
  exact all digit below

/-- One more digit of a code point. -/
theorem readCodePoint_digitChar {value digits digit : Nat} (below : digit < 16) (room : digits < 6)
    (rest : List Char) : readCodePoint value digits (Nat.digitChar digit :: rest) =
      readCodePoint (value * 16 + digit) (digits + 1) rest := by
  have marks : ∀ digit < 16, Nat.digitChar digit ≠ '_' ∧ Nat.digitChar digit ≠ '}' := by decide
  obtain ⟨underscore, brace⟩ := marks digit below
  rw [readCodePoint, hexValue?_digitChar below]
  · simp [Nat.ne_of_lt room]
  · exact underscore
  · exact brace

/-- The digits of a number are read as the number. -/
theorem readCodePoint_toDigits {digits number : Nat}
    (room : digits + (Nat.toDigits 16 number).length ≤ 6) (rest : List Char) :
    readCodePoint 0 digits (Nat.toDigits 16 number ++ rest) =
      readCodePoint number (digits + (Nat.toDigits 16 number).length) rest := by
  induction number using Nat.strongRecOn generalizing rest with
  | ind number ih =>
    by_cases small : number < 16
    · rw [Nat.toDigits_of_lt_base small] at room ⊢
      rw [List.singleton_append, readCodePoint_digitChar small room, Nat.zero_mul, Nat.zero_add,
        List.length_singleton]
    · have large := Nat.not_lt.1 small
      rw [Nat.toDigits_of_base_le (by decide) large] at room ⊢
      rw [List.length_append, List.length_singleton] at room ⊢
      rw [List.append_assoc, ih (number / 16) (by omega) (by omega), List.singleton_append,
        readCodePoint_digitChar (Nat.mod_lt _ (by decide)) (by omega), Nat.div_add_mod', Nat.add_assoc]

/-- The code point of a character is read back. -/
theorem readUnicodeEscape_hexDigits (c : Char) (rest : List Char) :
    readUnicodeEscape ('{' :: (hexDigits c ++ '}' :: rest)) = some (c, rest) := by
  have valid : c.toNat < 0xD800 ∨ (0xDFFF < c.toNat ∧ c.toNat < 0x110000) := c.valid
  have atMost : (Nat.toDigits 16 c.toNat).length ≤ 6 :=
    (Nat.length_toDigits_le_iff (by decide) (by decide)).2 (by omega)
  have someDigit : 0 < (Nat.toDigits 16 c.toNat).length := Nat.length_toDigits_pos
  have digits : readCodePoint 0 0 (hexDigits c ++ '}' :: rest) = some (c.toNat, rest) := by
    rw [hexDigits, readCodePoint_toDigits (by omega), readCodePoint, if_neg (by omega)]
  have code : isCharCode c.toNat = true := by
    simpa [isCharCode] using valid
  simp [readUnicodeEscape, digits, code]

/-! ### Literals -/

variable {c : Char} {form : List Char}

/-- What is written for a character is read over as a part of a text literal. -/
theorem afterBody?_writes (writes : Writes c form) (fuel : Nat) (rest : List Char) :
    QuotedForm.text.afterBody? (fuel + 1) (form ++ rest) = QuotedForm.text.afterBody? fuel rest := by
  cases writes with
  | letter mark known =>
    unfold simpleEscape? at known
    split at known <;> cases known <;> rfl
  | codePoint =>
    have read := readUnicodeEscape_hexDigits c rest
    simp [QuotedForm.afterBody?, QuotedForm.afterEscape?, read, QuotedForm.text]
  | itself plain =>
    simp only [List.mem_cons, List.not_mem_nil, or_false, not_or] at plain
    obtain ⟨quote, backslash, feed, ret⟩ := plain
    rw [List.singleton_append, QuotedForm.afterBody?] <;> simp_all [QuotedForm.text]

/-- What is written for a character stands for it. -/
theorem cookedChars_writes (writes : Writes c form) (fuel : Nat) (rest : List Char) :
    cookedChars (fuel + 1) (form ++ rest) = (cookedChars fuel rest).map (c :: ·) := by
  cases writes with
  | letter mark known =>
    unfold simpleEscape? at known
    split at known <;> cases known <;> rfl
  | codePoint =>
    have read := readUnicodeEscape_hexDigits c rest
    simp [cookedChars, read]
  | itself plain =>
    simp only [List.mem_cons, List.not_mem_nil, or_false, not_or] at plain
    obtain ⟨quote, backslash, feed, ret⟩ := plain
    rw [List.singleton_append, cookedChars] <;> simp_all

variable {chars : List Char} {fuel : Nat}

/-- A written text is read over up to the quote behind it. -/
theorem afterBody?_flatMap_escape (room : chars.length < fuel) {rest : List Char}
    (noWord : wordFollows rest = false) :
    QuotedForm.text.afterBody? fuel (chars.flatMap escape ++ '"' :: rest) = some rest := by
  induction chars generalizing fuel with
  | nil =>
    obtain ⟨fuel, rfl⟩ := Nat.exists_eq_succ_of_ne_zero (Nat.ne_of_gt room)
    have noSuffix : afterSuffix rest = rest := by
      cases rest with
      | nil => rfl
      | cons c others =>
        rw [wordFollows] at noWord
        simp [afterSuffix, afterWord?, noWord]
    simp [QuotedForm.afterBody?, noSuffix]
  | cons c others ih =>
    obtain ⟨fuel, rfl⟩ := Nat.exists_eq_succ_of_ne_zero (Nat.ne_zero_of_lt room)
    rw [List.flatMap_cons, List.append_assoc, afterBody?_writes (writes_escape c)]
    exact ih (by simpa using room)

/-- A written text stands for itself. -/
theorem cookedChars_flatMap_escape (room : chars.length < fuel) (rest : List Char) :
    cookedChars fuel (chars.flatMap escape ++ '"' :: rest) = some chars := by
  induction chars generalizing fuel with
  | nil =>
    obtain ⟨fuel, rfl⟩ := Nat.exists_eq_succ_of_ne_zero (Nat.ne_of_gt room)
    rfl
  | cons c others ih =>
    obtain ⟨fuel, rfl⟩ := Nat.exists_eq_succ_of_ne_zero (Nat.ne_zero_of_lt room)
    rw [List.flatMap_cons, List.append_assoc, cookedChars_writes (writes_escape c),
      ih (by simpa using room)]
    rfl

/-- A quoted text is its escaped characters between quotes. -/
theorem toList_quote (text : String) :
    (Text.quote text).toList = '"' :: (text.toList.flatMap escape ++ ['"']) := by
  rw [Text.quote, String.toList_ofList]
  rfl

/-- The literal of a text is read as one literal where no word stands behind it. -/
theorem readLiteral_quote (text : String) {rest : List Char} (noWord : wordFollows rest = false) :
    readLiteral ((Text.quote text).toList ++ rest) =
      some (.literal .text (Text.quote text), rest) := by
  have room : text.toList.length < (text.toList.flatMap escape ++ '"' :: rest).length + 1 := by
    have atMost := length_le_flatMap_escape text.toList
    rw [List.length_append]
    omega
  have body : afterTextLiteral? ((Text.quote text).toList ++ rest) = some rest := by
    rw [toList_quote, List.cons_append, List.append_assoc, List.singleton_append]
    exact afterBody?_flatMap_escape room noWord
  have spelling : ((Text.quote text).toList ++ rest).take
      (((Text.quote text).toList ++ rest).length - rest.length) = (Text.quote text).toList := by
    simp
  simp only [readLiteral, afterLiteral?, body, spelling, Option.bind_eq_bind, Option.bind_some,
    String.ofList_toList]
  rfl

/-- The literal of a text stands for the text. -/
theorem textOfLiteral?_quote (text : String) : textOfLiteral? (Text.quote text) = some text := by
  have room : text.toList.length < (text.toList.flatMap escape ++ ['"']).length + 1 := by
    have atMost := length_le_flatMap_escape text.toList
    rw [List.length_append]
    omega
  have chars := cookedChars_flatMap_escape room []
  simp only [textOfLiteral?, toList_quote, chars, Option.map_some, String.ofList_toList]

end Syntax

end ResourceAccessors
