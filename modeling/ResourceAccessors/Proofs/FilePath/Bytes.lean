import Mathlib.Data.List.Chain
import ResourceAccessors.FilePath.Bytes

/-!
# How names that are not text are read

A text is cut into signs from the left, and a character that is part of no mark is a sign of its own
wherever it stands. So a path is read piece by piece, as its names are. Text is read as it stands, and
what is shown for any bytes is text.
-/

namespace ResourceAccessors.FilePath

/-! ### Signs -/

/-- A character that is part of no mark: it is no NUL, and it is not the number of a byte. -/
def StandsApart (c : Char) : Prop :=
  c ≠ '\x00' ∧ ¬ (0x80 ≤ c.toNat ∧ c.toNat ≤ 0xFF)

instance (c : Char) : Decidable (StandsApart c) :=
  inferInstanceAs (Decidable (c ≠ '\x00' ∧ ¬ (0x80 ≤ c.toNat ∧ c.toNat ≤ 0xFF)))

/-- A mark does not start with a character that is part of none. -/
theorem StandsApart.isMark_front {c : Char} (apart : StandsApart c) (next : Char) :
    isMark c next = false := by
  simp [isMark, apart.1]

/-- A mark does not end with a character that is part of none. -/
theorem StandsApart.isMark_back {c : Char} (apart : StandsApart c) (first : Char) :
    isMark first c = false := by
  have outside := apart.2
  simp only [isMark]
  grind

/-- A character that does not start a mark is a sign. -/
theorem signs_cons {first : Char} (notNul : first ≠ '\x00') (rest : List Char) :
    signs (first :: rest) = .char first :: signs rest := by
  cases rest with
  | nil => rfl
  | cons second others => simp [signs, isMark, notNul]

/-- Signs end in front of a character that is part of no mark, and start again behind it. -/
theorem signs_append_cons {c : Char} (apart : StandsApart c) (front rest : List Char) :
    signs (front ++ c :: rest) = signs front ++ .char c :: signs rest := by
  fun_induction signs front with
  | case1 => exact signs_cons apart.1 rest
  | case2 last =>
    have noMark : isMark last c = false := apart.isMark_back last
    simp [signs, noMark, signs_cons apart.1 rest]
  | case3 first second others mark ih => simp [signs, mark, ih]
  | case4 first second others noMark ih =>
    rw [List.cons_append] at ih
    simp [signs, noMark, ih]

/-- The characters among the signs of some characters are among these. -/
theorem mem_of_char_mem_signs {c : Char} {chars : List Char} (mem : .char c ∈ signs chars) :
    c ∈ chars := by
  fun_induction signs chars with
  | case1 => exact nomatch mem
  | case2 last => simpa using mem
  | case3 first second rest mark ih =>
    have later := ih (by simpa using mem)
    exact List.mem_cons_of_mem _ (List.mem_cons_of_mem _ later)
  | case4 first second rest noMark ih =>
    rcases List.mem_cons.1 mem with same | later
    · cases same
      exact List.mem_cons_self
    · exact List.mem_cons_of_mem _ (ih later)

/-! ### Text -/

/-- Characters without a mark. -/
def Unmarked (chars : List Char) : Prop :=
  chars.IsChain fun first second => isMark first second = false

/-- All signs of characters without a mark are these characters. -/
theorem signs_of_unmarked {chars : List Char} (unmarked : Unmarked chars) :
    signs chars = chars.map .char := by
  fun_induction signs chars with
  | case1 => rfl
  | case2 last => rfl
  | case3 first second rest mark ih =>
    rw [Unmarked, List.isChain_cons_cons, mark] at unmarked
    cases unmarked.1
  | case4 first second rest noMark ih =>
    rw [ih unmarked.tail]
    rfl

/-- Characters that are all signs have no mark. -/
theorem unmarked_of_all_isChar {chars : List Char}
    (all : (signs chars).all Sign.isChar = true) : Unmarked chars := by
  fun_induction signs chars with
  | case1 => exact .nil
  | case2 last => exact .singleton last
  | case3 first second rest mark ih => cases all
  | case4 first second rest noMark ih =>
    rw [List.all_cons, Bool.and_eq_true] at all
    exact List.isChain_cons_cons.2 ⟨by simpa using noMark, ih all.2⟩

/-- A name is text exactly when it has no mark. -/
theorem isTextName_iff {name : String} : isTextName name = true ↔ Unmarked name.toList := by
  refine ⟨unmarked_of_all_isChar, fun unmarked => ?_⟩
  rw [isTextName, signs_of_unmarked unmarked]
  simp [Sign.isChar]

/-- Characters of which the first one, if any, is part of no mark. -/
def StartsApart (chars : List Char) : Prop :=
  ∀ first ∈ chars.head?, StandsApart first

/-- Characters of which the last one, if any, is part of no mark. -/
def EndsApart (chars : List Char) : Prop :=
  ∀ last ∈ chars.getLast?, StandsApart last

-- Decided at the one character: an instance for all characters would be tried on each of them.
instance (chars : List Char) : Decidable (StartsApart chars) :=
  decidable_of_iff (chars.head?.all (StandsApart ·) = true) (by simp [StartsApart, Option.all_eq_true])

instance (chars : List Char) : Decidable (EndsApart chars) :=
  decidable_of_iff (chars.getLast?.all (StandsApart ·) = true) (by simp [EndsApart, Option.all_eq_true])

/-- Characters end as the last ones among them do. -/
theorem EndsApart.append {rest : List Char} (apart : EndsApart rest) (nonempty : rest ≠ [])
    (front : List Char) : EndsApart (front ++ rest) := by
  rw [EndsApart, List.getLast?_append_of_ne_nil _ nonempty]
  exact apart

/-- No mark comes up where two texts without one are joined, when a character that is part of none
stands at the joint. -/
theorem Unmarked.append {front rest : List Char} (frontUnmarked : Unmarked front)
    (restUnmarked : Unmarked rest) (joint : EndsApart front ∨ StartsApart rest) :
    Unmarked (front ++ rest) := by
  refine List.isChain_append.2 ⟨frontUnmarked, restUnmarked, fun last ends next starts => ?_⟩
  rcases joint with apart | apart
  · exact (apart last ends).isMark_front next
  · exact (apart next starts).isMark_back last

/-- Characters among which there is no NUL have no mark. -/
theorem unmarked_of_nul_not_mem {chars : List Char} (noNul : '\x00' ∉ chars) : Unmarked chars := by
  induction chars with
  | nil => exact .nil
  | cons first rest ih =>
    rw [List.mem_cons, not_or] at noNul
    refine List.isChain_cons.2 ⟨fun next _ => ?_, ih noNul.2⟩
    simp [isMark, Ne.symm noNul.1]

/-! ### Shown text -/

/-- What is shown behind a character does not depend on what stands in front of it. -/
theorem shownSigns_append_char (awaited : List (UInt8 × UInt8)) (front : List Sign) (c : Char)
    (rest : List Sign) : shownSigns awaited (front ++ .char c :: rest) =
      shownSigns awaited front ++ c :: shownSigns [] rest := by
  fun_induction shownSigns awaited front <;> simp_all [shownSigns]

/-- Characters are shown as they are. -/
theorem shownSigns_map_char (chars : List Char) : shownSigns [] (chars.map .char) = chars := by
  induction chars with
  | nil => rfl
  | cons first rest ih => rw [List.map_cons, shownSigns, ih]

/-- Text is shown as it is. -/
theorem shownText_eq_self {text : String} (unmarked : Unmarked text.toList) : shownText text = text := by
  rw [shownText, signs_of_unmarked unmarked, shownSigns_map_char, String.ofList_toList]

/-- What stands on the two sides of a character that is part of no mark is shown by itself. -/
theorem shownText_append {c : Char} (apart : StandsApart c) (front rest : String) :
    shownText (front ++ String.singleton c ++ rest) =
      shownText front ++ String.singleton c ++ shownText rest := by
  apply String.toList_inj.1
  simp [shownText, signs_append_cons apart, shownSigns_append_char]

/-- Texts with slashes between them are shown piece by piece. -/
theorem shownText_intercalate (parts : List String) :
    shownText ("/".intercalate parts) = "/".intercalate (parts.map shownText) := by
  induction parts with
  | nil => rfl
  | cons first rest ih =>
    cases rest with
    | nil => simp
    | cons second others =>
      have slash : "/" = String.singleton '/' := rfl
      rw [List.map_cons, List.map_cons, String.intercalate_cons_cons, String.intercalate_cons_cons,
        ← List.map_cons, ← ih, slash, shownText_append (by decide)]

/-- What is shown is a replacement character or a character of the text. -/
theorem mem_of_mem_shownSigns {c : Char} {awaited : List (UInt8 × UInt8)} {all : List Sign}
    (mem : c ∈ shownSigns awaited all) : c = '\ufffd' ∨ .char c ∈ all := by
  fun_induction shownSigns awaited all <;> grind

/-- What is shown first, where no byte is awaited, is the first character or a replacement. -/
theorem head?_shownSigns {c : Char} {all : List Sign} (first : c ∈ (shownSigns [] all).head?) :
    c = '\ufffd' ∨ .char c ∈ all.head? := by
  cases all with
  | nil => cases first
  | cons sign rest =>
    cases sign with
    | char value => exact .inr (by simpa [shownSigns] using first)
    | byte value => exact .inl (by simpa [shownSigns, eq_comm] using first)

/-- A replacement character is part of no mark. -/
theorem standsApart_replacement : StandsApart '\ufffd' := by
  decide

/-! ### What is shown is text -/

/-- Two signs that do not read as a mark when they are shown. -/
def Sign.Apart (first second : Sign) : Prop :=
  ∀ a b, first = .char a → second = .char b → isMark a b = false

/-- The first sign is a byte or the first character. -/
theorem eq_of_head?_signs {c first : Char} {rest : List Char}
    (starts : .char c ∈ (signs (first :: rest)).head?) : c = first := by
  cases rest with
  | nil => simpa [signs, eq_comm] using starts
  | cons second others =>
    rw [signs] at starts
    split at starts
    · cases starts
    · simpa [eq_comm] using starts

/-- No two characters in a row among the signs are a mark, since it would be a sign itself. -/
theorem isChain_signs (chars : List Char) : (signs chars).IsChain Sign.Apart := by
  fun_induction signs chars with
  | case1 => exact .nil
  | case2 last => exact .singleton _
  | case3 first second rest mark ih =>
    refine List.isChain_cons.2 ⟨fun next _ a b same => ?_, ih⟩
    cases same
  | case4 first second rest noMark ih =>
    refine List.isChain_cons.2 ⟨fun next starts a b own other => ?_, ih⟩
    cases own
    subst other
    rw [eq_of_head?_signs starts]
    simpa using noMark

/-- What is shown for signs has no mark. -/
theorem unmarked_shownSigns {awaited : List (UInt8 × UInt8)} {all : List Sign}
    (apart : all.IsChain Sign.Apart) : Unmarked (shownSigns awaited all) := by
  have behindReplacement : ∀ {shown : List Char}, Unmarked shown → Unmarked ('\ufffd' :: shown) := by
    intro shown unmarked
    exact List.isChain_cons.2 ⟨fun next _ => standsApart_replacement.isMark_front next, unmarked⟩
  fun_induction shownSigns awaited all with
  | case1 => exact .nil
  | case2 awaited value rest ih =>
    refine List.isChain_cons.2 ⟨fun next starts => ?_, ih apart.tail⟩
    rcases head?_shownSigns starts with rfl | first
    · exact standsApart_replacement.isMark_back value
    · exact (List.isChain_cons.1 apart).1 _ first _ _ rfl rfl
  | case3 value rest low high more inside ih => exact ih apart.tail
  | case4 value rest low high more outside ih => exact behindReplacement (ih apart.tail)
  | case5 value rest ih => exact behindReplacement (ih apart.tail)

/-- What is shown for a text of a path is text. -/
theorem isTextName_shownText (text : String) : isTextName (shownText text) = true := by
  rw [isTextName_iff, shownText, String.toList_ofList]
  exact unmarked_shownSigns (isChain_signs text.toList)

/-- What is shown holds a character other than the replacement only when the text does. -/
theorem mem_of_mem_shownText {c : Char} {text : String} (other : c ≠ '\ufffd')
    (mem : c ∈ (shownText text).toList) : c ∈ text.toList := by
  rw [shownText, String.toList_ofList] at mem
  exact mem_of_char_mem_signs ((mem_of_mem_shownSigns mem).resolve_left other)

end ResourceAccessors.FilePath
