import ResourceAccessors.Json.Parser
import ResourceAccessors.Json.Printer
import ResourceAccessors.Proofs.Text.ByteOrder

/-!
# Written JSON reads back

A value that nothing in is garbled, and whose numbers are numerals, is read back from its text. The
statements about readers leave what stands behind the value open, so that those about arrays and objects
follow from those about their parts.
-/

namespace ResourceAccessors

/-- A text is read back from its bytes. -/
theorem fromUTF8?_toUTF8 (text : String) : String.fromUTF8? text.toUTF8 = some text := by
  simp only [String.fromUTF8?, String.toUTF8_eq_toByteArray, dif_pos text.isValidUTF8]
  rfl

namespace Json

/-! ### Bytes -/

/-- A byte is found again in the character with its code. -/
theorem toUInt8_ofUInt8 (byte : UInt8) : (Char.ofUInt8 byte).toUInt8 = byte := by
  change byte.toUInt32.toUInt8 = byte
  simp

/-- The code of a byte. -/
theorem toNat_ofUInt8 (byte : UInt8) : (Char.ofUInt8 byte).toNat = byte.toNat := by
  change byte.toUInt32.toNat = byte.toNat
  simp

/-- A character of ASCII is its own byte. -/
theorem spread_of_ascii {c : Char} (ascii : c.toNat < 0x80) : spread c = [c] := by
  have code : c.val.toNat ≤ 0x7f := Nat.lt_succ_iff.1 ascii
  have same : Char.ofUInt8 (UInt8.ofNat c.val.toNat) = c := by
    apply Char.toNat_inj.1
    rw [toNat_ofUInt8, UInt8.toNat_ofNat', Nat.mod_eq_of_lt (by omega)]
    rfl
  rw [spread, String.utf8EncodeChar, if_pos code, List.map_singleton, same]

/-- Characters of one byte are spread as they are. -/
theorem flatMap_spread_of_ascii {chars : List Char} (ascii : ∀ c ∈ chars, c.toNat < 0x80) :
    chars.flatMap spread = chars := by
  induction chars with
  | nil => rfl
  | cons first others inductionHypothesis =>
    rw [List.flatMap_cons, spread_of_ascii (ascii first List.mem_cons_self), List.singleton_append,
      inductionHypothesis fun c mem => ascii c (List.mem_cons_of_mem _ mem)]

/-- The bytes of the other characters are no marks. -/
theorem toNat_of_mem_spread {c byte : Char} (wide : 0x80 ≤ c.toNat) (mem : byte ∈ spread c) :
    0x80 ≤ byte.toNat := by
  have code : 0x7f < c.val.toNat := wide
  obtain ⟨encoded, encodedMem, rfl⟩ := List.mem_map.1 mem
  rw [toNat_ofUInt8]
  revert encodedMem
  fun_cases String.utf8EncodeChar c
  case case1 => omega
  all_goals
    simp only [List.mem_cons, List.not_mem_nil, or_false]
    rintro (rfl | rfl | rfl | rfl) <;> rw [UInt8.toNat_ofNat'] <;> omega

/-- The bytes of a text are those of its characters. -/
theorem map_ofUInt8_toUTF8 (text : String) :
    text.toUTF8.data.toList.map Char.ofUInt8 = text.toList.flatMap spread := by
  have bytes := Text.bytes_eq text
  rw [Text.bytes] at bytes
  rw [bytes, List.map_flatMap]
  rfl

/-- A text is found again in the bytes of its characters. -/
theorem textOf?_flatMap_spread (text : String) :
    textOf? (text.toList.flatMap spread) = some text := by
  have bytes : (text.toList.flatMap spread).map Char.toUInt8 = text.toUTF8.data.toList := by
    rw [← map_ofUInt8_toUTF8, List.map_map]
    exact (List.map_congr_left fun byte _ => toUInt8_ofUInt8 byte).trans (List.map_id _)
  rw [textOf?, bytes]
  exact fromUTF8?_toUTF8 text

/-! ### Strings -/

/-- The digits of a control read back as its code. -/
theorem readUnit_twoHexDigits {code : Nat} (control : code < 0x20) (rest : List Char) :
    readUnit ('0' :: '0' :: (twoHexDigits code ++ rest)) = some (code, rest) := by
  have digits : ∀ n < 0x20, hexDigit? (Nat.digitChar (n / 16)) = some (n / 16) ∧
      hexDigit? (Nat.digitChar (n % 16)) = some (n % 16) := by decide
  obtain ⟨high, low⟩ := digits code control
  have zero : hexDigit? '0' = some 0 := by decide
  simp only [twoHexDigits, List.cons_append, List.nil_append, readUnit, zero, high, low,
    Option.bind_eq_bind, Option.bind_some, pure]
  congr 2
  omega

/-- The escaped form of a control reads back. -/
theorem readEscape_control {c : Char} (control : c.toNat < 0x20) (rest : List Char) :
    readEscape ('u' :: '0' :: '0' :: (twoHexDigits c.toNat ++ rest)) = some (spread c, rest) := by
  have noHigh : ¬ (0xD800 ≤ c.toNat ∧ c.toNat < 0xDC00) := by omega
  have noLow : ¬ (0xDC00 ≤ c.toNat ∧ c.toNat < 0xE000) := by omega
  simp only [readEscape, readUnicode, readUnit_twoHexDigits control, Option.bind_eq_bind,
    Option.bind_some, if_neg noHigh, if_neg noLow, Char.ofNat_toNat]
  rfl

/-- A byte that can stand in a string reads back. -/
theorem readChars_cons {c : Char} (notQuote : c ≠ '"') (notBackslash : c ≠ '\\')
    (visible : 0x20 ≤ c.toNat) (fuel : Nat) (rest : List Char) :
    readChars (fuel + 1) (c :: rest) =
      (readChars fuel rest).map fun (others, rest) => (c :: others, rest) := by
  rw [readChars, if_neg (Nat.not_lt.2 visible)]
  · simp only [Option.bind_eq_bind, Option.map_eq_bind]
    rfl
  · exact notQuote
  · exact notBackslash

/-- Bytes that are no marks read back. -/
theorem readChars_append {front : List Char} (wide : ∀ byte ∈ front, 0x80 ≤ byte.toNat) (fuel : Nat)
    (rest : List Char) : readChars (fuel + front.length) (front ++ rest) =
      (readChars fuel rest).map fun (others, rest) => (front ++ others, rest) := by
  induction front with
  | nil => simp
  | cons first others inductionHypothesis =>
    have code := wide first List.mem_cons_self
    have later := inductionHypothesis fun byte mem => wide byte (List.mem_cons_of_mem _ mem)
    have notQuote : first ≠ '"' := by
      rintro rfl
      exact absurd code (by decide)
    have notBackslash : first ≠ '\\' := by
      rintro rfl
      exact absurd code (by decide)
    rw [List.length_cons, ← Nat.add_assoc, List.cons_append,
      readChars_cons notQuote notBackslash (by omega), later, Option.map_map]
    rfl

/-- One escaped character reads back. -/
theorem readChars_escape (fuel : Nat) (c : Char) (rest : List Char) :
    readChars (fuel + (spread c).length) ((escape c).flatMap spread ++ rest) =
      (readChars fuel rest).map fun (others, rest) => (spread c ++ others, rest) := by
  unfold escape
  split
  case h_8 notQuote notBackslash _ _ _ _ _ =>
    split
    next control =>
      have digits : ∀ code < 0x20, (twoHexDigits code).flatMap spread = twoHexDigits code := by
        decide
      have read := readEscape_control control rest
      have single : spread c = [c] := spread_of_ascii (by omega)
      rw [List.flatMap_append, digits _ control, single]
      simp only [single] at read
      change readChars (fuel + 1)
        ('\\' :: 'u' :: '0' :: '0' :: (twoHexDigits c.toNat ++ rest)) = _
      simp only [readChars, read, Option.bind_eq_bind, Option.bind_some, Option.map_eq_bind]
      rfl
    next visible =>
      rw [List.flatMap_singleton]
      by_cases ascii : c.toNat < 0x80
      · rw [spread_of_ascii ascii]
        exact readChars_cons notQuote notBackslash (Nat.not_lt.1 visible) fuel rest
      · exact readChars_append (fun byte => toNat_of_mem_spread (Nat.not_lt.1 ascii)) fuel rest
  all_goals
    cases read : readChars fuel rest <;> simp [spread_of_ascii, readChars, readEscape, read]

/-- The characters of a string read back. -/
theorem readChars_flatMap_escape {chars : List Char} {fuel : Nat}
    (enough : (chars.flatMap spread).length < fuel) (rest : List Char) :
    readChars fuel ((chars.flatMap escape).flatMap spread ++ '"' :: rest) =
      some (chars.flatMap spread, rest) := by
  induction chars generalizing fuel with
  | nil =>
    obtain ⟨fuel, rfl⟩ := Nat.exists_eq_add_one_of_ne_zero (Nat.ne_of_gt enough)
    rfl
  | cons first others inductionHypothesis =>
    rw [List.flatMap_cons, List.length_append] at enough
    obtain ⟨more, rfl⟩ := Nat.exists_eq_add_of_le' (Nat.le_of_lt (Nat.lt_of_le_of_lt
      (Nat.le_add_right _ _) enough))
    rw [List.flatMap_cons, List.flatMap_append, List.append_assoc, readChars_escape,
      inductionHypothesis (by omega)]
    rfl

/-- Every character takes room in a string. -/
theorem length_le_flatMap_escape (chars : List Char) :
    (chars.flatMap spread).length ≤ ((chars.flatMap escape).flatMap spread).length := by
  induction chars with
  | nil => simp
  | cons first others inductionHypothesis =>
    have room : (spread first).length ≤ ((escape first).flatMap spread).length := by
      unfold escape
      split
      case h_8 =>
        split
        next control =>
          rw [spread_of_ascii (by omega)]
          simp [spread_of_ascii]
        next => simp
      all_goals simp [spread_of_ascii]
    simp only [List.flatMap_cons, List.flatMap_append, List.length_append]
    omega

/-- A string reads back. -/
theorem readString_escape (text : String) (rest : List Char) :
    readString ((text.toList.flatMap escape).flatMap spread ++ '"' :: rest) =
      some (some text, rest) := by
  have room := length_le_flatMap_escape text.toList
  have enough : (text.toList.flatMap spread).length <
      ((text.toList.flatMap escape).flatMap spread ++ '"' :: rest).length + 1 := by
    rw [List.length_append]
    omega
  rw [readString, readChars_flatMap_escape enough]
  simp only [Option.bind_eq_bind, Option.bind_some, textOf?_flatMap_spread]
  rfl

/-- The bytes of a written string. -/
def quoted (text : String) : List Char :=
  '"' :: ((text.toList.flatMap escape).flatMap spread ++ ['"'])

/-- A quoted text is written by the bytes of its characters. -/
theorem flatMap_spread_quote (text : String) : (quote text).toList.flatMap spread = quoted text := by
  simp [quote, quoted, spread_of_ascii]

/-! ### Numbers -/

/-- A natural number without leading zeros. -/
def IsNumeral (text : String) : Prop :=
  ∃ first others, text.toList = first :: others ∧ first ≠ '0' ∧
    ∀ c ∈ first :: others, c.isDigit = true

/-- What may stand behind a value: the end of the text, a comma or a closing bracket. -/
def Stops (rest : List Char) : Prop :=
  ∀ c ∈ rest.head?, c = ',' ∨ c = ']' ∨ c = '\x7d'

/-- The digits of a numeral end where the value ends. -/
theorem readDigits_append {digits rest : List Char} (nonempty : digits ≠ [])
    (all : ∀ c ∈ digits, c.isDigit = true) (stops : Stops rest) :
    readDigits (digits ++ rest) = some (digits, rest) := by
  have noDigit : ∀ c ∈ rest.head?, c.isDigit = false := by
    intro c mem
    rcases stops c mem with rfl | rfl | rfl <;> decide
  have taken : (digits ++ rest).takeWhile Char.isDigit = digits := by
    rw [List.takeWhile_append_of_pos all]
    cases rest with
    | nil => simp
    | cons c others => simp [noDigit c rfl]
  have dropped : (digits ++ rest).dropWhile Char.isDigit = rest := by
    rw [List.dropWhile_append_of_pos all]
    cases rest with
    | nil => simp
    | cons c others => simp [noDigit c rfl]
  rw [readDigits, taken, dropped]
  split
  · contradiction
  · rfl

/-- There is no fraction behind a value that ends. -/
theorem readFraction_of_stops {rest : List Char} (stops : Stops rest) :
    readFraction rest = some ([], rest) := by
  unfold readFraction
  split
  next others =>
    rcases stops '.' rfl with absurd | absurd | absurd <;> cases absurd
  · rfl

/-- There is no exponent behind a value that ends. -/
theorem readExponent_of_stops {rest : List Char} (stops : Stops rest) :
    readExponent rest = some ([], rest) := by
  cases rest with
  | nil => rfl
  | cons c others =>
    have noMark : ¬ (c = 'e' ∨ c = 'E') := by
      rcases stops c rfl with rfl | rfl | rfl <;> decide
    rw [readExponent, if_neg noMark]

/-- A numeral reads back. -/
theorem readScalar_numeral {text : String} (numeral : IsNumeral text) {rest : List Char}
    (stops : Stops rest) : readScalar (text.toList ++ rest) = some (.number text, rest) := by
  obtain ⟨first, others, chars, notZero, all⟩ := numeral
  have digit : first.isDigit = true := all first List.mem_cons_self
  have whole : readDigits (first :: others ++ rest) = some (first :: others, rest) :=
    readDigits_append (by simp) all stops
  have scalar : readScalar (first :: others ++ rest) = readNumber (first :: others ++ rest) := by
    unfold readScalar
    split
    case h_5 => rfl
    all_goals
      rename_i same
      rw [List.cons_append, List.cons.injEq] at same
      rw [same.1] at digit
      exact absurd digit (by decide)
  have noSign : ∀ tail, first :: others ++ rest ≠ '-' :: tail := by
    intro tail same
    rw [List.cons_append, List.cons.injEq] at same
    rw [same.1] at digit
    exact absurd digit (by decide)
  have integer : readInteger (first :: others ++ rest) = some (first :: others, rest) := by
    rw [readInteger, whole]
    intro tail same
    rw [List.cons_append, List.cons.injEq] at same
    exact notZero same.1
  rw [chars, scalar, readNumber]
  · simp only [integer, readFraction_of_stops stops, readExponent_of_stops stops,
      Option.bind_eq_bind, Option.bind_some]
    simp [← chars]
  · exact noSign

/-! ### Values -/

/-- The values that nothing in is garbled and whose numbers are numerals. -/
inductive IsPlain : Json → Prop
  | null : IsPlain .null
  | bool (value : Bool) : IsPlain (.bool value)
  | number {text} (numeral : IsNumeral text) : IsPlain (.number text)
  | string (value : String) : IsPlain (.string value)
  | array {items} (plain : ∀ item ∈ items, IsPlain item) : IsPlain (.array items)
  | object {fields} (plain : ∀ field ∈ fields, IsPlain field.2) : IsPlain (.object fields)

/-- The bytes of the text of a value. -/
def written (value : Json) : List Char :=
  value.print.toList.flatMap spread

/-- The bytes of the text of a field. -/
def writtenField (field : String × Json) : List Char :=
  quoted field.1 ++ ':' :: field.2.written

/-- What reads back from its text whatever stands behind it. -/
def ReadsBack (item : Reader Json) (value : Json) : Prop :=
  ∀ rest, Stops rest → item (value.written ++ rest) = some (value, rest)

/-- Items are printed one by one. -/
theorem printItems_eq (items : List Json) : printItems items = items.map print := by
  induction items with
  | nil => rfl
  | cons first others inductionHypothesis => rw [printItems, inductionHypothesis, List.map_cons]

/-- Fields are printed one by one. -/
theorem printFields_eq (fields : List (String × Json)) :
    printFields fields = fields.map fun field => quote field.1 ++ ":" ++ print field.2 := by
  induction fields with
  | nil => rfl
  | cons first others inductionHypothesis =>
    rw [printFields, inductionHypothesis, List.map_cons]

/-- The bytes of texts with commas between them. -/
theorem flatMap_spread_intercalate (texts : List String) :
    (",".intercalate texts).toList.flatMap spread =
      List.intercalate [','] (texts.map fun text => text.toList.flatMap spread) := by
  rw [String.toList_intercalate]
  induction texts with
  | nil => rfl
  | cons first others inductionHypothesis =>
    cases others with
    | nil => simp
    | cons second more =>
      simp only [List.map_cons, List.intercalate_cons_cons, List.flatMap_append] at *
      rw [inductionHypothesis]
      simp [spread_of_ascii]

/-- A string is written in quotes. -/
theorem written_string (text : String) : written (.string text) = quoted text :=
  flatMap_spread_quote text

/-- An array is written with commas between its items. -/
theorem written_array (items : List Json) :
    written (.array items) = '[' :: (List.intercalate [','] (items.map written) ++ [']']) := by
  have texts : (",".intercalate (items.map print)).toList.flatMap spread =
      List.intercalate [','] (items.map written) := by
    rw [flatMap_spread_intercalate, List.map_map]
    rfl
  simp only [written, print, printItems_eq, String.toList_append, List.flatMap_append]
  rw [texts]
  simp [spread_of_ascii]

/-- An object is written with commas between its fields. -/
theorem written_object (fields : List (String × Json)) :
    written (.object fields) =
      '\x7b' :: (List.intercalate [','] (fields.map writtenField) ++ ['\x7d']) := by
  have field : ∀ field : String × Json,
      (quote field.1 ++ ":" ++ print field.2).toList.flatMap spread = writtenField field := by
    intro field
    simp only [String.toList_append, List.flatMap_append, flatMap_spread_quote]
    simp [spread_of_ascii, writtenField, written]
  have texts : (",".intercalate
      (fields.map fun field => quote field.1 ++ ":" ++ print field.2)).toList.flatMap spread =
        List.intercalate [','] (fields.map writtenField) := by
    simp only [flatMap_spread_intercalate, List.map_map, Function.comp_def, field]
  rw [written, print, printFields_eq, String.toList_append, String.toList_append,
    List.flatMap_append, List.flatMap_append, texts]
  simp [spread_of_ascii]

/-- The characters of a numeral are their own bytes. -/
theorem written_number {text : String} (numeral : IsNumeral text) :
    written (.number text) = text.toList := by
  obtain ⟨first, others, chars, -, all⟩ := numeral
  apply flatMap_spread_of_ascii
  intro c mem
  have digit := all c (chars ▸ mem)
  simp only [Char.isDigit, Bool.and_eq_true, decide_eq_true_eq] at digit
  exact Nat.lt_of_le_of_lt digit.2 (by decide)

/-- The first byte of a value: neither a blank nor a closing bracket. -/
theorem exists_written_eq {value : Json} (plain : IsPlain value) :
    ∃ first others, value.written = first :: others ∧ isGap first = false ∧ first ≠ ']' := by
  cases plain with
  | null => exact ⟨'n', ['u', 'l', 'l'], by decide, by decide, by decide⟩
  | bool value =>
    cases value
    · exact ⟨'f', ['a', 'l', 's', 'e'], by decide, by decide, by decide⟩
    · exact ⟨'t', ['r', 'u', 'e'], by decide, by decide, by decide⟩
  | number numeral =>
    obtain ⟨first, others, chars, -, all⟩ := id numeral
    have digit := all first List.mem_cons_self
    refine ⟨first, others, by rw [written_number numeral, chars], ?_, ?_⟩
    · simp only [isGap, decide_eq_false_iff_not]
      rintro (rfl | rfl | rfl | rfl) <;> exact absurd digit (by decide)
    · rintro rfl
      exact absurd digit (by decide)
  | string value => exact ⟨'"', _, written_string value, by decide, by decide⟩
  | array _ => exact ⟨'[', _, written_array _, by decide, by decide⟩
  | object _ => exact ⟨'\x7b', _, written_object _, by decide, by decide⟩

/-- There are no blanks in front of a value. -/
theorem skipGaps_written {value : Json} (plain : IsPlain value) (rest : List Char) :
    skipGaps (value.written ++ rest) = value.written ++ rest := by
  obtain ⟨first, others, chars, noGap, -⟩ := exists_written_eq plain
  simp [chars, skipGaps, noGap]

/-- An item with a comma behind it is followed by others. -/
theorem readItems_of_comma {item : Reader Json} {first : Json} {chars tail : List Char}
    (read : item chars = some (first, ',' :: tail)) (fuel : Nat) :
    readItems item (fuel + 1) chars =
      (readItems item fuel tail).map fun (others, rest) => (first :: others, rest) := by
  have noGap : skipGaps (',' :: tail) = ',' :: tail := by simp [skipGaps, isGap]
  rw [readItems, read, Option.map_eq_bind]
  simp only [Option.bind_eq_bind, Option.bind_some, noGap]
  rfl

/-- An item with a bracket behind it is the last one. -/
theorem readItems_of_bracket {item : Reader Json} {first : Json} {chars rest : List Char}
    (read : item chars = some (first, ']' :: rest)) (fuel : Nat) :
    readItems item (fuel + 1) chars = some ([first], rest) := by
  have noGap : skipGaps (']' :: rest) = ']' :: rest := by simp [skipGaps, isGap]
  rw [readItems, read]
  simp only [Option.bind_eq_bind, Option.bind_some, noGap]
  rfl

/-- The items of an array read back when each of them does. -/
theorem readItems_print {item : Reader Json} {items : List Json} {fuel : Nat}
    (nonempty : items ≠ []) (enough : items.length ≤ fuel)
    (back : ∀ value ∈ items, ReadsBack item value) (rest : List Char) :
    readItems item fuel
      (List.intercalate [','] (items.map written) ++ ']' :: rest) = some (items, rest) := by
  induction items generalizing fuel with
  | nil => contradiction
  | cons first others inductionHypothesis =>
    have readsFirst := back first List.mem_cons_self
    cases fuel with
    | zero => simp at enough
    | succ fuel =>
      cases others with
      | nil =>
        have read := readsFirst (']' :: rest) (by simp [Stops])
        exact readItems_of_bracket (by simpa using read) fuel
      | cons second more =>
        have later := inductionHypothesis (List.cons_ne_nil _ _)
          (Nat.le_of_succ_le_succ enough) fun value mem => back value (List.mem_cons_of_mem _ mem)
        have split : List.intercalate [','] ((first :: second :: more).map written) ++
            ']' :: rest = first.written ++
              ',' :: (List.intercalate [','] ((second :: more).map written) ++ ']' :: rest) := by
          simp [List.intercalate_cons_cons]
        rw [split, readItems_of_comma (readsFirst _ (by simp [Stops])) fuel, later]
        rfl

/-- A field is read up to the mark behind it. -/
theorem readFields_writtenField {item : Reader Json} {field : String × Json}
    (back : ReadsBack item field.2) (fuel : Nat) {rest : List Char} (stops : Stops rest) :
    readFields item (fuel + 1) (writtenField field ++ rest) =
      match skipGaps rest with
      | ',' :: rest => (readFields item fuel rest).map fun (others, rest) =>
          ((some field.1, field.2) :: others, rest)
      | '\x7d' :: rest => some ([(some field.1, field.2)], rest)
      | _ => none := by
  have noGap : ∀ {c : Char} {rest : List Char}, isGap c = false →
      skipGaps (c :: rest) = c :: rest := by
    intro c rest visible
    simp [skipGaps, visible]
  have read := back rest stops
  rw [writtenField, quoted, readFields]
  simp only [List.cons_append, List.append_assoc, List.nil_append]
  rw [noGap (by decide)]
  simp only [readString_escape, Option.bind_eq_bind, Option.bind_some]
  rw [noGap (by decide)]
  simp only [read, Option.bind_some, Option.map_eq_bind]
  rfl

/-- Fields with names that are texts. -/
def named (fields : List (String × Json)) : List (Option String × Json) :=
  fields.map fun field => (some field.1, field.2)

/-- The fields of an object read back when their values do. -/
theorem readFields_print {item : Reader Json} {fields : List (String × Json)} {fuel : Nat}
    (nonempty : fields ≠ []) (enough : fields.length ≤ fuel)
    (back : ∀ field ∈ fields, ReadsBack item field.2) (rest : List Char) :
    readFields item fuel (List.intercalate [','] (fields.map writtenField) ++ '\x7d' :: rest) =
      some (named fields, rest) := by
  induction fields generalizing fuel with
  | nil => contradiction
  | cons first others inductionHypothesis =>
    have backFirst := back first List.mem_cons_self
    cases fuel with
    | zero => simp at enough
    | succ fuel =>
      cases others with
      | nil =>
        rw [List.map_singleton, List.intercalate_singleton,
          readFields_writtenField backFirst fuel (by simp [Stops])]
        simp [skipGaps, isGap, named]
      | cons second more =>
        have later := inductionHypothesis (List.cons_ne_nil _ _)
          (Nat.le_of_succ_le_succ enough) fun field mem => back field (List.mem_cons_of_mem _ mem)
        have split : List.intercalate [','] ((first :: second :: more).map writtenField) ++
            '\x7d' :: rest = writtenField first ++ ',' ::
              (List.intercalate [','] ((second :: more).map writtenField) ++ '\x7d' :: rest) := by
          simp [List.intercalate_cons_cons]
        rw [split, readFields_writtenField backFirst fuel (by simp [Stops])]
        simp only [skipGaps]
        rw [List.dropWhile_cons_of_neg (by decide)]
        simp only [later]
        rfl

/-- Fields with names that are texts make an object. -/
theorem ofFields_named (fields : List (String × Json)) :
    ofFields (named fields) = .object fields := by
  have all : (named fields).mapM (fun field => field.1.map (·, field.2)) = some fields := by
    induction fields with
    | nil => rfl
    | cons first others inductionHypothesis =>
      rw [named, List.map_cons, List.mapM_cons]
      change (do let others ← (named others).mapM _; some (first :: others)) = _
      rw [inductionHypothesis]
      rfl
  rw [ofFields]
  split
  next found same =>
    cases all.symm.trans same
    rfl
  next same => cases all.symm.trans same

/-- Every part takes room between the marks. -/
theorem length_le_intercalate {parts : List (List Char)} (full : ∀ part ∈ parts, part ≠ []) :
    parts.length ≤ (List.intercalate [','] parts).length := by
  induction parts with
  | nil => simp
  | cons first others inductionHypothesis =>
    have room : 1 ≤ first.length := List.length_pos_iff.2 (full first List.mem_cons_self)
    have later := inductionHypothesis fun part mem => full part (List.mem_cons_of_mem _ mem)
    cases others with
    | nil => simpa using room
    | cons second more =>
      rw [List.intercalate_cons_cons]
      simp only [List.length_append, List.length_cons, List.length_nil] at later ⊢
      omega

/-- No part is longer than all parts with marks between them. -/
theorem length_le_of_mem_intercalate {parts : List (List Char)} {part : List Char}
    (mem : part ∈ parts) : part.length ≤ (List.intercalate [','] parts).length := by
  induction parts with
  | nil => cases mem
  | cons first others inductionHypothesis =>
    cases others with
    | nil => simp_all
    | cons second more =>
      rw [List.intercalate_cons_cons, List.length_append, List.length_append]
      rcases List.mem_cons.1 mem with rfl | later
      · omega
      · have := inductionHypothesis later
        omega

/-- Parts with commas between them start as the first part does. -/
theorem intercalate_of_head {parts : List (List Char)} {c : Char} {tail : List Char}
    (head : parts.head? = some (c :: tail)) (rest : List Char) :
    ∃ others, List.intercalate [','] parts ++ rest = c :: others := by
  cases parts with
  | nil => cases head
  | cons first more =>
    cases head
    cases more with
    | nil => exact ⟨_, by rw [List.intercalate_singleton, List.cons_append]⟩
    | cons second others =>
      exact ⟨_, by rw [List.intercalate_cons_cons, List.append_assoc, List.append_assoc,
        List.cons_append]⟩

/-- A scalar reads back at every depth. -/
theorem readValue_scalar {value : Json} (plain : IsPlain value)
    (scalar : ∀ rest, Stops rest → readScalar (value.written ++ rest) = some (value, rest))
    (noArray : value.written.head? ≠ some '[') (noObject : value.written.head? ≠ some '\x7b')
    (depth : Nat) : ReadsBack (readValue depth) value := by
  intro rest stops
  have read := scalar rest stops
  obtain ⟨first, others, chars, -, -⟩ := exists_written_eq plain
  cases depth with
  | zero => rw [readValue, skipGaps_written plain, read]
  | succ depth =>
    rw [readValue, skipGaps_written plain]
    rw [chars] at read noArray noObject ⊢
    split
    · simp_all
    · simp_all
    · exact read

/-- An array reads back when its items do. -/
theorem readsBack_array {depth : Nat} {items : List Json}
    (plain : ∀ item ∈ items, IsPlain item)
    (back : ∀ value ∈ items, ReadsBack (readValue depth) value) :
    ReadsBack (readValue (depth + 1)) (.array items) := by
  intro rest _
  rw [written_array, List.cons_append, List.append_assoc, List.singleton_append, readValue,
    skipGaps, List.dropWhile_cons_of_neg (by decide)]
  cases items with
  | nil => rfl
  | cons first others =>
    have full : ∀ part ∈ (first :: others).map written, part ≠ [] := by
      intro part mem
      obtain ⟨value, valueMem, rfl⟩ := List.mem_map.1 mem
      obtain ⟨c, tail, chars, -⟩ := exists_written_eq (plain value valueMem)
      simp [chars]
    obtain ⟨c, tail, chars, noGap, notClosed⟩ := exists_written_eq (plain first List.mem_cons_self)
    have head : ((first :: others).map written).head? = some (c :: tail) := by simp [chars]
    obtain ⟨body, starts⟩ := intercalate_of_head head (']' :: rest)
    have enough : (first :: others).length ≤ (c :: body).length + 1 := by
      have room := length_le_intercalate full
      rw [List.length_map] at room
      rw [← starts, List.length_append]
      omega
    have read := readItems_print (List.cons_ne_nil first others) enough back rest
    rw [starts] at read ⊢
    have visible : skipGaps (c :: body) = c :: body := by simp [skipGaps, noGap]
    simp only [visible, read]
    split
    next same => exact absurd (List.cons.inj same).1 notClosed
    · rfl

/-- An object reads back when the values of its fields do. -/
theorem readsBack_object {depth : Nat} {fields : List (String × Json)}
    (back : ∀ field ∈ fields, ReadsBack (readValue depth) field.2) :
    ReadsBack (readValue (depth + 1)) (.object fields) := by
  intro rest _
  rw [written_object, List.cons_append, List.append_assoc, List.singleton_append, readValue,
    skipGaps, List.dropWhile_cons_of_neg (by decide)]
  cases fields with
  | nil => rfl
  | cons first others =>
    have full : ∀ part ∈ (first :: others).map writtenField, part ≠ [] := by
      intro part mem
      obtain ⟨field, -, rfl⟩ := List.mem_map.1 mem
      simp [writtenField, quoted]
    have head : ((first :: others).map writtenField).head? =
        some ('"' :: ((first.1.toList.flatMap escape).flatMap spread ++ ['"'] ++
          ':' :: first.2.written)) := by
      simp [writtenField, quoted]
    obtain ⟨body, starts⟩ := intercalate_of_head head ('\x7d' :: rest)
    have enough : (first :: others).length ≤ ('"' :: body).length + 1 := by
      have room := length_le_intercalate full
      rw [List.length_map] at room
      rw [← starts, List.length_append]
      omega
    have read := readFields_print (List.cons_ne_nil first others) enough back rest
    rw [starts] at read ⊢
    have visible : skipGaps ('"' :: body) = '"' :: body := by simp [skipGaps, isGap]
    simp only [visible, read, Option.bind_eq_bind, Option.bind_some, ofFields_named]
    rfl

/-- A plain value reads back at every depth that its text is no longer than. -/
theorem readsBack_of_isPlain {value : Json} (plain : IsPlain value) {depth : Nat}
    (enough : value.written.length ≤ depth) : ReadsBack (readValue depth) value := by
  have whole := plain
  induction plain generalizing depth with
  | null => exact readValue_scalar whole (fun _ _ => rfl) (by decide) (by decide) depth
  | bool value =>
    cases value
    · exact readValue_scalar whole (fun _ _ => rfl) (by decide) (by decide) depth
    · exact readValue_scalar whole (fun _ _ => rfl) (by decide) (by decide) depth
  | number numeral =>
    obtain ⟨first, others, chars, -, all⟩ := id numeral
    have digit := all first List.mem_cons_self
    have text := written_number numeral
    refine readValue_scalar whole (fun rest stops => ?_) ?_ ?_ depth
    · rw [text]
      exact readScalar_numeral numeral stops
    · rw [text, chars]
      rintro ⟨⟩
      exact absurd digit (by decide)
    · rw [text, chars]
      rintro ⟨⟩
      exact absurd digit (by decide)
  | string value =>
    have text := written_string value
    refine readValue_scalar whole (fun rest stops => ?_) ?_ ?_ depth
    · rw [text, quoted]
      simp [readScalar, readString_escape, ofText?]
    · simp [text, quoted]
    · simp [text, quoted]
  | @array items plain inductionHypothesis =>
    rw [written_array, List.length_cons, List.length_append] at enough
    obtain ⟨depth, rfl⟩ := Nat.exists_eq_add_one_of_ne_zero (Nat.ne_of_gt (Nat.lt_of_lt_of_le
      (Nat.succ_pos _) enough))
    refine readsBack_array plain fun item mem => inductionHypothesis item mem ?_ (plain item mem)
    have room := length_le_of_mem_intercalate (List.mem_map_of_mem (f := written) mem)
    omega
  | @object fields plain inductionHypothesis =>
    rw [written_object, List.length_cons, List.length_append] at enough
    obtain ⟨depth, rfl⟩ := Nat.exists_eq_add_one_of_ne_zero (Nat.ne_of_gt (Nat.lt_of_lt_of_le
      (Nat.succ_pos _) enough))
    refine readsBack_object fun field mem => inductionHypothesis field mem ?_ (plain field mem)
    have room := length_le_of_mem_intercalate (List.mem_map_of_mem (f := writtenField) mem)
    rw [writtenField, List.length_append, List.length_cons] at room
    omega

/-- The bytes of the text of a plain value hold exactly this value. -/
theorem ofBytes?_print {value : Json} (plain : IsPlain value) :
    ofBytes? value.print.toUTF8 = some value := by
  have read := readsBack_of_isPlain plain (Nat.le_refl _) [] (by simp [Stops])
  rw [List.append_nil] at read
  rw [ofBytes?, map_ofUInt8_toUTF8]
  change (readValue value.written.length value.written).bind _ = _
  rw [read]
  rfl

/-- The text of a plain value holds exactly this value. -/
theorem parse?_print {value : Json} (plain : IsPlain value) : parse? value.print = some value :=
  ofBytes?_print plain

end Json

end ResourceAccessors
