import ResourceAccessors.Proofs.Syntax.Words

/-!
# Words are read as they are written

A word with a colon or nothing behind it is read as one token: it starts no literal, no mark, no comment
and no bracket, and no longer word can be read.
-/

namespace ResourceAccessors.Syntax

open Accessor (IsIdentifier)
open Text (continuesIdentifier startsIdentifier)

/-! ### Characters of words -/

/-- A character that starts words is none that does not. -/
theorem ne_of_startsWord {c other : Char} (starts : startsWord c = true)
    (never : startsWord other = false) : c ≠ other := by
  rintro rfl
  rw [starts] at never
  cases never

/-- A character that can stand in an identifier is none that cannot. -/
theorem ne_of_continues {c other : Char} (continues : continuesIdentifier c = true)
    (never : continuesIdentifier other = false) : c ≠ other := by
  rintro rfl
  rw [continues] at never
  cases never

/-- Whether what follows a word neither continues it nor makes a literal of it: a colon follows, or
nothing. -/
def EndsWord (rest : List Char) : Prop :=
  ∀ c ∈ rest.head?, c = ':'

/-- The end of the characters that can stand in a word is the end of the word. -/
theorem EndsWord.dropWhile_append {letters rest : List Char} (ends : EndsWord rest)
    (continues : ∀ c ∈ letters, continuesIdentifier c = true) :
    (letters ++ rest).dropWhile continuesIdentifier = rest := by
  rw [List.dropWhile_append_of_pos continues]
  cases rest with
  | nil => rfl
  | cons c behind =>
    rw [ends c rfl, List.dropWhile_cons_of_neg (by decide)]

/-- Behind the first character of a word there is no character that can neither stand in a word nor
follow it. -/
theorem EndsWord.head?_ne {letters rest : List Char} (ends : EndsWord rest)
    (continues : ∀ c ∈ letters, continuesIdentifier c = true) {other : Char}
    (never : continuesIdentifier other = false) (noColon : other ≠ ':') :
    (letters ++ rest).head? ≠ some other := by
  cases letters with
  | nil =>
    intro first
    exact noColon (ends other first)
  | cons c letters =>
    rintro ⟨⟩
    exact ne_of_continues (continues other List.mem_cons_self) never rfl

/-- A raw literal does not start where no hash and no quote stands. -/
theorem afterRaw?_eq_none {admits : Char → Bool} {source : List Char}
    (noHash : source.head? ≠ some '#') (noQuote : source.head? ≠ some '"') :
    afterRaw? admits source = none := by
  cases source with
  | nil => rfl
  | cons c rest =>
    have hash : c ≠ '#' := fun same => noHash (by rw [same]; rfl)
    have quote : c ≠ '"' := fun same => noQuote (by rw [same]; rfl)
    rw [afterRaw?, List.dropWhile_cons_of_neg (by simpa using hash)]
    split
    next behind same => exact absurd (List.cons.inj same).1 quote
    next => rfl

/-- A raw literal with one hash does not start where no hash and no quote stands behind it. -/
theorem afterRaw?_hash_eq_none {admits : Char → Bool} {source : List Char}
    (noHash : source.head? ≠ some '#') (noQuote : source.head? ≠ some '"') :
    afterRaw? admits ('#' :: source) = none := by
  cases source with
  | nil => rfl
  | cons c rest =>
    have hash : c ≠ '#' := fun same => noHash (by rw [same]; rfl)
    have quote : c ≠ '"' := fun same => noQuote (by rw [same]; rfl)
    rw [afterRaw?, List.dropWhile_cons_of_pos (by decide),
      List.dropWhile_cons_of_neg (by simpa using hash)]
    split
    next behind same => exact absurd (List.cons.inj same).1 quote
    next => rfl

/-- A word does not start with a digit. -/
theorem isDigit_eq_false_of_startsWord {c : Char} (starts : startsWord c = true) :
    c.isDigit = false := by
  rcases startsWord_iff.1 starts with rfl | starts
  · rfl
  · rw [← Bool.not_eq_true]
    intro digit
    simp only [Char.isDigit, Bool.and_eq_true, decide_eq_true_eq] at digit
    have misses : Text.Identifier.startTable.misses 0x30 0x39 = true := by decide
    have absent := Text.CharTable.not_holds_of_misses misses (UInt32.le_iff_toNat_le.1 digit.1)
      (UInt32.le_iff_toNat_le.1 digit.2)
    exact absurd starts (by rw [Text.startsIdentifier, Text.CharTable.contains]; simpa using absent)

/-- What is no digit has no value below ten. -/
theorem le_of_hexValue? {c : Char} {digit : Nat} (noDigit : c.isDigit = false)
    (value : hexValue? c = some digit) : 10 ≤ digit := by
  unfold hexValue? at value
  split at value
  next among =>
    have isDigit : c.isDigit = true := by
      simp only [Char.isDigit, Bool.and_eq_true, decide_eq_true_eq]
      exact among
    rw [noDigit] at isDigit
    cases isDigit
  next =>
    split at value
    next => cases value; omega
    next =>
      split at value
      next => cases value; omega
      next => cases value

/-- No number starts with the first character of a word. -/
theorem afterFloatDigits?_eq_none {first : Char} {rest : List Char}
    (starts : startsWord first = true) : afterFloatDigits? (first :: rest) = none := by
  rw [afterFloatDigits?, isDigit_eq_false_of_startsWord starts]
  rfl

/-- No integer starts as a word does. -/
theorem afterIntegerDigits?_eq_none {first : Char} {rest : List Char}
    (starts : startsWord first = true) : afterIntegerDigits? (first :: rest) = none := by
  have noDigit := isDigit_eq_false_of_startsWord starts
  have notZero : first ≠ '0' := ne_of_startsWord starts (by decide)
  have none : afterDigits? 10 true (first :: rest) = none := by
    rw [afterDigits?]
    split
    · rfl
    · split
      next digit value =>
        have large := le_of_hexValue? noDigit value
        rw [if_neg (by omega), noDigit]
        rfl
      next => rfl
  unfold afterIntegerDigits?
  split
  next same => exact absurd (List.cons.inj same).1 notZero
  next same => exact absurd (List.cons.inj same).1 notZero
  next same => exact absurd (List.cons.inj same).1 notZero
  next => exact none

/-! ### What else could be read -/

/-- No literal starts where no text, no bytes and no single character does, with the first character of
a word. -/
theorem readLiteral_eq_none {first : Char} {rest : List Char} (starts : startsWord first = true)
    (text : afterTextLiteral? (first :: rest) = none)
    (bytes : afterBytesLiteral? (first :: rest) = none)
    (one : afterOneLiteral? (first :: rest) = none) : readLiteral (first :: rest) = none := by
  have none : afterLiteral? (first :: rest) = none := by
    rw [afterLiteral?, text, bytes, one, afterFloatDigits?_eq_none starts,
      afterIntegerDigits?_eq_none starts]
    rfl
  rw [readLiteral, none]
  rfl

/-- No literal starts with an identifier. -/
theorem readLiteral_identifier {letters rest : List Char} (identifier : IsIdentifier letters)
    (ends : EndsWord rest) : readLiteral (letters ++ rest) = none := by
  obtain ⟨first, others, rfl, starts, continues⟩ := identifier
  have starts := startsWord_iff.2 starts
  have behind : ∀ {other : Char}, continuesIdentifier other = false → other ≠ ':' →
      (others ++ rest).head? ≠ some other :=
    fun never noColon => ends.head?_ne continues never noColon
  have further : ∀ {c other : Char} {later : List Char}, others ++ rest = c :: later →
      continuesIdentifier c = true → continuesIdentifier other = false → other ≠ ':' →
      later.head? ≠ some other := by
    intro c other later split inside never noColon
    cases others with
    | nil =>
      have colon := ends c (by rw [show rest = c :: later from split]; rfl)
      rw [colon] at inside
      exact absurd inside (by decide)
    | cons second others =>
      obtain ⟨rfl, rfl⟩ := List.cons.inj split
      exact ends.head?_ne (fun c mem => continues c (List.mem_cons_of_mem _ mem)) never noColon
  rw [List.cons_append]
  apply readLiteral_eq_none starts
  · unfold afterTextLiteral?
    split
    next same => exact absurd (List.cons.inj same).1 (ne_of_startsWord starts (by decide))
    next same =>
      obtain ⟨rfl, rfl⟩ := List.cons.inj same
      exact afterRaw?_eq_none (behind (by decide) (by decide)) (behind (by decide) (by decide))
    next => rfl
  · unfold afterBytesLiteral?
    split
    next same =>
      obtain ⟨-, quote⟩ := List.cons.inj same
      exact absurd (congrArg List.head? quote) (behind (by decide) (by decide))
    next same =>
      obtain ⟨-, later⟩ := List.cons.inj same
      exact afterRaw?_eq_none (further later (by decide) (by decide) (by decide))
        (further later (by decide) (by decide) (by decide))
    next same =>
      obtain ⟨-, quote⟩ := List.cons.inj same
      exact absurd (congrArg List.head? quote) (behind (by decide) (by decide))
    next same =>
      obtain ⟨-, later⟩ := List.cons.inj same
      exact afterRaw?_eq_none (further later (by decide) (by decide) (by decide))
        (further later (by decide) (by decide) (by decide))
    next => rfl
  · unfold afterOneLiteral?
    split
    next same =>
      obtain ⟨-, quote⟩ := List.cons.inj same
      exact absurd (congrArg List.head? quote) (behind (by decide) (by decide))
    next same => exact absurd (List.cons.inj same).1 (ne_of_startsWord starts (by decide))
    next => rfl

/-- No literal starts with a raw identifier. -/
theorem readLiteral_raw {letters rest : List Char} (identifier : IsIdentifier letters) :
    readLiteral ('r' :: '#' :: (letters ++ rest)) = none := by
  obtain ⟨first, others, rfl, starts, -⟩ := identifier
  have starts := startsWord_iff.2 starts
  have notHash : (first :: others ++ rest).head? ≠ some '#' := by
    rintro ⟨⟩
    exact ne_of_startsWord starts (by decide) rfl
  have notQuote : (first :: others ++ rest).head? ≠ some '"' := by
    rintro ⟨⟩
    exact ne_of_startsWord starts (by decide) rfl
  apply readLiteral_eq_none (by decide)
  · exact afterRaw?_hash_eq_none notHash notQuote
  · rfl
  · rfl

/-- A word starts with no mark. -/
theorem readMarkChar_eq_none {first : Char} {rest : List Char} (starts : startsWord first = true) :
    readMarkChar (first :: rest) = none := by
  have never : "~!@#$%^&*-=+|;:,<.>/?'".toList.all (!startsWord ·) = true := by decide
  have noMark : isMark first = false := by
    rw [isMark, ← Bool.not_eq_true, List.contains_iff_mem]
    intro mem
    have none := List.all_eq_true.1 never first mem
    rw [starts] at none
    cases none
  unfold readMarkChar
  split
  next => rfl
  next => rfl
  next => rfl
  next same =>
    obtain ⟨rfl, -⟩ := List.cons.inj same
    rw [if_neg (by simp [noMark])]

/-- A word is neither the start of a comment, nor of an unreadable literal, nor a bracket. -/
theorem readLexeme_eq_readLeaf {first : Char} {rest : List Char} (starts : startsWord first = true) :
    readLexeme (first :: rest) =
      (readLeaf (first :: rest)).map fun (leaf, rest) => (.tokens [leaf], rest) := by
  have noComment : readDocComment (first :: rest) = none := by
    have slash : first ≠ '/' := ne_of_startsWord starts (by decide)
    have none : splitDocComment? (first :: rest) = none := by
      unfold splitDocComment?
      split
      all_goals first
        | rfl
        | exact absurd (List.cons.inj (by assumption)).1 slash
    rw [readDocComment, none]
    rfl
  have readable : afterText? unreadableLiteral (first :: rest) = none := by
    have parenthesis : '(' ≠ first := (ne_of_startsWord starts (by decide)).symm
    exact if_neg parenthesis
  have noBracket : readBracket (first :: rest) = none := by
    unfold readBracket
    split
    all_goals first
      | rfl
      | exact absurd (List.cons.inj (by assumption)).1 (ne_of_startsWord starts (by decide))
  rw [readLexeme, noComment, readable, noBracket]

/-! ### Blanks -/

/-- A code that a table holds is in one of its ranges. -/
theorem exists_range_of_holds {table : Text.CharTable} {code : Nat}
    (holds : table.holds code = true) : ∃ range ∈ table, range.1 ≤ code ∧ code ≤ range.2 := by
  induction table with
  | nil => cases holds
  | cons range rest ih =>
    rw [Text.CharTable.holds] at holds
    split at holds
    next => cases holds
    next above =>
      rw [Bool.or_eq_true, decide_eq_true_eq] at holds
      rcases holds with below | later
      · exact ⟨range, List.mem_cons_self, by omega, below⟩
      · obtain ⟨found, mem, inside⟩ := ih later
        exact ⟨found, List.mem_cons_of_mem _ mem, inside⟩

/-- A blank cannot stand in an identifier. -/
theorem isBlank_eq_false_of_continues {c : Char} (continues : continuesIdentifier c = true) :
    Text.isBlank c = false := by
  have apart : ∀ range ∈ Text.blankTable,
      Text.Identifier.startTable.misses range.1 range.2 = true ∧
        Text.Identifier.continueOnlyTable.misses range.1 range.2 = true := by
    decide +kernel
  rw [← Bool.not_eq_true]
  intro blank
  obtain ⟨range, mem, above, below⟩ := exists_range_of_holds blank
  have noStart : startsIdentifier c = false :=
    Text.CharTable.not_holds_of_misses (apart range mem).1 above below
  have noMore : Text.Identifier.continueOnlyTable.contains c = false :=
    Text.CharTable.not_holds_of_misses (apart range mem).2 above below
  rw [continuesIdentifier, noStart, noMore] at continues
  cases continues

/-- What starts a word starts no comment and is no blank. -/
theorem skipBlanks_eq_self {first : Char} {rest : List Char} (slash : first ≠ '/')
    (blank : isSourceBlank first = false) : skipBlanks (first :: rest) = first :: rest := by
  have noComment : afterPlainComment? (first :: rest) = none := by
    unfold afterPlainComment?
    split
    all_goals first
      | rfl
      | exact absurd (List.cons.inj (by assumption)).1 slash
  have none : skipOneBlank? (first :: rest) = none := by
    simp [skipOneBlank?, noComment, blank]
  rw [skipBlanks, none]

/-- The marks of the direction of writing and of the byte order start no word. -/
theorem not_startsWord_hidden :
    startsWord '\u200e' = false ∧ startsWord '\u200f' = false ∧ startsWord '\ufeff' = false := by
  decide +kernel

/-- A word does not start with a blank. -/
theorem isSourceBlank_eq_false {c : Char} (starts : startsWord c = true) :
    isSourceBlank c = false := by
  have continues : continuesIdentifier c = true := by
    rcases startsWord_iff.1 starts with rfl | starts
    · exact Accessor.continuesIdentifier_underscore
    · exact Text.continuesIdentifier_of_starts starts
  have left : c ≠ '\u200e' := ne_of_startsWord starts not_startsWord_hidden.1
  have right : c ≠ '\u200f' := ne_of_startsWord starts not_startsWord_hidden.2.1
  simp [isSourceBlank, isBlank_eq_false_of_continues continues, left, right]

/-! ### Words -/

/-- An identifier is taken from the front of a source as a whole. -/
theorem afterWord?_identifier {letters rest : List Char} (identifier : IsIdentifier letters)
    (ends : EndsWord rest) : afterWord? (letters ++ rest) = some rest := by
  obtain ⟨first, others, rfl, starts, continues⟩ := identifier
  rw [List.cons_append, afterWord?, if_pos (startsWord_iff.2 starts),
    ends.dropWhile_append continues]

/-- The start of a literal is no front of an identifier and what ends it. -/
theorem literalStarts_identifier {letters rest : List Char} (identifier : IsIdentifier letters)
    (ends : EndsWord rest) : literalStarts.any (·.isPrefixOf (letters ++ rest)) = false := by
  have marked : ∀ start ∈ literalStarts, ¬ (start.dropWhile continuesIdentifier).isEmpty ∧
      (start.dropWhile continuesIdentifier).head? ≠ some ':' := by
    decide
  rw [← Bool.not_eq_true, List.any_eq_true]
  rintro ⟨start, mem, front⟩
  obtain ⟨behind, same⟩ := List.isPrefixOf_iff_prefix.1 front
  obtain ⟨some, noColon⟩ := marked start mem
  have stops : (start ++ behind).dropWhile continuesIdentifier = rest := by
    rw [same, ends.dropWhile_append (continues_of_isIdentifier identifier)]
  rw [List.dropWhile_append, if_neg some] at stops
  cases marks : start.dropWhile continuesIdentifier with
  | nil => exact some (by rw [marks]; rfl)
  | cons mark later =>
    rw [marks] at stops noColon
    exact noColon (by rw [ends mark (by rw [← stops]; rfl)]; rfl)

/-- The start of a literal is no front of a raw identifier. -/
theorem literalStarts_raw {letters rest : List Char} (identifier : IsIdentifier letters) :
    literalStarts.any (·.isPrefixOf ('r' :: '#' :: (letters ++ rest))) = false := by
  obtain ⟨first, others, rfl, starts, -⟩ := identifier
  have starts := startsWord_iff.2 starts
  have hash : '#' ≠ first := (ne_of_startsWord starts (by decide)).symm
  have quote : '"' ≠ first := (ne_of_startsWord starts (by decide)).symm
  simp [literalStarts, List.isPrefixOf, hash, quote]

/-- A word is read as a whole. -/
theorem readWord_word {word : String} {rest : List Char} (isWord : IsWord word)
    (ends : EndsWord rest) : readWord (word.toList ++ rest) = some (word, rest) := by
  cases isWord with
  | plain letters =>
    rw [readWord, literalStarts_identifier letters ends, if_neg (by decide), readAnyWord]
    · rw [afterWord?_identifier letters ends]
      simp
    · intro name same
      obtain ⟨first, others, chars, -, continues⟩ := letters
      rw [chars] at same
      obtain ⟨-, hash⟩ := List.cons.inj same
      exact ends.head?_ne continues (by decide) (by decide) (congrArg List.head? hash)
  | @raw name letters free =>
    have chars : ("r#" ++ name).toList ++ rest = 'r' :: '#' :: (name.toList ++ rest) := by
      rw [String.toList_append]
      rfl
    rw [chars, readWord, literalStarts_raw letters, if_neg (by decide), readAnyWord,
      afterWord?_identifier letters ends]
    simp [free]

/-- A word is not empty and starts as a word. -/
theorem IsWord.exists_first {word : String} (isWord : IsWord word) :
    ∃ first others, word.toList = first :: others ∧ startsWord first = true := by
  cases isWord with
  | plain letters =>
    obtain ⟨first, others, chars, starts, -⟩ := letters
    exact ⟨first, others, chars, startsWord_iff.2 starts⟩
  | @raw name letters =>
    refine ⟨'r', '#' :: name.toList, ?_, by decide⟩
    rw [String.toList_append]
    rfl

/-- A word starts no literal. -/
theorem readLiteral_word {word : String} {rest : List Char} (isWord : IsWord word)
    (ends : EndsWord rest) : readLiteral (word.toList ++ rest) = none := by
  cases isWord with
  | plain letters => exact readLiteral_identifier letters ends
  | raw letters =>
    rw [String.toList_append]
    exact readLiteral_raw letters

/-- A word is one lexeme. -/
theorem readLexeme_word {word : String} {rest : List Char} (isWord : IsWord word)
    (ends : EndsWord rest) :
    readLexeme (word.toList ++ rest) = some (.tokens [.word word], rest) := by
  obtain ⟨first, others, chars, starts⟩ := isWord.exists_first
  have literal := readLiteral_word isWord ends
  have read := readWord_word isWord ends
  rw [chars, List.cons_append] at literal read ⊢
  have noMark : readMark (first :: (others ++ rest)) = none := by
    rw [readMark, readMarkChar_eq_none starts]
    rfl
  rw [readLexeme_eq_readLeaf starts, readLeaf, literal, noMark, read]
  rfl

/-! ### Paths -/

/-- The words of a path with double colons between them. -/
def pathText (words : List String) : String :=
  "::".intercalate words

/-- The trees of a path behind its first word. -/
def trailTrees (words : List String) : Tokens :=
  words.flatMap fun word => [.mark ':' true, .mark ':' false, .word word]

/-- The characters of a path behind its first word. -/
def trailChars (words : List String) : List Char :=
  words.flatMap fun word => ':' :: ':' :: word.toList

/-- A path is its first word and what stands behind it. -/
theorem toList_pathText (first : String) (others : List String) :
    (pathText (first :: others)).toList = first.toList ++ trailChars others := by
  induction others generalizing first with
  | nil => simp [pathText, trailChars]
  | cons second others ih =>
    rw [pathText, String.intercalate_cons_cons, String.toList_append, String.toList_append,
      ← pathText, ih]
    simp [trailChars]

/-- A word ends where a path goes on or ends. -/
theorem endsWord_trailChars (words : List String) : EndsWord (trailChars words) := by
  cases words with
  | nil => rintro c ⟨⟩
  | cons first rest =>
    rintro c ⟨⟩
    rfl

/-- A colon is one lexeme. -/
theorem readLexeme_colon (rest : List Char) :
    readLexeme (':' :: rest) =
      some (.tokens [.mark ':' (readMarkChar rest).isSome], rest) := by
  rfl

/-- The lexemes of a source that starts with a lexeme and no blank. -/
theorem lexemes_cons {source rest : List Char} {lexeme : Lexeme} {others : List Lexeme}
    (some : source ≠ []) (unblanked : skipBlanks source = source)
    (read : readLexeme source = .some (lexeme, rest)) (shorter : rest.length < source.length)
    (later : lexemes rest = .some others) : lexemes source = .some (lexeme :: others) := by
  rw [lexemes, unblanked]
  cases source with
  | nil => exact absurd rfl some
  | cons first behind =>
    dsimp only
    rw [read]
    dsimp only
    rw [if_pos shorter, later]
    rfl

/-- The lexemes of the source that starts with a word. -/
theorem lexemes_word {word : String} {rest : List Char} {others : List Lexeme}
    (isWord : IsWord word) (ends : EndsWord rest) (later : lexemes rest = some others) :
    lexemes (word.toList ++ rest) = some (.tokens [.word word] :: others) := by
  obtain ⟨first, behind, chars, starts⟩ := isWord.exists_first
  have read := readLexeme_word isWord ends
  rw [chars, List.cons_append] at read ⊢
  have shorter : rest.length < (first :: (behind ++ rest)).length := by
    rw [List.length_cons, List.length_append]
    omega
  apply lexemes_cons (List.cons_ne_nil _ _) _ read shorter later
  exact skipBlanks_eq_self (ne_of_startsWord starts (by decide)) (isSourceBlank_eq_false starts)

/-- The lexemes of a source that starts with a colon. -/
theorem lexemes_colon {rest : List Char} {others : List Lexeme}
    (later : lexemes rest = some others) :
    lexemes (':' :: rest) =
      some (.tokens [.mark ':' (readMarkChar rest).isSome] :: others) :=
  lexemes_cons (by simp) (skipBlanks_eq_self (by decide) (by decide)) (readLexeme_colon rest)
    (by simp) later

/-- The lexemes of trees that are neither nested nor bracketed. -/
def lexemesOf (trees : Tokens) : List Lexeme :=
  trees.map fun tree => .tokens [tree]

/-- The lexemes of some trees are nested into these trees. -/
theorem nest_lexemesOf (done trees : Tokens) :
    nest done [] (lexemesOf trees) = some (done.reverse ++ trees) := by
  induction trees generalizing done with
  | nil => simp [lexemesOf, nest]
  | cons tree rest ih =>
    rw [lexemesOf, List.map_cons, nest, ← lexemesOf, ih]
    simp

/-- A path behind its first word is read as it is written. -/
theorem lexemes_trailChars {words : List String} (areWords : ∀ word ∈ words, IsWord word) :
    lexemes (trailChars words) = some (lexemesOf (trailTrees words)) := by
  induction words with
  | nil => rw [trailChars, List.flatMap_nil, lexemes, skipBlanks]; rfl
  | cons word rest ih =>
    have isWord := areWords word List.mem_cons_self
    have later := ih fun word mem => areWords word (List.mem_cons_of_mem _ mem)
    have read := lexemes_colon (lexemes_colon (lexemes_word isWord (endsWord_trailChars rest) later))
    obtain ⟨first, behind, chars, starts⟩ := isWord.exists_first
    -- The second colon is not joined to the word, as the first one is to the second.
    have last : readMarkChar (word.toList ++ trailChars rest) = none := by
      rw [chars]
      exact readMarkChar_eq_none starts
    have joined : (readMarkChar (':' :: (word.toList ++ trailChars rest))).isSome = true := rfl
    rw [last, joined] at read
    rw [trailChars, List.flatMap_cons, ← trailChars]
    exact read

/-- A path is read as it is written. -/
theorem tokenize?_pathText {first : String} {others : List String}
    (areWords : ∀ word ∈ first :: others, IsWord word) :
    tokenize? (pathText (first :: others)).toList =
      some (.word first :: trailTrees others) := by
  have isWord := areWords first List.mem_cons_self
  have trail := lexemes_trailChars fun word mem => areWords word (List.mem_cons_of_mem _ mem)
  have read := lexemes_word isWord (endsWord_trailChars others) trail
  obtain ⟨start, behind, chars, starts⟩ := isWord.exists_first
  have unmarked : afterMark (first.toList ++ trailChars others) =
      first.toList ++ trailChars others := by
    rw [chars]
    unfold afterMark
    split
    next same =>
      exact absurd (List.cons.inj same).1 (ne_of_startsWord starts not_startsWord_hidden.2.2)
    next => rfl
  rw [toList_pathText, tokenize?, unmarked, read]
  exact nest_lexemesOf [] (.word first :: trailTrees others)

end ResourceAccessors.Syntax
