import Mathlib.Data.List.Basic
import ResourceAccessors.Proofs.Syntax.Names
import ResourceAccessors.Proofs.Syntax.Reading

/-!
# Paths are parsed as they are written

A path of words is parsed exactly when each word can be a segment, and its segments are then the words.
-/

namespace ResourceAccessors.Syntax

open ResourceAccessors.Syntax.Parser

/-- The words of the language that can be segments of a path. -/
def segmentKeywords : List String :=
  ["super", "self", "crate", "try", "Self"]

/-- Whether a word can be a segment of a path: an identifier or one of a few words of the language. -/
def IsSegment (word : String) : Prop :=
  word ∉ keywords ∨ word ∈ segmentKeywords

instance (word : String) : Decidable (IsSegment word) :=
  inferInstanceAs (Decidable (_ ∨ _))

/-- A word that can name something: an identifier that is no word of the language. -/
structure IsName (name : String) : Prop where
  word : IsWord name
  free : name ∉ keywords

/-- The word `crate` is one for a parser. -/
theorem isWord_crate : IsWord "crate" :=
  .plain (by decide)

/-- A name is a segment of a path. -/
theorem IsName.isSegment {name : String} (isName : IsName name) : IsSegment name :=
  .inl isName.free

namespace Parser

variable {α : Type}

/-- Returning a value leaves the cursor. -/
theorem run_pure (value : α) (cursor : Cursor) :
    (pure value : Parser α).run cursor = some (value, cursor) := rfl

/-- Looking ahead leaves the cursor. -/
theorem run_sees (test : Lookahead) (cursor : Cursor) :
    (sees test).run cursor = some (test cursor.rest, cursor) := rfl

/-- A requirement leaves the cursor where it is met, and fails elsewhere. -/
theorem run_require (test : Lookahead) (cursor : Cursor) :
    (require test).run cursor = if test cursor.rest then some ((), cursor) else none := by
  simp only [require, run_bind]
  show (if test cursor.rest then (pure () : Parser Unit) else failure).run cursor = _
  split <;> rfl

/-- A word is taken where one stands. -/
theorem run_anyWord (word : String) (rest printed : Tokens) :
    anyWord.run ⟨.word word :: rest, printed⟩ = some (word, ⟨rest, .word word :: printed⟩) := rfl

end Parser

/-- A segment is a word that may be one in every path, the word for a type itself, or an identifier. -/
theorem isSegment_iff {word : String} (rest : Tokens) :
    IsSegment word ↔ Grammar.isBareSegment (.word word :: rest) = true ∨
      isWord "Self" (.word word :: rest) = true ∨ isIdentifier (.word word :: rest) = true := by
  simp only [IsSegment, segmentKeywords, Grammar.isBareSegment, isWord, isIdentifier, List.any_cons,
    List.any_nil, Bool.or_false, Bool.or_eq_true, beq_iff_eq, Bool.not_eq_true', List.mem_cons,
    List.not_mem_nil, or_false, List.contains_eq_mem, decide_eq_false_iff_not]
  grind

/-- A word that can be a segment is parsed as one. -/
theorem run_segment (g : Grammar) {word : String} (segment : IsSegment word) {rest : Tokens}
    (plain : Grammar.isAngled false rest = false) (printed : Tokens) :
    (g.segment false).run ⟨.word word :: rest, printed⟩ =
      some (⟨word, .none⟩, ⟨rest, .word word :: printed⟩) := by
  by_cases bare : Grammar.isBareSegment (.word word :: rest) = true
  · simp [Grammar.segment, run_bind, run_sees, bare, run_anyWord, run_pure]
  · by_cases self : isWord "Self" (.word word :: rest) = true
    · simp [Grammar.segment, run_bind, run_sees, bare, self, run_anyWord, run_pure, plain]
    · have identifier : isIdentifier (.word word :: rest) = true := by
        simpa [bare, self] using (isSegment_iff rest).1 segment
      simp [Grammar.segment, run_bind, run_sees, bare, self, run_anyWord, run_pure, plain,
        Parser.identifier, run_require, identifier]

/-- A word that cannot be a segment is not parsed. -/
theorem run_segment_eq_none (g : Grammar) {word : String} (segment : ¬ IsSegment word)
    (rest printed : Tokens) :
    (g.segment false).run ⟨.word word :: rest, printed⟩ = none := by
  rw [isSegment_iff rest, not_or, not_or] at segment
  obtain ⟨bare, self, identifier⟩ := segment
  simp [Grammar.segment, run_bind, run_sees, bare, self, Parser.identifier, run_require, identifier]

/-- No arguments stand where a path of words goes on or ends. -/
theorem isAngled_trailTrees (words : List String) :
    Grammar.isAngled false (trailTrees words) = false := by
  cases words <;> rfl

/-- A segment without arguments. -/
def plainSegments (words : List String) : List Segment :=
  words.map (⟨·, .none⟩)

/-- The segment behind a double colon. -/
def nextSegment (g : Grammar) : Parser Segment := do
  sign "::"
  g.segment false

/-- The step with which a path goes on or ends. -/
def pathStep (g : Grammar) : Parser (Option Segment) := do
  if ← sees fun trees => isSign "::" trees && !third (isGroup .parenthesis) trees then
    return some (← nextSegment g)
  else return none

/-- A path is an optional sign in front, a first segment, and further ones. -/
theorem path_eq (g : Grammar) : g.path false = (do
    let isGlobal ← sign? "::"
    let first ← g.segment false
    let others ← repeated (pathStep g)
    return ⟨false, isGlobal, first :: others⟩) := rfl

/-- The two colons are taken where they stand together. -/
theorem run_sign_colons (last : Bool) (rest printed : Tokens) :
    (sign "::").run ⟨.mark ':' true :: .mark ':' last :: rest, printed⟩ =
      some ((), ⟨rest, (signTrees "::".toList).reverse ++ printed⟩) := rfl

/-- A path goes on with a word that can be a segment, and fails at another one. -/
theorem run_pathStep (g : Grammar) (word : String) (words : List String) (printed : Tokens) :
    (pathStep g).run ⟨trailTrees (word :: words), printed⟩ =
      if IsSegment word then
        some (some ⟨word, .none⟩, ⟨trailTrees words, (trailTrees [word]).reverse ++ printed⟩)
      else none := by
  have goesOn : (isSign "::" (trailTrees (word :: words)) &&
      !third (isGroup .parenthesis) (trailTrees (word :: words))) = true := rfl
  have trees : trailTrees (word :: words) =
      .mark ':' true :: .mark ':' false :: .word word :: trailTrees words := rfl
  rw [pathStep, run_bind, run_sees, Option.bind_some]
  dsimp only
  rw [goesOn, if_pos rfl, trees, run_bind, nextSegment, run_bind, run_sign_colons, Option.bind_some]
  dsimp only
  split
  next segment =>
    rw [run_segment g segment (isAngled_trailTrees words)]
    rfl
  next noSegment =>
    rw [run_segment_eq_none g noSegment]
    rfl

/-- A path ends with its last tree. -/
theorem run_pathStep_nil (g : Grammar) (printed : Tokens) :
    (pathStep g).run ⟨[], printed⟩ = some (none, ⟨[], printed⟩) := rfl

/-- The words behind the first one are all parsed, or there is one among them that cannot be a segment. -/
theorem run_repeatUpTo_pathStep (g : Grammar) {words : List String} {fuel : Nat}
    (enough : words.length < fuel) (printed : Tokens) :
    (repeatUpTo (pathStep g) fuel).run ⟨trailTrees words, printed⟩ =
      if ∀ word ∈ words, IsSegment word then
        some (plainSegments words, ⟨[], (trailTrees words).reverse ++ printed⟩)
      else none := by
  induction words generalizing fuel printed with
  | nil =>
    obtain ⟨fuel, rfl⟩ := Nat.exists_eq_succ_of_ne_zero (Nat.ne_zero_of_lt enough)
    rw [repeatUpTo, run_bind, trailTrees, List.flatMap_nil, run_pathStep_nil]
    rfl
  | cons word rest ih =>
    obtain ⟨fuel, rfl⟩ := Nat.exists_eq_succ_of_ne_zero (Nat.ne_zero_of_lt enough)
    have enough : rest.length < fuel := by simpa using enough
    rw [repeatUpTo, run_bind, run_pathStep]
    by_cases segment : IsSegment word
    · rw [if_pos segment, Option.bind_some]
      dsimp only
      rw [run_bind, ih enough]
      by_cases later : ∀ word ∈ rest, IsSegment word
      · rw [if_pos later, if_pos (by simpa [segment] using later)]
        simp [plainSegments, trailTrees, run_pure]
      · rw [if_neg later, if_neg fun all => later fun word mem => all word (.tail _ mem)]
        rfl
    · rw [if_neg segment, if_neg fun all => segment (all word (.head _))]
      rfl

/-- Two marks and a word stand in a path for each word behind the first one. -/
theorem length_trailTrees (words : List String) : (trailTrees words).length = 3 * words.length := by
  induction words with
  | nil => rfl
  | cons word rest ih =>
    rw [trailTrees, List.flatMap_cons, ← trailTrees, List.length_append, ih, List.length_cons]
    simp only [List.length_cons, List.length_nil]
    omega

/-- A path of words is parsed exactly when all of them can be segments. -/
theorem pathOf?_pathText {first : String} {others : List String}
    (areWords : ∀ word ∈ first :: others, IsWord word) :
    pathOf? (pathText (first :: others)) =
      if ∀ word ∈ first :: others, IsSegment word then
        some ⟨false, false, plainSegments (first :: others)⟩
      else none := by
  have notGlobal (trees : Tokens) (printed : Tokens) :
      (sign? "::").run ⟨.word first :: trees, printed⟩ =
        some (false, ⟨.word first :: trees, printed⟩) := rfl
  have enough : others.length < (trailTrees others).length + 1 := by
    rw [length_trailTrees]
    omega
  rw [pathOf?, tokenize?_pathText areWords]
  simp only [Option.bind_eq_bind, Option.bind_some]
  rw [runAll, path_eq, run_bind, notGlobal, Option.bind_some]
  dsimp only
  rw [run_bind]
  by_cases segment : IsSegment first
  · rw [run_segment _ segment (isAngled_trailTrees others), Option.bind_some]
    dsimp only
    rw [run_bind, repeated, run_bind]
    simp only [ahead, Option.bind_some]
    rw [run_repeatUpTo_pathStep _ enough]
    by_cases later : ∀ word ∈ others, IsSegment word
    · rw [if_pos later, if_pos (by simpa [segment] using later)]
      rfl
    · rw [if_neg later, if_neg fun all => later fun word mem => all word (.tail _ mem)]
      rfl
  · rw [run_segment_eq_none _ segment, if_neg fun all => segment (all first (.head _))]
    rfl

/-- Different words give different segments. -/
theorem plainSegments_injective : Function.Injective plainSegments :=
  List.map_injective_iff.2 fun _ _ same => congrArg Segment.name same

/-- What a path of words is parsed as are its words, all of which can be segments. -/
theorem pathOf?_pathText_eq_some_iff {first : String} {others words : List String}
    (areWords : ∀ word ∈ first :: others, IsWord word) :
    pathOf? (pathText (first :: others)) = some ⟨false, false, plainSegments words⟩ ↔
      words = first :: others ∧ ∀ word ∈ words, IsSegment word := by
  rw [pathOf?_pathText areWords]
  constructor
  · intro parsed
    split at parsed
    next segments =>
      have same := plainSegments_injective (CodePath.mk.inj (Option.some.inj parsed)).2.2
      exact ⟨same.symm, same ▸ segments⟩
    next => cases parsed
  · rintro ⟨rfl, segments⟩
    rw [if_pos segments]

/-! ### Blanks -/

/-- A text without blanks is not changed when blanks are taken from its ends. -/
theorem trim_eq_self {text : String} (solid : ∀ c ∈ text.toList, Text.isBlank c = false) :
    Text.trim text = text := by
  have kept : ∀ {chars : List Char}, (∀ c ∈ chars, Text.isBlank c = false) →
      chars.dropWhile Text.isBlank = chars := by
    intro chars solid
    cases chars with
    | nil => rfl
    | cons first rest => exact List.dropWhile_cons_of_neg (by simp [solid first])
  rw [Text.trim, kept solid, Text.trimEnd, kept (by simpa using solid)]
  simp

/-- A word holds no blank. -/
theorem IsWord.solid {word : String} (isWord : IsWord word) :
    ∀ c ∈ word.toList, Text.isBlank c = false := by
  cases isWord with
  | plain letters =>
    exact fun c mem => isBlank_eq_false_of_continues (continues_of_isIdentifier letters c mem)
  | raw letters =>
    have sign : "r#".toList.all (!Text.isBlank ·) = true := by decide
    intro c mem
    rw [String.toList_append] at mem
    rcases List.mem_append.1 mem with front | inside
    · simpa using List.all_eq_true.1 sign c front
    · exact isBlank_eq_false_of_continues (continues_of_isIdentifier letters c inside)

/-- There is no blank around a path of words. -/
theorem trim_pathText {first : String} {others : List String}
    (areWords : ∀ word ∈ first :: others, IsWord word) :
    Text.trim (pathText (first :: others)) = pathText (first :: others) := by
  apply trim_eq_self
  intro c mem
  rw [toList_pathText, List.mem_append, trailChars, List.mem_flatMap] at mem
  rcases mem with start | ⟨word, among, inside⟩
  · exact (areWords first List.mem_cons_self).solid c start
  · rcases List.mem_cons.1 inside with rfl | inside
    · decide
    rcases List.mem_cons.1 inside with rfl | inside
    · decide
    exact (areWords word (List.mem_cons_of_mem _ among)).solid c inside

end ResourceAccessors.Syntax
