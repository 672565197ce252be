import ResourceAccessors.Proofs.Accessor.Name
import ResourceAccessors.Proofs.FilePath.Bytes
import ResourceAccessors.Syntax.Lexer

/-!
# The words of a source

Every word in a source is spelled as an identifier, with the sign of a raw one in front or without. No
slash and no NUL starts or continues a word, so what is named by words can stand as one name in a path.
-/

namespace ResourceAccessors.Syntax

open Accessor (IsIdentifier)

/-- A text that stands in a path as one name and is read there as it is. -/
structure Plain (text : String) : Prop where
  noSlash : '/' ∉ text.toList
  unmarked : FilePath.Unmarked text.toList

instance (text : String) : Decidable (Plain text) :=
  decidable_of_iff ('/' ∉ text.toList ∧ text.toList.IsChain
      fun first second => FilePath.isMark first second = false)
    ⟨fun ⟨noSlash, unmarked⟩ => ⟨noSlash, unmarked⟩, fun ⟨noSlash, unmarked⟩ => ⟨noSlash, unmarked⟩⟩

/-- Plain texts make a plain text when a character that is part of no mark stands at the joint. -/
theorem Plain.append {left right : String} (leftPlain : Plain left) (rightPlain : Plain right)
    (joint : FilePath.EndsApart left.toList ∨ FilePath.StartsApart right.toList) :
    Plain (left ++ right) where
  noSlash := by
    rw [String.toList_append, List.mem_append]
    rintro (inLeft | inRight)
    · exact leftPlain.noSlash inLeft
    · exact rightPlain.noSlash inRight
  unmarked := by
    rw [String.toList_append]
    exact leftPlain.unmarked.append rightPlain.unmarked joint

/-- What is left of a plain text at its front or at its end is plain. -/
theorem Plain.of_infix {text part : String} (plain : Plain text)
    (inside : part.toList <:+: text.toList) : Plain part where
  noSlash mem := plain.noSlash (inside.subset mem)
  unmarked := plain.unmarked.infix inside

/-- The sign of a raw identifier is all that its name leaves out. -/
theorem Plain.unraw {text : String} (plain : Plain text) : Plain (unraw text) := by
  rw [Syntax.unraw]
  split
  next name chars =>
    apply plain.of_infix
    rw [String.toList_ofList, chars]
    exact (List.suffix_append ['r', '#'] name).isInfix
  next => exact plain

/-! ### Words -/

instance (chars : List Char) : Decidable (IsIdentifier chars) :=
  match chars with
  | [] => isFalse fun ⟨_, _, same, _⟩ => nomatch same
  | first :: others =>
    decidable_of_iff ((first = '_' ∨ Text.startsIdentifier first = true) ∧
        others.all Text.continuesIdentifier = true)
      ⟨fun ⟨starts, continues⟩ => ⟨first, others, rfl, starts, List.all_eq_true.1 continues⟩,
        fun ⟨_, _, same, starts, continues⟩ => by
          cases same
          exact ⟨starts, List.all_eq_true.2 continues⟩⟩

/-- A word of source code: an identifier or a word of the language, or behind the sign of a raw identifier
one that can be raw. -/
inductive IsWord : String → Prop
  | plain {text : String} (letters : IsIdentifier text.toList) : IsWord text
  | raw {name : String} (letters : IsIdentifier name.toList) (free : name ∉ neverRaw) :
      IsWord ("r#" ++ name)

/-- All characters of an identifier can stand inside one. -/
theorem continues_of_isIdentifier {letters : List Char} (identifier : IsIdentifier letters) :
    ∀ c ∈ letters, Text.continuesIdentifier c = true := by
  obtain ⟨first, others, rfl, starts, continues⟩ := identifier
  intro c mem
  rcases List.mem_cons.1 mem with rfl | later
  · rcases starts with rfl | starts
    · exact Accessor.continuesIdentifier_underscore
    · exact Text.continuesIdentifier_of_starts starts
  · exact continues c later

/-- Neither a slash nor a NUL continues an identifier. -/
theorem not_continuesIdentifier {c : Char} (mem : c ∈ ['/', '\x00']) :
    Text.continuesIdentifier c = false := by
  simp only [List.mem_cons, List.not_mem_nil, or_false] at mem
  rcases mem with rfl | rfl
  · decide
  · decide

/-- A word is plain. -/
theorem IsWord.isPlain {text : String} (word : IsWord text) : Plain text := by
  have lacks : ∀ {name : String}, IsIdentifier name.toList → ∀ c ∈ ['/', '\x00'],
      c ∉ name.toList := by
    intro name letters c other mem
    have continues := continues_of_isIdentifier letters c mem
    rw [not_continuesIdentifier other] at continues
    cases continues
  have plain : ∀ {name : String}, IsIdentifier name.toList → Plain name := fun letters =>
    ⟨lacks letters _ (by decide), FilePath.unmarked_of_nul_not_mem (lacks letters _ (by decide))⟩
  cases word with
  | plain letters => exact plain letters
  | raw letters => exact Plain.append (by decide) (plain letters) (.inl (by decide))

/-! ### Words of trees -/

mutual

/-- The words in a tree. -/
def TokenTree.words : TokenTree → List String
  | .word text => [text]
  | .mark _ _ => []
  | .literal _ _ => []
  | .group _ inside => TokenTree.wordsIn inside

/-- The words in a sequence of trees. -/
def TokenTree.wordsIn : List TokenTree → List String
  | [] => []
  | tree :: rest => tree.words ++ TokenTree.wordsIn rest

end

open TokenTree (wordsIn)

/-- The words in two groups of trees are those in both. -/
@[simp]
theorem wordsIn_append (left right : Tokens) :
    wordsIn (left ++ right) = wordsIn left ++ wordsIn right := by
  induction left with
  | nil => rfl
  | cons first rest ih => simp [wordsIn, ih]

/-- The words of a reversed sequence are those of the sequence. -/
theorem mem_wordsIn_reverse {trees : Tokens} {word : String} :
    word ∈ wordsIn trees.reverse ↔ word ∈ wordsIn trees := by
  induction trees with
  | nil => rfl
  | cons first rest ih =>
    rw [List.reverse_cons, wordsIn_append, List.mem_append, ih]
    simp [wordsIn, or_comm]

/-- All words in some trees are words of source code. -/
def WellSpelled (trees : Tokens) : Prop :=
  ∀ word ∈ wordsIn trees, IsWord word

/-- The trees of two groups are well spelled together when those of each are. -/
theorem WellSpelled.append {left right : Tokens} (leftSpelled : WellSpelled left)
    (rightSpelled : WellSpelled right) : WellSpelled (left ++ right) := by
  intro word mem
  rw [wordsIn_append, List.mem_append] at mem
  rcases mem with inLeft | inRight
  · exact leftSpelled word inLeft
  · exact rightSpelled word inRight

/-- Well-spelled trees are so in reverse order. -/
theorem WellSpelled.reverse {trees : Tokens} (spelled : WellSpelled trees) :
    WellSpelled trees.reverse :=
  fun word mem => spelled word (mem_wordsIn_reverse.1 mem)

/-- The first of some well-spelled trees is one. -/
theorem WellSpelled.head {tree : TokenTree} {rest : Tokens} (spelled : WellSpelled (tree :: rest)) :
    WellSpelled [tree] := by
  intro word mem
  apply spelled
  rw [wordsIn, wordsIn, List.append_nil] at mem
  exact List.mem_append_left _ mem

/-- The end of some trees has no other words. -/
theorem WellSpelled.of_suffix {trees rest : Tokens} (spelled : WellSpelled trees)
    (shorter : rest <:+ trees) : WellSpelled rest := by
  obtain ⟨front, rfl⟩ := shorter
  intro word mem
  apply spelled
  rw [wordsIn_append]
  exact List.mem_append_right _ mem

/-! ### Words of a source -/

/-- A character starts a word when it starts an identifier. -/
theorem startsWord_iff {c : Char} :
    startsWord c = true ↔ c = '_' ∨ Text.startsIdentifier c = true := by
  simp [startsWord]

/-- What is taken from a source as a word is its front and makes an identifier. -/
theorem exists_word_of_afterWord? {source rest : List Char}
    (found : afterWord? source = some rest) : ∃ word, source = word ++ rest ∧ IsIdentifier word := by
  cases source with
  | nil => cases found
  | cons first others =>
    rw [afterWord?] at found
    split at found
    next starts =>
      cases found
      refine ⟨first :: others.takeWhile Text.continuesIdentifier, ?_, ?_⟩
      · rw [List.cons_append, List.takeWhile_append_dropWhile]
      · exact ⟨first, _, rfl, startsWord_iff.1 starts, List.all_eq_true.1 List.all_takeWhile⟩
    next => cases found

/-- The text of what is taken from a source as a word makes an identifier. -/
theorem isIdentifier_of_afterWord? {source rest : List Char}
    (found : afterWord? source = some rest) :
    IsIdentifier (String.ofList (source.take (source.length - rest.length))).toList := by
  obtain ⟨word, rfl, identifier⟩ := exists_word_of_afterWord? found
  have taken : (word ++ rest).take ((word ++ rest).length - rest.length) = word := by simp
  rw [taken, String.toList_ofList]
  exact identifier

/-- What is read as a word is one. -/
theorem isWord_of_readAnyWord {source rest : List Char} {text : String}
    (found : readAnyWord source = some (text, rest)) : IsWord text := by
  unfold readAnyWord at found
  split at found
  next name =>
    obtain ⟨behind, after, found⟩ := Option.bind_eq_some_iff.1 found
    dsimp only at found
    split at found
    next => cases found
    next free =>
      cases found
      exact .raw (isIdentifier_of_afterWord? after) free
  next =>
    obtain ⟨behind, after, found⟩ := Option.bind_eq_some_iff.1 found
    cases found
    exact .plain (isIdentifier_of_afterWord? after)

/-- The trees of a lexeme, if it is no bracket. -/
def Lexeme.trees : Lexeme → Tokens
  | .tokens found => found
  | _ => []

/-- The one word of a comment is spelled as one. -/
theorem wellSpelled_of_readDocComment {source rest : List Char} {trees : Tokens}
    (found : readDocComment source = some (trees, rest)) : WellSpelled trees := by
  obtain ⟨⟨inner, comment, after⟩, -, made⟩ := Option.bind_eq_some_iff.1 found
  dsimp only at made
  split at made
  next =>
    cases made
    intro word mem
    have only : word = "doc" := by
      cases inner <;> simpa [commentAttribute, wordsIn, TokenTree.words] using mem
    rw [only]
    exact .plain ⟨'d', ['o', 'c'], rfl, .inr (by decide),
      List.all_eq_true.1 (by decide)⟩
  next => cases made

/-- A bracket has no trees. -/
theorem trees_of_readBracket {source rest : List Char} {lexeme : Lexeme}
    (found : readBracket source = some (lexeme, rest)) : lexeme.trees = [] := by
  unfold readBracket at found
  split at found
  all_goals first
    | cases found
      rfl
    | cases found

/-- The word of a leaf is spelled as one. -/
theorem wellSpelled_of_readLeaf {source rest : List Char} {leaf : TokenTree}
    (found : readLeaf source = some (leaf, rest)) : WellSpelled [leaf] := by
  rw [readLeaf, Option.or_eq_some_iff, Option.or_eq_some_iff] at found
  rcases found with literal | ⟨-, mark | ⟨-, word⟩⟩
  · obtain ⟨⟨kindOf, behind⟩, -, made⟩ := Option.bind_eq_some_iff.1 literal
    cases made
    intro word mem
    simp [wordsIn, TokenTree.words] at mem
  · obtain ⟨⟨c, behind⟩, -, made⟩ := Option.bind_eq_some_iff.1 mark
    have only : ∃ joint, leaf = .mark c joint := by
      dsimp only at made
      split at made
      next =>
        obtain ⟨after, -, made⟩ := Option.bind_eq_some_iff.1 made
        split at made
        next => cases made
        next =>
          cases made
          exact ⟨true, rfl⟩
      next =>
        cases made
        exact ⟨_, rfl⟩
    obtain ⟨joint, rfl⟩ := only
    intro word mem
    simp [wordsIn, TokenTree.words] at mem
  · obtain ⟨⟨text, behind⟩, read, same⟩ := Option.map_eq_some_iff.1 word
    cases same
    rw [readWord] at read
    split at read
    next => cases read
    next =>
      intro other mem
      have only : other = text := by simpa [wordsIn, TokenTree.words] using mem
      rw [only]
      exact isWord_of_readAnyWord read

/-- The words of a lexeme are spelled as words. -/
theorem wellSpelled_of_readLexeme {source rest : List Char} {lexeme : Lexeme}
    (found : readLexeme source = some (lexeme, rest)) : WellSpelled lexeme.trees := by
  rw [readLexeme] at found
  split at found
  next tokens behind documented =>
    cases found
    exact wellSpelled_of_readDocComment documented
  next =>
    split at found
    next =>
      cases found
      intro word mem
      simp [Lexeme.trees, wordsIn, TokenTree.words] at mem
    next =>
      split at found
      next bracket read =>
        cases found
        rw [trees_of_readBracket read]
        intro word mem
        cases mem
      next =>
        obtain ⟨⟨leaf, behind⟩, read, same⟩ := Option.map_eq_some_iff.1 found
        cases same
        exact wellSpelled_of_readLeaf read

/-- The words of all lexemes of a source are spelled as words. -/
theorem wellSpelled_of_lexemes {source : List Char} {found : List Lexeme}
    (cut : lexemes source = some found) : ∀ lexeme ∈ found, WellSpelled lexeme.trees := by
  fun_induction lexemes source generalizing found with
  | case1 =>
    cases cut
    intro lexeme mem
    cases mem
  | case2 => cases cut
  | case3 source lexeme rest shorter notEmpty read ih =>
    obtain ⟨others, lexed, rfl⟩ := Option.map_eq_some_iff.1 cut
    intro other mem
    rcases List.mem_cons.1 mem with rfl | later
    · exact wellSpelled_of_readLexeme read
    · exact ih lexed other later
  | case4 => cases cut

/-- The words of nested trees are those of the lexemes and of the groups around them. -/
theorem wellSpelled_of_nest {done : Tokens} {opened : List OpenGroup} {found : List Lexeme}
    {trees : Tokens} (nested : nest done opened found = some trees) (doneSpelled : WellSpelled done)
    (openedSpelled : ∀ group ∈ opened, WellSpelled group.before)
    (foundSpelled : ∀ lexeme ∈ found, WellSpelled lexeme.trees) : WellSpelled trees := by
  have later : ∀ {first : Lexeme} {rest : List Lexeme},
      (∀ lexeme ∈ first :: rest, WellSpelled lexeme.trees) →
        ∀ lexeme ∈ rest, WellSpelled lexeme.trees :=
    fun all lexeme mem => all lexeme (List.mem_cons_of_mem _ mem)
  fun_induction nest done opened found with
  | case1 done =>
    cases nested
    exact doneSpelled.reverse
  | case2 => cases nested
  | case3 done opened delimiter rest ih =>
    apply ih nested _ _ (later foundSpelled)
    · intro word mem
      cases mem
    · intro group mem
      rcases List.mem_cons.1 mem with rfl | outer
      · exact doneSpelled
      · exact openedSpelled group outer
  | case4 => cases nested
  | case5 done group opened rest ih =>
    apply ih nested _ _ (later foundSpelled)
    · intro word mem
      rw [wordsIn, List.mem_append] at mem
      rcases mem with inside | before
      · exact doneSpelled.reverse word inside
      · exact openedSpelled group List.mem_cons_self word before
    · intro other mem
      exact openedSpelled other (List.mem_cons_of_mem _ mem)
  | case6 => cases nested
  | case7 done opened trees rest ih =>
    apply ih nested _ openedSpelled (later foundSpelled)
    exact (foundSpelled (.tokens trees) List.mem_cons_self).reverse.append doneSpelled

/-- The words in a source are spelled as words. -/
theorem wellSpelled_of_tokenize? {source : List Char} {trees : Tokens}
    (found : tokenize? source = some trees) : WellSpelled trees := by
  obtain ⟨cut, lexed, nested⟩ := Option.bind_eq_some_iff.1 found
  apply wellSpelled_of_nest nested
  · intro word mem
    cases mem
  · intro group mem
    cases mem
  · exact wellSpelled_of_lexemes lexed

end ResourceAccessors.Syntax
