import ResourceAccessors.Proofs.Syntax.PathText

/-!
# Visibilities are kept as they are written

A visibility that names a module is kept as its text. What is kept is one of the forms in which a visibility can be
written, and a path in it is printed word by word, as it was parsed.
-/

namespace ResourceAccessors.Syntax

open ResourceAccessors.Syntax.Parser

/-! ### Written forms -/

/-- The trees of a path without arguments. -/
def PlainPath.trees (path : PlainPath) : Tokens :=
  (if path.isGlobal then signTrees "::".toList else []) ++
    match path.segments with
    | [] => []
    | first :: others => .word first :: trailTrees others

/-- The forms in which a visibility is written. -/
inductive WrittenVisibility
  /-- No keyword. -/
  | inherited
  /-- `pub` -/
  | everywhere
  /-- `pub(crate)` -/
  | inCrate
  /-- `pub(self)` -/
  | inSelf
  /-- `pub(super)` -/
  | inSuper
  /-- `pub(in path)` -/
  | inPath (path : PlainPath)
  deriving DecidableEq

namespace WrittenVisibility

/-- The text of a visibility that names a module, by the trees between its parentheses. -/
def restrictedText (inside : Tokens) : String :=
  Tokens.print [.word "pub", .group .parenthesis inside]

/-- The visibility that is kept for a written one. -/
def stored : WrittenVisibility → Declaration.Visibility
  | .inherited => .inherited
  | .everywhere => .everywhere
  | .inCrate => .crate
  | .inSelf => .restricted (restrictedText [.word "self"])
  | .inSuper => .restricted (restrictedText [.word "super"])
  | .inPath path => .restricted (restrictedText (.word "in" :: path.trees))

/-- Whether a module is named, by a word or by a path behind `in`. -/
def namesModule : WrittenVisibility → Bool
  | .inSelf | .inSuper | .inPath _ => true
  | _ => false

end WrittenVisibility

/-! ### How parsers print -/

namespace Parser

variable {α β : Type}

/-- Whenever a parser succeeds, its result and what it notes belong together. -/
structure Prints (shown : α → Tokens → Prop) (parser : Parser α) : Prop where
  holds : ∀ {cursor value after}, parser.run cursor = some (value, after) →
    ∃ trees, after.printed = trees.reverse ++ cursor.printed ∧ shown value trees

/-- Returning a value takes no tokens. -/
theorem prints_pure {shown : α → Tokens → Prop} {value : α} (right : shown value []) :
    Prints shown (pure value : Parser α) := by
  constructor
  intro cursor found after parsed
  cases parsed
  exact ⟨[], rfl, right⟩

/-- A parser that fails takes no tokens. -/
theorem prints_failure {shown : α → Tokens → Prop} : Prints shown (failure : Parser α) := by
  constructor
  intro cursor value after absurd
  cases absurd

/-- What two parsers note stands one behind the other. -/
theorem Prints.bind {first : Parser α} {next : α → Parser β} {early : α → Tokens → Prop}
    {shown : β → Tokens → Prop} (firstPrints : first.Prints early)
    (nextPrints : ∀ value front, early value front →
      (next value).Prints fun result behind => shown result (front ++ behind)) :
    Prints shown (first >>= next) := by
  constructor
  intro cursor value after parsed
  rw [run_bind] at parsed
  obtain ⟨⟨found, middle⟩, firstParsed, parsed⟩ := Option.bind_eq_some_iff.1 parsed
  obtain ⟨front, noted, isEarly⟩ := firstPrints.holds firstParsed
  obtain ⟨behind, notedBehind, right⟩ := (nextPrints found front isEarly).holds parsed
  exact ⟨front ++ behind, by rw [notedBehind, noted, List.reverse_append, List.append_assoc], right⟩

/-- What is said of the taken tokens can be said more weakly. -/
theorem Prints.imp {parser : Parser α} {shown other : α → Tokens → Prop} (prints : parser.Prints shown)
    (weaker : ∀ value trees, shown value trees → other value trees) : parser.Prints other := by
  constructor
  intro cursor value after parsed
  obtain ⟨trees, noted, right⟩ := prints.holds parsed
  exact ⟨trees, noted, weaker _ _ right⟩

/-- A choice takes what the chosen parser takes. -/
theorem prints_ite {condition : Prop} [Decidable condition] {one other : Parser α}
    {shown : α → Tokens → Prop} (onePrints : condition → one.Prints shown)
    (otherPrints : ¬ condition → other.Prints shown) :
    Prints shown (if condition then one else other) := by
  split
  next holds => exact onePrints holds
  next fails => exact otherPrints fails

/-- A look at the trees that are left notes nothing. -/
theorem prints_sees (test : Lookahead) : (sees test).Prints fun _ trees => trees = [] := by
  constructor
  intro cursor value after parsed
  rw [run_sees] at parsed
  cases parsed
  exact ⟨[], rfl, rfl⟩

/-- A requirement takes no tokens. -/
theorem prints_require (test : Lookahead) : (require test).Prints fun _ trees => trees = [] := by
  constructor
  intro cursor value after parsed
  rw [run_require] at parsed
  split at parsed
  next =>
    cases parsed
    exact ⟨[], rfl, rfl⟩
  next => cases parsed

/-- Taking a token tree takes this one. -/
theorem prints_takeTree : takeTree.Prints fun tree trees => trees = [tree] := by
  constructor
  intro cursor tree after parsed
  obtain ⟨rest, printed⟩ := cursor
  cases rest with
  | nil => cases parsed
  | cons next others =>
    cases parsed
    exact ⟨[tree], rfl, rfl⟩

/-- Taking a word takes its token. -/
theorem prints_anyWord : anyWord.Prints fun word trees => trees = [.word word] := by
  apply prints_takeTree.bind
  rintro tree _ rfl
  split
  next => exact prints_pure rfl
  next => exact prints_failure

/-- A word that is asked for prints as itself. -/
theorem prints_word (text : String) : (word text).Prints fun _ trees => trees = [.word text] := by
  constructor
  rintro ⟨rest, printed⟩ value after parsed
  rw [word, run_bind, run_require] at parsed
  split at parsed
  next isText =>
    cases rest with
    | nil => cases isText
    | cons tree others =>
      cases tree with
      | word found =>
        cases eq_of_beq isText
        cases parsed
        exact ⟨[.word text], rfl, rfl⟩
      | mark => cases isText
      | literal => cases isText
      | group => cases isText
  next => cases parsed

/-- A sign takes its tokens. -/
theorem prints_sign (text : String) : (sign text).Prints fun _ trees => trees = signTrees text.toList := by
  constructor
  intro cursor value after parsed
  rw [sign, signAs, run_bind] at parsed
  obtain ⟨⟨_, middle⟩, taken, parsed⟩ := Option.bind_eq_some_iff.1 parsed
  obtain ⟨rest, -, same⟩ := Option.map_eq_some_iff.1 taken
  cases same
  cases parsed
  exact ⟨_, rfl, rfl⟩

/-- An optional sign takes its tokens where it stands. -/
theorem prints_sign? (text : String) : (sign? text).Prints fun taken trees =>
    trees = if taken then signTrees text.toList else [] := by
  apply (prints_sees _).bind
  rintro comes _ rfl
  apply prints_ite
  · intro
    apply (prints_sign text).bind
    rintro _ _ rfl
    exact prints_pure (by simp)
  · intro
    exact prints_pure rfl

/-- Repeated steps print one behind the other. -/
theorem prints_repeatUpTo (step : Parser (Option α)) {printed : α → Tokens}
    (prints : step.Prints fun result trees => trees = (result.map printed).getD []) (fuel : Nat) :
    (repeatUpTo step fuel).Prints fun results trees => trees = results.flatMap printed := by
  induction fuel with
  | zero => exact prints_failure
  | succ fuel ih =>
    apply prints.bind
    rintro result _ rfl
    cases result with
    | none => exact prints_pure rfl
    | some first =>
      apply ih.bind
      rintro others _ rfl
      exact prints_pure (by simp)

/-- Items that stand behind a sign print one behind the other. -/
theorem prints_whileSees {item : Parser α} {printed : α → Tokens}
    (prints : item.Prints fun value trees => trees = printed value) (test : Lookahead) :
    (whileSees test item).Prints fun values trees => trees = values.flatMap printed := by
  constructor
  intro cursor values after parsed
  refine (prints_repeatUpTo (do if ← sees test then return some (← item) else return none)
    ?_ (cursor.rest.length + 1)).holds parsed
  apply (prints_sees _).bind
  rintro comes _ rfl
  apply prints_ite
  · intro
    apply prints.bind
    rintro value _ rfl
    exact prints_pure (by simp)
  · intro
    exact prints_pure rfl

/-- What the inside of a group prints stands between the brackets. -/
theorem Prints.inside {content : Parser α} {shown : α → Tokens → Prop} (prints : content.Prints shown)
    (delimiter : Delimiter) : (inside delimiter content).Prints fun value trees =>
      ∃ within, shown value within ∧ trees = [.group delimiter within] := by
  constructor
  rintro ⟨rest, printed⟩ value after parsed
  rw [Parser.inside, run_bind] at parsed
  obtain ⟨⟨tree, middle⟩, taken, parsed⟩ := Option.bind_eq_some_iff.1 parsed
  have untouched : middle.printed = printed := by
    cases rest with
    | nil => cases taken
    | cons =>
      cases taken
      rfl
  dsimp only at parsed
  split at parsed
  next found trees =>
    split at parsed
    · split at parsed
      next result cursor ran =>
        split at parsed
        · obtain ⟨within, noted, right⟩ := prints.holds ran
          rw [List.append_nil] at noted
          cases parsed
          refine ⟨[.group delimiter within], ?_, within, right, rfl⟩
          simp [noted, untouched]
        · cases parsed
      next => cases parsed
    · cases parsed
  next => cases parsed

/-- What a parser notes is given with its result, and not noted again. -/
theorem Prints.captured {parser : Parser α} {shown : α → Tokens → Prop} (prints : parser.Prints shown) :
    (captured parser).Prints fun result trees => shown result.1 result.2 ∧ trees = [] := by
  constructor
  rintro cursor value after parsed
  obtain ⟨⟨result, behind⟩, ran, same⟩ := Option.map_eq_some_iff.1 parsed
  obtain ⟨trees, noted, right⟩ := prints.holds ran
  cases same
  refine ⟨[], rfl, ?_, rfl⟩
  simpa [noted] using right

end Parser

/-! ### Paths and visibilities -/

/-- A plain segment takes the token of its word. -/
theorem prints_plainSegment : plainSegment.Prints fun word trees => trees = [.word word] := by
  apply (prints_require _).bind
  rintro _ _ rfl
  exact prints_anyWord

/-- A path without arguments prints word by word. -/
theorem prints_plainPath : plainPath.Prints fun path trees => trees = path.trees := by
  have next : Parser.Prints (fun word trees => trees = [.mark ':' true, .mark ':' false, .word word]) (do
      sign "::"
      plainSegment) := by
    apply (prints_sign "::").bind
    rintro _ _ rfl
    apply prints_plainSegment.imp
    rintro word _ rfl
    rfl
  apply (prints_sign? "::").bind
  rintro isGlobal _ rfl
  apply prints_plainSegment.bind
  rintro first _ rfl
  apply (prints_whileSees next _).bind
  rintro others _ rfl
  apply prints_pure
  simp [PlainPath.trees, trailTrees]

namespace Grammar

/-- A visibility that is restricted to a word is so to one of three. -/
theorem exists_of_isRestrictedToWord {trees : Tokens} (restricted : isRestrictedToWord trees = true) :
    ∃ text ∈ ["crate", "self", "super"], ∃ rest, trees = .group .parenthesis [.word text] :: rest := by
  unfold isRestrictedToWord at restricted
  split at restricted
  next text rest => exact ⟨text, by simpa using restricted, rest, rfl⟩
  next => cases restricted

/-- A word in parentheses is taken with the group around it. -/
theorem run_captured_word (text : String) (rest printed : Tokens) :
    (captured (inside .parenthesis anyWord)).run ⟨.group .parenthesis [.word text] :: rest, printed⟩ =
      some ((text, [.group .parenthesis [.word text]]), ⟨rest, printed⟩) := rfl

/-- What a visibility restricted to a path prints. -/
theorem prints_restrictedPath : Parser.Prints (fun _ trees => ∃ path : PlainPath,
    trees = [.group .parenthesis (.word "in" :: path.trees)]) (inside .parenthesis do
      word "in"
      plainPath) := by
  have within : Parser.Prints (fun path trees => trees = .word "in" :: path.trees) (do
      word "in"
      plainPath) := by
    apply (prints_word "in").bind
    rintro _ _ rfl
    apply prints_plainPath.imp
    rintro path _ rfl
    rfl
  apply (within.inside .parenthesis).imp
  rintro path _ ⟨_, rfl, rfl⟩
  exact ⟨path, rfl⟩

/-- A visibility is kept in the form in which it is written. -/
theorem gives_visibility : visibility.Gives fun visible => ∃ written : WrittenVisibility,
    visible = written.stored := by
  constructor
  intro cursor visible after _ parsed
  rw [visibility, run_bind, run_sees, Option.bind_some] at parsed
  dsimp only at parsed
  split at parsed
  next =>
    rw [run_bind] at parsed
    obtain ⟨⟨⟨_, keyword⟩, behind⟩, taken, parsed⟩ := Option.bind_eq_some_iff.1 parsed
    obtain ⟨-, -, isPub, -⟩ := (prints_word "pub").captured.holds taken
    dsimp only at isPub parsed
    subst isPub
    rw [run_bind] at parsed
    obtain ⟨⟨_, middle⟩, -, parsed⟩ := Option.bind_eq_some_iff.1 parsed
    rw [run_bind, run_sees, Option.bind_some] at parsed
    dsimp only at parsed
    split at parsed
    next restricted =>
      obtain ⟨text, among, rest, trees⟩ := exists_of_isRestrictedToWord restricted
      obtain ⟨_, printed⟩ := middle
      cases trees
      rw [run_bind, run_captured_word, Option.bind_some] at parsed
      cases parsed
      simp only [List.mem_cons, List.not_mem_nil, or_false] at among
      rcases among with rfl | rfl | rfl
      · exact ⟨.inCrate, rfl⟩
      · exact ⟨.inSelf, rfl⟩
      · exact ⟨.inSuper, rfl⟩
    next =>
      rw [run_bind, run_sees, Option.bind_some] at parsed
      dsimp only at parsed
      split at parsed
      next =>
        rw [run_bind] at parsed
        obtain ⟨⟨⟨_, group⟩, within⟩, taken, parsed⟩ := Option.bind_eq_some_iff.1 parsed
        obtain ⟨-, -, ⟨path, shown⟩, -⟩ := prints_restrictedPath.captured.holds taken
        dsimp only at shown
        subst shown
        cases parsed
        exact ⟨.inPath path, rfl⟩
      next =>
        cases parsed
        exact ⟨.everywhere, rfl⟩
  next =>
    cases parsed
    exact ⟨.inherited, rfl⟩

end Grammar

end ResourceAccessors.Syntax
