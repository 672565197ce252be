import ResourceAccessors.Proofs.Syntax.Words
import ResourceAccessors.Syntax.SourceFile

/-!
# Declared names are words

What a parser takes as the name of a type, a parameter or a module is a word of the source, at whatever
depth it stands. No parser leaves other words than it was given, so only the parsers that make a name
are looked at here.
-/

namespace ResourceAccessors.Syntax

open TokenTree (wordsIn)

namespace Parser

variable {α β : Type}

/-- A parser gives only results of one kind from the trees of a source. -/
structure Gives (kind : α → Prop) (parser : Parser α) : Prop where
  holds : ∀ {cursor value after}, WellSpelled cursor.rest →
    parser.run cursor = some (value, after) → kind value

/-! ### Combined parsers -/

/-- Nothing is required of what is given. -/
theorem gives_any (parser : Parser α) : parser.Gives fun _ => True :=
  ⟨fun _ _ => trivial⟩

/-- What is returned is what is given. -/
theorem gives_pure {kind : α → Prop} {value : α} (right : kind value) :
    Gives kind (pure value : Parser α) := by
  constructor
  intro cursor found after _ parsed
  cases parsed
  exact right

/-- A parser that fails gives nothing. -/
theorem gives_failure {kind : α → Prop} : Gives kind (failure : Parser α) := by
  constructor
  intro cursor value after _ absurd
  cases absurd

/-- The second parser reads on where the first one stopped. -/
theorem run_bind (first : Parser α) (next : α → Parser β) (cursor : Cursor) :
    (first >>= next).run cursor =
      (first.run cursor).bind fun found => (next found.1).run found.2 := by
  cases given : first.run cursor with
  | none => simp [Bind.bind, given]
  | some found => simp [Bind.bind, given]

/-- What the second parser gives is of one kind when it is for all that the first one gives. -/
theorem Gives.bind {first : Parser α} {next : α → Parser β} {early : α → Prop} {kind : β → Prop}
    (firstGives : first.Gives early) (nextGives : ∀ value, early value → (next value).Gives kind) :
    Gives kind (first >>= next) := by
  constructor
  intro cursor value after plain parsed
  rw [run_bind] at parsed
  obtain ⟨⟨middle, behind⟩, firstParsed, parsed⟩ := Option.bind_eq_some_iff.1 parsed
  have early := firstGives.holds plain firstParsed
  exact (nextGives middle early).holds (plain.of_suffix (first.shrinks firstParsed)) parsed

/-- The first of two parsers does not matter when the second one gives results of one kind. -/
theorem gives_bind {first : Parser α} {next : α → Parser β} {kind : β → Prop}
    (nextGives : ∀ value, (next value).Gives kind) : Gives kind (first >>= next) :=
  (gives_any first).bind fun value _ => nextGives value

/-- A choice gives what both of its parsers give. -/
theorem gives_ite {condition : Prop} [Decidable condition] {one other : Parser α}
    {kind : α → Prop} (oneGives : one.Gives kind) (otherGives : other.Gives kind) :
    Gives kind (if condition then one else other) := by
  split
  · exact oneGives
  · exact otherGives

/-- A parser that is made later gives the same. -/
theorem Gives.later {parser : Unit → Parser α} {kind : α → Prop} (gives : (parser ()).Gives kind) :
    (later parser).Gives kind :=
  ⟨gives.holds⟩

/-- What a parser gives is given with its tokens. -/
theorem Gives.captured {parser : Parser α} {kind : α → Prop} (gives : parser.Gives kind) :
    (captured parser).Gives fun result => kind result.1 := by
  constructor
  intro cursor value after plain parsed
  obtain ⟨⟨result, behind⟩, found, same⟩ := Option.map_eq_some_iff.1 parsed
  have untouched : WellSpelled (Cursor.mk cursor.rest []).rest := plain
  have right := gives.holds untouched found
  cases same
  exact right

/-- All results of a repeated step are of the kind of one result. -/
theorem Gives.repeatUpTo {step : Parser (Option α)} {kind : α → Prop}
    (gives : step.Gives fun result => ∀ value ∈ result, kind value) (fuel : Nat) :
    (repeatUpTo step fuel).Gives fun results => ∀ value ∈ results, kind value := by
  induction fuel with
  | zero => exact gives_failure
  | succ fuel ih =>
    apply gives.bind
    intro result right
    cases result with
    | none => exact gives_pure fun value mem => nomatch mem
    | some first =>
      apply ih.bind
      intro others rights
      apply gives_pure
      intro value mem
      rcases List.mem_cons.1 mem with rfl | later
      · exact right value rfl
      · exact rights value later

/-- Repeating a step gives what the step gives. -/
theorem Gives.repeated {step : Parser (Option α)} {kind : α → Prop}
    (gives : step.Gives fun result => ∀ value ∈ result, kind value) :
    (repeated step).Gives fun results => ∀ value ∈ results, kind value :=
  gives_bind fun _ => gives.repeatUpTo _

/-- Items up to the end are given as each of them is. -/
theorem Gives.toEnd {item : Parser α} {kind : α → Prop} (gives : item.Gives kind) :
    (toEnd item).Gives fun results => ∀ value ∈ results, kind value := by
  apply Gives.repeated
  apply gives_bind
  intro more
  apply gives_ite
  · apply gives.bind
    intro value right
    apply gives_pure
    rintro other ⟨⟩
    exact right
  · exact gives_pure fun value mem => nomatch mem

/-- The items of a list are of the kind of one item. -/
theorem Gives.listed {item : Parser α} {kind : α → Prop} (gives : item.Gives kind)
    (ends : Lookahead) : (listed ends item).Gives fun results =>
      ∀ value ∈ results, kind value.value := by
  apply Gives.repeated
  apply gives_bind
  intro ended
  apply gives_ite
  · exact gives_pure fun value mem => nomatch mem
  · apply gives.captured.bind
    rintro ⟨value, printed⟩ right
    apply gives_bind
    intro isLast
    have made : ∀ hasComma, (pure (some ⟨value, printed, hasComma⟩) :
        Parser (Option (Listed α))).Gives fun result => ∀ value ∈ result, kind value.value := by
      intro hasComma
      apply gives_pure
      rintro other ⟨⟩
      exact right
    apply gives_ite
    · exact gives_bind fun _ => made _
    · exact made _

/-! ### Words and groups -/

/-- A tree that is taken without being printed is well spelled. -/
theorem gives_takeSilently : takeSilently.Gives fun tree => WellSpelled [tree] := by
  constructor
  intro cursor value after plain parsed
  simp only [takeSilently] at parsed
  split at parsed
  next tree rest given =>
    rw [given] at plain
    cases parsed
    exact plain.head
  next => cases parsed

/-- A tree that is taken is well spelled. -/
theorem gives_takeTree : takeTree.Gives fun tree => WellSpelled [tree] := by
  apply gives_takeSilently.bind
  intro tree plain
  apply gives_bind
  intro _
  exact gives_pure plain

/-- A result of a parser for the inside of a group is of the kind of this parser. -/
theorem Gives.inside {content : Parser α} {kind : α → Prop} (gives : content.Gives kind)
    (delimiter : Delimiter) : (inside delimiter content).Gives kind := by
  apply gives_takeSilently.bind
  intro tree plain
  split
  next found trees =>
    have insidePlain : WellSpelled trees := by
      intro word mem
      exact plain word (List.mem_append_left _ mem)
    apply gives_ite
    · split
      next value cursor parsed =>
        apply gives_ite
        · apply gives_bind
          intro _
          exact gives_pure (gives.holds insidePlain parsed)
        · exact gives_failure
      next => exact gives_failure
    · exact gives_failure
  next => exact gives_failure

/-- Any word that is given is one. -/
theorem gives_anyWord : anyWord.Gives IsWord := by
  apply gives_takeTree.bind
  intro tree spelled
  split
  next text => exact gives_pure (spelled text List.mem_cons_self)
  next => exact gives_failure

/-- An identifier is a word. -/
theorem gives_identifier : identifier.Gives IsWord :=
  gives_bind fun _ => gives_anyWord

/-- A lifetime is shown plainly. -/
theorem gives_lifetime : lifetime.Gives Plain := by
  apply gives_bind
  intro required
  apply gives_bind
  intro quote
  apply gives_anyWord.bind
  intro name word
  exact gives_pure (Plain.append (by decide) word.isPlain (.inl (by decide)))

/-- A parser that takes all of some trees gives results of its kind. -/
theorem Gives.of_runAll {parser : Parser α} {kind : α → Prop} (gives : parser.Gives kind)
    {trees : Tokens} {value : α} (plain : WellSpelled trees)
    (parsed : runAll parser trees = some value) : kind value := by
  rw [runAll] at parsed
  split at parsed
  next found cursor ran =>
    split at parsed
    next =>
      cases parsed
      exact gives.holds plain ran
    next => cases parsed
  next => cases parsed

end Parser

/-! ### Parameters -/

/-- A parameter with a plain name. -/
def Parameter.NamedPlainly (parameter : Parameter) : Prop :=
  Plain parameter.name

/-- Parameters with plain names. -/
def Generics.NamedPlainly (generics : Generics) : Prop :=
  ∀ name ∈ generics.names, Plain name

/-- An item whose types and modules are named by words. -/
inductive Item.WellNamed : Item → Prop
  | container {declared : Container} (name : IsWord declared.name)
      (generics : declared.generics.NamedPlainly) : WellNamed (.container declared)
  | elsewhere {attributes : List Attribute} {name : String} :
      WellNamed (.module attributes name none)
  | inline {attributes : List Attribute} {name : String} {items : List Item}
      (word : IsWord name) (inside : ∀ item ∈ items, WellNamed item) :
      WellNamed (.module attributes name (some items))
  | other : WellNamed .other

/-- A kind that items are of when their types and modules are named by words and their types have a visibility of
some kind. -/
structure Item.Admits (visible : Declaration.Visibility → Prop) (kind : Item → Prop) : Prop where
  container : ∀ {declared : Container}, IsWord declared.name → declared.generics.NamedPlainly →
    visible declared.visibility → kind (.container declared)
  elsewhere : ∀ (attributes : List Attribute) (name : String), kind (.module attributes name none)
  inline : ∀ {attributes : List Attribute} {name : String} {items : List Item}, IsWord name →
    (∀ item ∈ items, kind item) → kind (.module attributes name (some items))
  other : kind .other

/-- Items whose types have any visibility are well named. -/
theorem Item.admits_wellNamed : Item.Admits (fun _ => True) Item.WellNamed :=
  ⟨fun name generics _ => .container name generics, fun _ _ => .elsewhere, .inline, .other⟩

namespace Grammar

open Syntax.Parser

/-- A lifetime parameter is named plainly. -/
theorem gives_lifetimeParameter : lifetimeParameter.Gives Parameter.NamedPlainly := by
  apply gives_lifetime.captured.bind
  rintro ⟨name, used⟩ plain
  apply gives_bind
  intro _
  apply gives_bind
  intro _
  exact gives_pure plain

/-- A type parameter is named plainly. -/
theorem gives_typeParameter (g : Grammar) : g.typeParameter.Gives Parameter.NamedPlainly := by
  apply gives_identifier.bind
  intro name word
  apply gives_bind
  intro _
  apply gives_bind
  intro hasDefault
  apply gives_ite
  · apply gives_bind
    intro _
    exact gives_pure word.isPlain.unraw
  · exact gives_pure word.isPlain.unraw

/-- A constant parameter is named plainly. -/
theorem gives_constParameter (g : Grammar) : g.constParameter.Gives Parameter.NamedPlainly := by
  apply gives_bind
  intro _
  apply gives_identifier.bind
  intro name word
  apply gives_bind
  intro _
  apply gives_bind
  intro _
  apply gives_bind
  intro hasDefault
  apply gives_ite
  · apply gives_bind
    intro _
    exact gives_pure word.isPlain.unraw
  · exact gives_pure word.isPlain.unraw

/-- A parameter of any kind is named plainly. -/
theorem gives_parameter (g : Grammar) : g.parameter.Gives Parameter.NamedPlainly := by
  apply gives_bind
  intro _
  apply gives_bind
  intro isLifetime
  apply gives_ite
  · exact gives_lifetimeParameter
  · apply gives_bind
    intro isType
    apply gives_ite
    · exact g.gives_typeParameter
    · apply gives_bind
      intro isConst
      apply gives_ite
      · exact g.gives_constParameter
      · apply gives_bind
        intro _
        apply gives_pure
        rw [Parameter.NamedPlainly]
        decide

/-- All parameters are named plainly. -/
theorem gives_parameters (g : Grammar) : g.parameters.Gives Generics.NamedPlainly := by
  apply gives_bind
  intro hasParameters
  apply gives_ite
  · apply gives_bind
    intro _
    apply (g.gives_parameter.listed _).bind
    intro items plain
    apply gives_bind
    intro _
    apply gives_pure
    intro name mem
    obtain ⟨item, itemMem, rfl⟩ := List.mem_map.1 mem
    exact plain item itemMem
  · apply gives_pure
    intro name mem
    cases mem

/-! ### Items -/

section Items

variable {visible : Declaration.Visibility → Prop} {kind : Item → Prop}

/-- A declared type is given as the items that are admitted. -/
theorem gives_containerItem (admits : Item.Admits visible kind) (g : Grammar)
    (attributes : List Attribute) {visibility : Declaration.Visibility} (shown : visible visibility)
    (keyword : String) (body : Parser (Declaration.Kind × Option Tokens)) :
    (g.containerItem attributes visibility keyword body).Gives kind := by
  apply gives_bind
  intro _
  apply gives_identifier.bind
  intro name word
  apply g.gives_parameters.bind
  intro generics plain
  apply gives_bind
  rintro ⟨sort, conditions⟩
  exact gives_pure (admits.container word plain shown)

/-- A module is given as the items that are admitted, when those in it are. -/
theorem gives_moduleItem (admits : Item.Admits visible kind) (g : Grammar)
    (attributes : List Attribute) (items : g.item.Gives kind) :
    (g.moduleItem attributes).Gives kind := by
  have named : ∀ name, IsWord name → Gives kind (do
      if ← sign? ";" then return .module attributes name none
      inside .brace do
        let inner ← g.innerAttributes
        let items ← toEnd g.item
        return .module (attributes ++ inner) name (some items)) := by
    intro name word
    apply gives_bind
    intro ends
    apply gives_ite
    · exact gives_pure (admits.elsewhere _ _)
    · apply Gives.inside
      apply gives_bind
      intro inner
      apply items.toEnd.bind
      intro found each
      exact gives_pure (admits.inline word each)
  apply gives_bind
  intro _
  apply gives_bind
  intro _
  apply gives_bind
  intro isTry
  apply gives_ite
  · exact gives_anyWord.bind named
  · exact gives_identifier.bind named

/-- An item that is passed over is given as an admitted one. -/
theorem gives_skipped (admits : Item.Admits visible kind) (item : Parser Unit) :
    (skipped item).Gives kind := by
  apply gives_bind
  intro _
  exact gives_pure admits.other

/-- The body of an item is given as an admitted one. -/
theorem gives_itemBody (admits : Item.Admits visible kind) (shows : visibility.Gives visible)
    (g : Grammar) (attributes : List Attribute) (items : g.item.Gives kind) :
    (g.itemBody attributes).Gives kind := by
  apply shows.bind
  intro visibility shown
  apply gives_bind
  intro trees
  repeat' apply gives_ite
  all_goals first
    | exact gives_skipped admits _
    | exact gives_moduleItem admits g attributes items
    | exact gives_containerItem admits g attributes shown _ _
    | exact gives_failure

/-- Whatever the depth, the items of the grammar are of each kind that admits them. -/
theorem gives_item (admits : Item.Admits visible kind) (shows : visibility.Gives visible)
    (depth : Nat) : (atDepth depth).item.Gives kind := by
  induction depth with
  | zero => exact gives_failure
  | succ depth ih =>
    show (later fun _ => (atDepth depth).parseItem).Gives kind
    apply Gives.later
    apply gives_bind
    intro attributes
    exact gives_itemBody admits shows (atDepth depth) attributes ih

end Items

end Grammar

/-- The items of a source file are of each kind that admits them. -/
theorem admitted_of_itemsOfFile? {visible : Declaration.Visibility → Prop} {kind : Item → Prop}
    (admits : Item.Admits visible kind) (shows : Grammar.visibility.Gives visible) {source : String}
    {items : List Item} (found : itemsOfFile? source = some items) : ∀ item ∈ items, kind item := by
  obtain ⟨tokens, cut, parsed⟩ := Option.bind_eq_some_iff.1 found
  have gives : Parser.Gives (fun items => ∀ item ∈ items, kind item) (do
      discard (Grammar.for tokens).innerAttributes
      Parser.toEnd (Grammar.for tokens).item) :=
    Parser.gives_bind fun _ => (Grammar.gives_item admits shows _).toEnd
  exact gives.of_runAll (wellSpelled_of_tokenize? cut) parsed

/-- The items of a source file are named by words. -/
theorem wellNamed_of_itemsOfFile? {source : String} {items : List Item}
    (found : itemsOfFile? source = some items) : ∀ item ∈ items, item.WellNamed :=
  admitted_of_itemsOfFile? Item.admits_wellNamed (Parser.gives_any _) found

end ResourceAccessors.Syntax
