import ResourceAccessors.Declaration.Extraction

/-!
# What the arguments of the marker attribute mean

The arguments are read one after the other. What they come to can be said without an order: which texts
are assigned to a name last, and which texts stand at the first two places without a name.
-/

namespace ResourceAccessors.Declaration

open Syntax

/-! ### Arguments with and without a name -/

/-- Whether an argument has a name, as an assignment has. -/
def isNamed : ExpressionShape → Bool
  | .assignment _ _ => true
  | _ => false

/-- The arguments with a name, in their order. -/
def named (shapes : List ExpressionShape) : List ExpressionShape :=
  shapes.filter isNamed

/-- The arguments without a name, in their order. -/
def unnamed (shapes : List ExpressionShape) : List ExpressionShape :=
  shapes.filter fun shape => !isNamed shape

/-- The text at a place among the arguments without a name, when it is a text that stands there. -/
def unnamedText? (shapes : List ExpressionShape) (position : Nat) : Option String :=
  (unnamed shapes)[position]?.bind ExpressionShape.text?

/-- The text that an argument gives to the name `key`, when it does. -/
def assignedText? (key : String) : ExpressionShape → Option String
  | .assignment (some name) (some text) => if unraw name = key then some text else none
  | _ => none

/-- The last text that is given to the name `key`. -/
def lastText? (shapes : List ExpressionShape) (key : String) : Option String :=
  (shapes.filterMap (assignedText? key)).getLast?

/-- What the arguments of an attribute on the type `typeName` in the module `modulePath` come to. -/
def Arguments.meantBy (modulePath : List String) (typeName : String)
    (shapes : List ExpressionShape) : Arguments where
  extension := ((lastText? shapes "extension").or (unnamedText? shapes 0)).getD ".txt"
  path := ((lastText? shapes "path").or (unnamedText? shapes 1)).getD typeName
  beforeRead := (lastText? shapes "before_read").bind fun text => (hook? text modulePath).value
  afterRead := (lastText? shapes "after_read").bind fun text => (hook? text modulePath).value

/-- The names that mean something. -/
def argumentNames : List String :=
  ["extension", "path", "before_read", "after_read"]

/-- An argument that means nothing behind `before`: one without a name behind two others, an
assignment to anything but a known name, or one of anything but a text. -/
def IsIdle (before : List ExpressionShape) : ExpressionShape → Prop
  | .assignment key text => text = none ∨ ∀ name ∈ key, unraw name ∉ argumentNames
  | _ => 2 ≤ (unnamed before).length

/-! ### Places -/

/-- Named arguments are passed over in counting. -/
theorem unnamedText?_named {shape : ExpressionShape} (isNamed : isNamed shape = true)
    (rest : List ExpressionShape) (position : Nat) :
    unnamedText? (shape :: rest) position = unnamedText? rest position := by
  simp [unnamedText?, unnamed, isNamed]

/-- The first unnamed argument gives its text. -/
theorem unnamedText?_zero {shape : ExpressionShape} (isUnnamed : isNamed shape = false)
    (rest : List ExpressionShape) : unnamedText? (shape :: rest) 0 = shape.text? := by
  simp [unnamedText?, unnamed, isUnnamed]

/-- An unnamed argument is counted off. -/
theorem unnamedText?_succ {shape : ExpressionShape} (isUnnamed : isNamed shape = false)
    (rest : List ExpressionShape) (position : Nat) :
    unnamedText? (shape :: rest) (position + 1) = unnamedText? rest position := by
  simp [unnamedText?, unnamed, isUnnamed]

/-- The arguments with the text of one argument without a name, at its place. -/
def Arguments.withText (arguments : Arguments) : (position : Nat) → Option String → Arguments
  | 0, some extension => { arguments with extension }
  | 1, some path => { arguments with path }
  | _, _ => arguments

/-- An argument with a name takes no place. -/
theorem value_withUnnamed_named {shape : ExpressionShape} (isNamed : isNamed shape = true)
    (arguments : Arguments) (position : Nat) (rest : List ExpressionShape) :
    (arguments.withUnnamed position (shape :: rest)).value =
      (arguments.withUnnamed position rest).value := by
  cases shape with
  | assignment key text => rfl
  | _ => cases isNamed

/-- Every argument without a name takes a place, and is read there when it is a text. -/
theorem value_withUnnamed_cons {shape : ExpressionShape} (isUnnamed : isNamed shape = false)
    (arguments : Arguments) (position : Nat) (rest : List ExpressionShape) :
    (arguments.withUnnamed position (shape :: rest)).value =
      ((arguments.withText position shape.text?).withUnnamed (position + 1) rest).value := by
  cases shape with
  | assignment key text => cases isUnnamed
  | _ => rcases position with - | - | position <;> rfl

/-- The arguments without a name set what stands at the first two places. -/
theorem value_withUnnamed (arguments : Arguments) (position : Nat)
    (shapes : List ExpressionShape) :
    (arguments.withUnnamed position shapes).value =
      { arguments with
        extension := (if position = 0 then unnamedText? shapes 0 else none).getD
          arguments.extension
        path := (if position ≤ 1 then unnamedText? shapes (1 - position) else none).getD
          arguments.path } := by
  induction shapes generalizing arguments position with
  | nil => simp [Arguments.withUnnamed, unnamedText?, unnamed]
  | cons shape rest inductionHypothesis =>
    cases kind : isNamed shape with
    | true =>
      rw [value_withUnnamed_named kind, inductionHypothesis]
      simp only [unnamedText?_named kind]
    | false =>
      rw [value_withUnnamed_cons kind, inductionHypothesis]
      rcases position with - | - | position
      · cases text : shape.text? <;>
          simp [Arguments.withText, unnamedText?_zero kind, unnamedText?_succ kind, text]
      · cases text : shape.text? <;>
          simp [Arguments.withText, unnamedText?_zero kind, text]
      · simp [Arguments.withText]

/-! ### Names -/

/-- An argument behind another one with the same name takes precedence. -/
theorem lastText?_cons (shape : ExpressionShape) (rest : List ExpressionShape) (key : String) :
    lastText? (shape :: rest) key = (lastText? rest key).or (assignedText? key shape) := by
  cases given : assignedText? key shape with
  | none => simp [lastText?, List.filterMap_cons_none given]
  | some text =>
    rw [lastText?, List.filterMap_cons_some given, List.getLast?_cons, ← lastText?]
    cases lastText? rest key <;> rfl

/-- An assignment sets what its name says to its text. -/
theorem value_withNamed (modulePath : List String) (arguments : Arguments)
    (shape : ExpressionShape) :
    (arguments.withNamed modulePath shape).value =
      { extension := (assignedText? "extension" shape).getD arguments.extension
        path := (assignedText? "path" shape).getD arguments.path
        beforeRead := (assignedText? "before_read" shape).elim arguments.beforeRead
          fun text => (hook? text modulePath).value
        afterRead := (assignedText? "after_read" shape).elim arguments.afterRead
          fun text => (hook? text modulePath).value } := by
  cases shape with
  | assignment key text =>
    cases key with
    | none => rfl
    | some name =>
      cases text with
      | none => rfl
      | some text =>
        simp only [Arguments.withNamed, Arguments.withValue, assignedText?]
        split <;> simp_all
  | _ => rfl

/-- All assignments set what their names say, the last one of a name in the end. -/
theorem value_foldlM_withNamed (modulePath : List String) (arguments : Arguments)
    (shapes : List ExpressionShape) :
    (shapes.foldlM (Arguments.withNamed modulePath) arguments).value =
      { extension := (lastText? shapes "extension").getD arguments.extension
        path := (lastText? shapes "path").getD arguments.path
        beforeRead := (lastText? shapes "before_read").elim arguments.beforeRead
          fun text => (hook? text modulePath).value
        afterRead := (lastText? shapes "after_read").elim arguments.afterRead
          fun text => (hook? text modulePath).value } := by
  have later : ∀ (outer inner : Option String) (start : Option String),
      outer.elim (inner.elim start fun text => (hook? text modulePath).value)
          (fun text => (hook? text modulePath).value) =
        (outer.or inner).elim start fun text => (hook? text modulePath).value := by
    intro outer inner start
    cases outer <;> rfl
  induction shapes generalizing arguments with
  | nil => rfl
  | cons shape rest inductionHypothesis =>
    rw [List.foldlM_cons, Warned.value_bind, inductionHypothesis, value_withNamed]
    simp only [lastText?_cons, Option.getD_or, later]

/-! ### What does not matter -/

/-- Arguments mean the same when the known names are given the same texts last, and the same texts stand
at the first two places. -/
theorem meantBy_eq {shapes others : List ExpressionShape}
    (texts : ∀ key ∈ argumentNames, lastText? shapes key = lastText? others key)
    (places : ∀ position < 2, unnamedText? shapes position = unnamedText? others position)
    (modulePath : List String) (typeName : String) :
    Arguments.meantBy modulePath typeName shapes = .meantBy modulePath typeName others := by
  rw [Arguments.meantBy, Arguments.meantBy, texts "extension" (by decide),
    texts "path" (by decide), texts "before_read" (by decide), texts "after_read" (by decide),
    places 0 (by decide), places 1 (by decide)]

/-- Only arguments with a name are given texts. -/
theorem lastText?_named (shapes : List ExpressionShape) (key : String) :
    lastText? (named shapes) key = lastText? shapes key := by
  have among : ∀ shape, (if isNamed shape then assignedText? key shape else none) =
      assignedText? key shape := by
    intro shape
    cases shape <;> rfl
  rw [lastText?, named, List.filterMap_filter]
  simp only [among]
  rfl

/-- An idle argument gives no known name a text. -/
theorem IsIdle.assignedText?_eq_none {before : List ExpressionShape} {shape : ExpressionShape}
    (idle : IsIdle before shape) {key : String} (known : key ∈ argumentNames) :
    assignedText? key shape = none := by
  cases shape with
  | assignment name text =>
    cases name with
    | none => rfl
    | some name =>
      rcases idle with rfl | unknown
      · rfl
      · have other : unraw name ≠ key := by
          rintro rfl
          exact unknown name rfl known
        cases text with
        | none => rfl
        | some text => exact if_neg other
  | _ => rfl

/-- An idle argument stands at neither of the first two places. -/
theorem IsIdle.unnamedText?_eq {before : List ExpressionShape} {shape : ExpressionShape}
    (idle : IsIdle before shape) (after : List ExpressionShape) {position : Nat}
    (early : position < 2) :
    unnamedText? (before ++ shape :: after) position = unnamedText? (before ++ after) position := by
  have split : ∀ rest, unnamed (before ++ rest) = unnamed before ++ unnamed rest := fun rest => by
    rw [unnamed, List.filter_append, ← unnamed, ← unnamed]
  cases kind : isNamed shape with
  | true =>
    have skipped : unnamed (shape :: after) = unnamed after := by simp [unnamed, kind]
    rw [unnamedText?, unnamedText?, split, split, skipped]
  | false =>
    have filled : 2 ≤ (unnamed before).length := by
      cases shape with
      | assignment => cases kind
      | _ => exact idle
    have within : position < (unnamed before).length := Nat.lt_of_lt_of_le early filled
    rw [unnamedText?, unnamedText?, split, split, List.getElem?_append_left within,
      List.getElem?_append_left within]

/-- Arguments mean the same without an idle one. -/
theorem IsIdle.meantBy_eq {before : List ExpressionShape} {shape : ExpressionShape}
    (idle : IsIdle before shape) (after : List ExpressionShape) (modulePath : List String)
    (typeName : String) :
    Arguments.meantBy modulePath typeName (before ++ shape :: after) =
      .meantBy modulePath typeName (before ++ after) := by
  refine Declaration.meantBy_eq (fun key known => ?_) (fun _ early => idle.unnamedText?_eq after early)
    modulePath typeName
  rw [lastText?, lastText?, List.filterMap_append, List.filterMap_append,
    List.filterMap_cons_none (idle.assignedText?_eq_none known)]

/-! ### The attribute -/

/-- An attribute with arguments that parse gives what they mean. -/
theorem value_argumentsOf {tokens : Tokens} {shapes : List ExpressionShape}
    (parsed : argumentsOf? tokens = some shapes) (modulePath : List String) (typeName : String) :
    (argumentsOf modulePath typeName (.arguments tokens)).value =
      .meantBy modulePath typeName shapes := by
  have read : (argumentsOf modulePath typeName (.arguments tokens)).value =
      (shapes.foldlM (Arguments.withNamed modulePath)
        ((Arguments.default typeName).withUnnamed 0 shapes).value).value := by
    simp [argumentsOf, parsed]
  have hooks : ∀ text : Option String, (text.elim none fun text => (hook? text modulePath).value) =
      text.bind fun text => (hook? text modulePath).value := by
    intro text
    cases text <;> rfl
  rw [read, value_foldlM_withNamed, value_withUnnamed]
  simp [Arguments.meantBy, Arguments.default, defaultExtension, Option.getD_or, hooks]

/-- An attribute without arguments that parse gives the defaults. -/
theorem value_argumentsOf_of_malformed {content : AttributeContent}
    (malformed : ∀ tokens, content = .arguments tokens → argumentsOf? tokens = none)
    (modulePath : List String) (typeName : String) :
    (argumentsOf modulePath typeName content).value = .default typeName := by
  cases content with
  | none => rfl
  | value => rfl
  | arguments tokens => simp [argumentsOf, malformed tokens rfl]

/-- The arguments of an attribute are read by their meaning. -/
structure ReadsByMeaning (modulePath : List String) (typeName : String) : Prop where
  meaning : ∀ {tokens shapes}, argumentsOf? tokens = some shapes →
    (argumentsOf modulePath typeName (.arguments tokens)).value =
      .meantBy modulePath typeName shapes
  malformed : ∀ {content}, (∀ tokens, content = .arguments tokens → argumentsOf? tokens = none) →
    (argumentsOf modulePath typeName content).value = .default typeName
  /-- Arguments with a name may stand anywhere between the others. -/
  moved : ∀ {tokens others shapes otherShapes}, argumentsOf? tokens = some shapes →
    argumentsOf? others = some otherShapes → named shapes = named otherShapes →
    unnamed shapes = unnamed otherShapes →
      (argumentsOf modulePath typeName (.arguments tokens)).value =
        (argumentsOf modulePath typeName (.arguments others)).value
  /-- Idle arguments can be left out. -/
  idle : ∀ {tokens others before shape after}, IsIdle before shape →
    argumentsOf? tokens = some (before ++ shape :: after) →
    argumentsOf? others = some (before ++ after) →
      (argumentsOf modulePath typeName (.arguments tokens)).value =
        (argumentsOf modulePath typeName (.arguments others)).value

/-- In every module and for every type, the arguments of the marker attribute are read by their
meaning. -/
theorem readsByMeaning (modulePath : List String) (typeName : String) :
    ReadsByMeaning modulePath typeName where
  meaning parsed := value_argumentsOf parsed modulePath typeName
  malformed none := value_argumentsOf_of_malformed none modulePath typeName
  moved {_ _ shapes otherShapes} parsed otherParsed sameNamed sameUnnamed := by
    rw [value_argumentsOf parsed, value_argumentsOf otherParsed]
    refine meantBy_eq (fun key _ => ?_) (fun position _ => ?_) modulePath typeName
    · rw [← lastText?_named, sameNamed, lastText?_named]
    · rw [unnamedText?, unnamedText?, sameUnnamed]
  idle {_ _ _ _ after} idle parsed otherParsed := by
    rw [value_argumentsOf parsed, value_argumentsOf otherParsed]
    exact idle.meantBy_eq after modulePath typeName

/-- The tokens of `path = "X", 4, before_read = "f", "Y", r#extension = ".b", before_read = "f<T>", "Z"`. -/
def interleavedTokens : Tokens :=
  [.word "path", .mark '=' false, .literal .text "\"X\"", .mark ',' false,
    .literal .integer "4", .mark ',' false,
    .word "before_read", .mark '=' false, .literal .text "\"f\"", .mark ',' false,
    .literal .text "\"Y\"", .mark ',' false,
    .word "r#extension", .mark '=' false, .literal .text "\".b\"", .mark ',' false,
    .word "before_read", .mark '=' false, .literal .text "\"f<T>\"", .mark ',' false,
    .literal .text "\"Z\""]

/-- The assigned path goes before the one at the second place, and the second hook, which is none,
before the first. -/
theorem readsByMeaning_interleavedTokens :
    (argumentsOf? interleavedTokens).isSome = true ∧
      (argumentsOf ["a"] "Notes" (.arguments interleavedTokens)).value =
        ⟨".b", "X", none, none⟩ := by
  have parsed : argumentsOf? interleavedTokens = some [.assignment (some "path") (some "X"),
      .other, .assignment (some "before_read") (some "f"), .text "Y",
      .assignment (some "r#extension") (some ".b"),
      .assignment (some "before_read") (some "f<T>"), .text "Z"] := by
    decide +kernel
  refine ⟨by rw [parsed]; rfl, ((readsByMeaning ["a"] "Notes").meaning parsed).trans ?_⟩
  decide +kernel

end ResourceAccessors.Declaration
