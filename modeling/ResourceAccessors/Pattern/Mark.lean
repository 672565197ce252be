import ResourceAccessors.Pattern.Glob

/-!
# Marks of a glob

The text of a glob as a sequence of marks: characters that stand for themselves, signs, and classes. A
fault in the text is a mark too, so that faults are found in the order of the text.
-/

namespace ResourceAccessors.Pattern

/-- A mark. -/
inductive Mark
  | plain (char : Char)
  | escaped (char : Char)
  | question
  | star
  | opening
  | comma
  | closing
  | class (isNegated : Bool) (ranges : List (Char × Char))
  | fault (cause : GlobFault)
  deriving Repr, Inhabited

/-- The last character of a mark as it is written. -/
def Mark.lastChar : Mark → Char
  | .plain char => char
  | .escaped char => char
  | .question => '?'
  | .star => '*'
  | .opening => '\x7b'
  | .comma => ','
  | .closing => '\x7d'
  | .class _ _ => ']'
  | .fault _ => ' '

/-- What is read behind the opening bracket of a class. -/
inductive ClassReading
  | closed (ranges : List (Char × Char)) (rest : List Char)
  | unclosed
  | reversed (low high : Char)

/-- Read the ranges of a class; `ranges` holds those that were read, last one first. A closing bracket
or a hyphen at the start stands for itself, and so does a hyphen at the end. -/
def readClass (ranges : List (Char × Char)) (isFirst inRange : Bool) :
    List Char → ClassReading
  | [] => .unclosed
  | c :: rest =>
    if c = ']' ∧ !isFirst then
      .closed ((if inRange then ('-', '-') :: ranges else ranges).reverse) rest
    else if c = '-' ∧ !isFirst ∧ !inRange then readClass ranges false true rest
    else
      match inRange, ranges with
      | true, (low, _) :: before =>
        if c < low then .reversed low c else readClass ((low, c) :: before) false false rest
      | _, _ => readClass ((c, c) :: ranges) false false rest

/-- Whether a class is negated, and what follows the sign for it. -/
def splitNegation : List Char → Bool × List Char
  | '!' :: rest => (true, rest)
  | '^' :: rest => (true, rest)
  | chars => (false, chars)

/-- The first mark of a text that is no class. -/
def Mark.ofChar : Char → Mark
  | '?' => .question
  | '*' => .star
  | '\x7b' => .opening
  | ',' => .comma
  | '\x7d' => .closing
  | c => .plain c

/-- The marks of a text, at most `fuel` of them. When `allowsUnclosed` is set, the bracket of a class
without an end stands for itself, and so do all brackets behind it, as `hasClasses` says. -/
def marksUpTo (allowsUnclosed : Bool) : Nat → (hasClasses : Bool) → List Char → List Mark
  | 0, _, _ => []
  | _ + 1, _, [] => []
  | fuel + 1, hasClasses, c :: rest =>
    if c = '[' ∧ hasClasses then
      let (isNegated, inside) := splitNegation rest
      match readClass [] true false inside with
      | .closed ranges after =>
        .class isNegated ranges :: marksUpTo allowsUnclosed fuel hasClasses after
      | .reversed low high => [.fault (.reversedRange low high)]
      | .unclosed =>
        if allowsUnclosed then .plain '[' :: marksUpTo allowsUnclosed fuel false rest
        else [.fault .unclosedClass]
    else if c = '\\' then
      match rest with
      | [] => [.fault .danglingEscape]
      | escaped :: after => .escaped escaped :: marksUpTo allowsUnclosed fuel hasClasses after
    else Mark.ofChar c :: marksUpTo allowsUnclosed fuel hasClasses rest

/-- The marks of a text. -/
def marksOf (allowsUnclosed : Bool) (text : String) : List Mark :=
  marksUpTo allowsUnclosed text.length true text.toList

end ResourceAccessors.Pattern
