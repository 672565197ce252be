/-!
# Token trees

Source code as a sequence of token trees: words, marks, literals, and groups between matching
brackets. A mark knows whether another mark follows it directly, because only then do both print
without a space between them.
-/

namespace ResourceAccessors.Syntax

/-- The brackets around a group. -/
inductive Delimiter
  | parenthesis
  | bracket
  | brace
  deriving DecidableEq, Repr, Inhabited

/-- What a literal stands for, as far as the grammar asks. -/
inductive LiteralKind
  /-- A text. -/
  | text
  /-- A number without a fraction or an exponent. -/
  | integer
  /-- Any other number. -/
  | float
  /-- A character, a byte, or a sequence of bytes. -/
  | other
  deriving DecidableEq, Repr, Inhabited

/-- A token, or a group of them. A raw identifier keeps its sign, `r#`. -/
inductive TokenTree
  | word (text : String)
  | mark (char : Char) (joint : Bool)
  | literal (kind : LiteralKind) (text : String)
  | group (delimiter : Delimiter) (inside : List TokenTree)
  deriving Repr, Inhabited

/-- A sequence of token trees. -/
abbrev Tokens := List TokenTree

/-- The text before the content of a group. -/
def Delimiter.opening : Delimiter → String
  | .parenthesis => "("
  | .bracket => "["
  | .brace => "\x7b "

/-- The text behind the content of a group. -/
def Delimiter.closing : Delimiter → String
  | .parenthesis => ")"
  | .bracket => "]"
  | .brace => "\x7d"

namespace TokenTree

mutual

/-- The text of a token tree. A brace has a space on its inner side. -/
def print : TokenTree → String
  | .word text => text
  | .mark char _ => String.singleton char
  | .literal _ text => text
  | .group delimiter inside =>
    delimiter.opening ++ printFrom true inside ++
      (if delimiter = .brace ∧ inside ≠ [] then " " else "") ++ delimiter.closing

/-- The text of a sequence, with a space in front of the first tree unless it is attached. -/
def printFrom (attached : Bool) : List TokenTree → String
  | [] => ""
  | tree :: rest =>
    let joint :=
      match tree with
      | .mark _ joint => joint
      | _ => false
    (if attached then "" else " ") ++ print tree ++ printFrom joint rest

end

mutual

/-- How many tokens a tree holds, groups counted. -/
def count : TokenTree → Nat
  | .group _ inside => countAll inside + 1
  | _ => 1

/-- How many tokens a sequence holds, groups counted. -/
def countAll : List TokenTree → Nat
  | [] => 0
  | tree :: rest => count tree + countAll rest

end

end TokenTree

/-- The text of a token sequence: single spaces between the trees, and none behind a mark that is
joined to the next one. -/
def Tokens.print (tokens : Tokens) : String :=
  TokenTree.printFrom true tokens

/-- The name of an identifier, without the sign of a raw one. -/
def unraw (text : String) : String :=
  match text.toList with
  | 'r' :: '#' :: name => String.ofList name
  | _ => text

end ResourceAccessors.Syntax
