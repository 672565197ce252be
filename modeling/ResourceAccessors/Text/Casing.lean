import ResourceAccessors.Text.Casing.Table

/-!
# Upper and lower case

The full, locale-independent case mappings. A character may map onto several characters. A capital
sigma maps onto the final form at the end of a word.
-/

namespace ResourceAccessors.Text

namespace Casing

/-- The image of a code point under the first run that maps it. -/
def imageIn? : List CaseRun → Nat → Option Nat
  | [], _ => none
  | run :: rest, code =>
    if run.first ≤ code ∧ code ≤ run.last ∧ (code - run.first) % run.stride = 0 then
      some (run.target + (code - run.first))
    else imageIn? rest code

/-- The image of a character: its expansion if it has one, else the image in the runs, else the
character itself. -/
def image (expansions : List (Nat × List Nat)) (runs : List CaseRun) (c : Char) : List Char :=
  match expansions.lookup c.toNat with
  | some codes => codes.map Char.ofNat
  | none => [((imageIn? runs c.toNat).map Char.ofNat).getD c]

/-- Whether a cased character follows, possibly after characters that casing ignores. -/
def meetsCased (chars : List Char) : Bool :=
  match chars.dropWhile ignorableTable.contains with
  | [] => false
  | c :: _ => casedTable.contains c

/-- Whether a position ends a word: a cased character stands before it and none after it. The
characters before it are given from the last to the first. -/
def endsWord (before after : List Char) : Bool :=
  meetsCased before && !meetsCased after

end Casing

/-- The upper-case form of a character. -/
def upperOf (c : Char) : List Char :=
  Casing.image Casing.upperExpansions Casing.upperRuns c

/-- The lower-case form of a character that stands alone. -/
def lowerOf (c : Char) : List Char :=
  Casing.image Casing.lowerExpansions Casing.lowerRuns c

/-- The upper-case form of a text. -/
def upper (text : String) : String :=
  String.ofList (text.toList.flatMap upperOf)

/-- The lower-case form of the characters that follow `before`, which is given from the last
character to the first. -/
def lowerAfter (before : List Char) : List Char → List Char
  | [] => []
  | 'Σ' :: rest =>
    (if Casing.endsWord before rest then 'ς' else 'σ') :: lowerAfter ('Σ' :: before) rest
  | c :: rest => lowerOf c ++ lowerAfter (c :: before) rest

/-- The lower-case form of a text. -/
def lower (text : String) : String :=
  String.ofList (lowerAfter [] text.toList)

/-- The characters with the first one in upper case, when its upper-case form is one character. -/
def upperFirst : List Char → List Char
  | [] => []
  | c :: rest =>
    match upperOf c with
    | [single] => single :: rest
    | _ => c :: rest

end ResourceAccessors.Text
