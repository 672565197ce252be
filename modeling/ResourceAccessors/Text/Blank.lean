import ResourceAccessors.Text.CharTable

/-!
# Blank characters

The Unicode property `White_Space`, and the removal of blanks from the ends of a text.
-/

namespace ResourceAccessors.Text

/-- The characters with the property `White_Space`. -/
def blankTable : CharTable :=
  [(0x9, 0xd), (0x20, 0x20), (0x85, 0x85), (0xa0, 0xa0), (0x1680, 0x1680), (0x2000, 0x200a),
   (0x2028, 0x2029), (0x202f, 0x202f), (0x205f, 0x205f), (0x3000, 0x3000)]

/-- Whether `c` has the property `White_Space`. -/
def isBlank (c : Char) : Bool :=
  blankTable.contains c

/-- The characters without the blanks at the end. -/
def trimEnd (chars : List Char) : List Char :=
  (chars.reverse.dropWhile isBlank).reverse

/-- The text without the blanks at both ends. -/
def trim (text : String) : String :=
  String.ofList (trimEnd (text.toList.dropWhile isBlank))

/-- Whether a text holds blanks only. -/
def isBlankText (text : String) : Bool :=
  text.toList.all isBlank

end ResourceAccessors.Text
