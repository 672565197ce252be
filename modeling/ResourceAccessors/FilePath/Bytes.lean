import ResourceAccessors.FilePath.Basic

/-!
# Names that are not text

The system takes all bytes in a name but zero and the slash. A path holds a name as characters: those
that its bytes spell in UTF-8, and for each byte that is no part of a character a mark. A mark is a NUL
and behind it the character with the number of the byte. No name has a NUL of its own, so it is held in
one way only, and it is text exactly when no mark is in it.
-/

namespace ResourceAccessors.FilePath

/-! ### Signs -/

/-- Whether two characters in a row are the mark of a byte. -/
def isMark (first second : Char) : Bool :=
  first == '\x00' && 0x80 ≤ second.toNat && second.toNat ≤ 0xFF

/-- What a name is made of. -/
inductive Sign
  | char (value : Char)
  /-- A byte that is no part of a character. -/
  | byte (value : UInt8)
  deriving DecidableEq, Repr, Inhabited

/-- Whether a sign is a character. -/
def Sign.isChar : Sign → Bool
  | .char _ => true
  | .byte _ => false

/-- The bytes of a sign. -/
def Sign.bytes : Sign → List UInt8
  | .char value => String.utf8EncodeChar value
  | .byte value => [value]

/-- The signs that some characters hold. -/
def signs : List Char → List Sign
  | [] => []
  | [last] => [.char last]
  | first :: second :: rest =>
    if isMark first second then .byte (.ofNat second.toNat) :: signs rest
    else .char first :: signs (second :: rest)

/-- The bytes that a text stands for in a path. -/
def bytesOf (text : String) : List UInt8 :=
  (signs text.toList).flatMap Sign.bytes

/-- The size of a name in bytes. -/
def byteSize (name : String) : Nat :=
  (bytesOf name).length

/-! ### Text -/

/-- Whether the bytes of a name spell characters. -/
def isTextName (name : String) : Bool :=
  (signs name.toList).all Sign.isChar

/-- The last component, when it is a name that is text. -/
def textName? (path : FilePath) : Option String :=
  path.fileName?.filter isTextName

/-! ### Shown text -/

/-- The ranges of the bytes between the first one and the last one of a character. -/
def between (first : UInt8) : List (UInt8 × UInt8) :=
  if first = 0xE0 then [(0xA0, 0xBF)]
  else if first = 0xED then [(0x80, 0x9F)]
  else if 0xE1 ≤ first ∧ first ≤ 0xEF then [(0x80, 0xBF)]
  else if first = 0xF0 then [(0x90, 0xBF), (0x80, 0xBF)]
  else if 0xF1 ≤ first ∧ first ≤ 0xF3 then [(0x80, 0xBF), (0x80, 0xBF)]
  else if first = 0xF4 then [(0x80, 0x8F), (0x80, 0xBF)]
  else []

/-- The characters that are shown for signs. One replacement character stands for all bytes of a
character that is cut off; `awaited` are the ranges of those that may still follow its first bytes. -/
def shownSigns (awaited : List (UInt8 × UInt8)) : List Sign → List Char
  | [] => []
  | .char value :: rest => value :: shownSigns [] rest
  | .byte value :: rest =>
    match awaited with
    | (low, high) :: more =>
      if low ≤ value ∧ value ≤ high then shownSigns more rest
      else '\ufffd' :: shownSigns (between value) rest
    | [] => '\ufffd' :: shownSigns (between value) rest

/-- The text that is shown for a text of a path. -/
def shownText (text : String) : String :=
  String.ofList (shownSigns [] (signs text.toList))

/-- The text that is shown for a path. -/
def shown (path : FilePath) : String :=
  shownText path.text

end ResourceAccessors.FilePath
