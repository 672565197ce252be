/-!
# Encoded texts

Files hold UTF-8, possibly after a byte-order mark. One mark is dropped; what follows is a text
when it is valid UTF-8.
-/

namespace ResourceAccessors.Text

/-- The UTF-8 form of the byte-order mark. -/
def byteOrderMark : List UInt8 :=
  [0xEF, 0xBB, 0xBF]

/-- The bytes after one byte-order mark, if there is one. -/
def withoutMark (bytes : ByteArray) : ByteArray :=
  if byteOrderMark.isPrefixOf bytes.data.toList then bytes.extract 3 bytes.size else bytes

/-- The text that the bytes hold, when they are valid UTF-8 after one byte-order mark. -/
def decode? (bytes : ByteArray) : Option String :=
  String.fromUTF8? (withoutMark bytes)

end ResourceAccessors.Text
