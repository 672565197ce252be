import ResourceAccessors.Text.Identifier.Table

/-!
# Identifier characters

Which characters start and continue an identifier, by the Unicode properties `XID_Start` and
`XID_Continue`. An underscore continues an identifier; a language that lets it start one says so
itself.
-/

namespace ResourceAccessors.Text

/-- Whether `c` has the property `XID_Start`. -/
def startsIdentifier (c : Char) : Bool :=
  Identifier.startTable.contains c

/-- Whether `c` has the property `XID_Continue`. -/
def continuesIdentifier (c : Char) : Bool :=
  startsIdentifier c || Identifier.continueOnlyTable.contains c

/-- A character that starts an identifier also continues one. -/
theorem continuesIdentifier_of_starts {c : Char} (starts : startsIdentifier c = true) :
    continuesIdentifier c = true := by
  simp [continuesIdentifier, starts]

end ResourceAccessors.Text
