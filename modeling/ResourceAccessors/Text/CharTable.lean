/-!
# Character tables

A set of characters given by the intervals of its code points. The tables of the Unicode properties
used by this library are written in this form.
-/

namespace ResourceAccessors.Text

/-- Closed intervals of code points, in ascending order and without overlap. -/
abbrev CharTable := List (Nat × Nat)

namespace CharTable

/-- Whether an interval of the table holds `code`. The search ends at the first interval that lies
above `code`, because the intervals ascend. -/
def holds : CharTable → Nat → Bool
  | [], _ => false
  | (first, last) :: rest, code =>
    if code < first then false else decide (code ≤ last) || holds rest code

/-- Whether the table holds the code point of `c`. -/
def contains (table : CharTable) (c : Char) : Bool :=
  table.holds c.toNat

end CharTable

end ResourceAccessors.Text
