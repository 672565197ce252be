/-!
# Lines

Lines end at a line feed; a carriage return directly before it belongs to the line break. The last
line need not have a break. Line endings are normalized in two passes: first the pairs of a carriage
return and a line feed, then the carriage returns that are left.
-/

namespace ResourceAccessors.Text

namespace Lines

/-- The pieces between line feeds. A text without a line feed is one piece. -/
def pieces : List Char → List (List Char)
  | [] => [[]]
  | '\n' :: rest => [] :: pieces rest
  | c :: rest =>
    match pieces rest with
    | [] => [[c]]
    | first :: others => (c :: first) :: others

/-- A piece without the carriage return at its end. -/
def withoutReturn : List Char → List Char
  | [] => []
  | ['\r'] => []
  | c :: rest => c :: withoutReturn rest

/-- The lines of the pieces. The last piece has no line feed after it, so its carriage return is
kept, and it is no line when it is empty. -/
def ofPieces : List (List Char) → List (List Char)
  | [] => []
  | [[]] => []
  | [last] => [last]
  | piece :: rest => withoutReturn piece :: ofPieces rest

/-- Every pair of a carriage return and a line feed as one line feed. -/
def joinPairs : List Char → List Char
  | [] => []
  | '\r' :: '\n' :: rest => '\n' :: joinPairs rest
  | c :: rest => c :: joinPairs rest

/-- A carriage return as a line feed. -/
def feedOf (c : Char) : Char :=
  if c = '\r' then '\n' else c

end Lines

/-- The lines of a text, without their breaks. -/
def lines (text : String) : List String :=
  (Lines.ofPieces (Lines.pieces text.toList)).map String.ofList

/-- The text with a line feed for every line break. -/
def normalizeLineEndings (text : String) : String :=
  if text.toList.contains '\r' then
    String.ofList ((Lines.joinPairs text.toList).map Lines.feedOf)
  else text

end ResourceAccessors.Text
