import ResourceAccessors.Pattern.Mark

/-!
# Reading globs

The pieces of a glob from its marks. Two stars stand for folders only where nothing but slashes, the
ends of the glob and the signs of a choice are around them; elsewhere they are two stars.
-/

namespace ResourceAccessors.Pattern

/-- A choice that is not closed yet. -/
structure OpenChoice where
  /-- The complete branches, last one first. -/
  branches : List (List Piece)
  /-- The pieces in front of the choice, last one first. -/
  before : List Piece

/-- A glob that is being read. -/
structure Building where
  /-- The pieces of the branch that is being read, last one first. -/
  pieces : List Piece
  /-- The choices around it, innermost first. -/
  choices : List OpenChoice

namespace Building

/-- One more piece. -/
def push (building : Building) (piece : Piece) : Building :=
  { building with pieces := piece :: building.pieces }

/-- Two stars without a special meaning. -/
def pushStars (building : Building) : Building :=
  (building.push .anyBytes).push .anyBytes

/-- A piece for folders in place of the slash in front of it. Behind other folders it adds nothing. -/
def pushFolders (building : Building) (piece : Piece) : Building :=
  match building.pieces with
  | .leadingFolders :: _ => building
  | .trailingFolders :: _ => building
  | _ :: before => { building with pieces := piece :: before }
  | [] => building.push piece

/-- A new choice. -/
def openChoice (building : Building) : Building :=
  ⟨[], ⟨[], building.pieces⟩ :: building.choices⟩

/-- A comma: the next branch of the innermost choice, or a character outside of choices. -/
def comma (building : Building) : Building :=
  match building.choices with
  | [] => building.push (.literal ',')
  | ⟨branches, before⟩ :: outer => ⟨[], ⟨building.pieces.reverse :: branches, before⟩ :: outer⟩

/-- The end of the innermost choice. -/
def closeChoice (building : Building) : Except GlobFault Building :=
  match building.choices with
  | [] => .error .unopenedChoice
  | ⟨branches, before⟩ :: outer =>
    .ok ⟨.choice (building.pieces.reverse :: branches).reverse :: before, outer⟩

/-- The pieces at the end of the text. -/
def finish (building : Building) : Except GlobFault (List Piece) :=
  if building.choices.isEmpty then .ok building.pieces.reverse else .error .unclosedChoice

/-- The glob with one more mark that is not part of two stars. -/
def addMark (building : Building) : Mark → Except GlobFault Building
  | .plain c => .ok (building.push (.literal c))
  | .escaped c => .ok (building.push (.literal c))
  | .question => .ok (building.push .anyByte)
  | .star => .ok (building.push .anyBytes)
  | .opening => .ok building.openChoice
  | .comma => .ok building.comma
  | .closing => building.closeChoice
  | .class isNegated ranges => .ok (building.push (.oneOf isNegated ranges))
  | .fault cause => .error cause

/-- Whether two stars behind the character `previous` may stand for folders. -/
def allowsFolders (building : Building) (previous : Option Char) : Bool :=
  previous == some '/' ||
    !building.choices.isEmpty && (previous == some ',' || previous == some '\x7b')

/-- The glob with two stars, and whether a slash behind them belongs to them. -/
def addStars (building : Building) (previous : Option Char) (rest : List Mark) :
    Building × Bool :=
  let isInChoice := !building.choices.isEmpty
  if building.pieces.isEmpty then
    match rest with
    | [] => (building.push .leadingFolders, false)
    | .plain '/' :: _ => (building.push .leadingFolders, true)
    | _ => (building.pushStars, false)
  else if !building.allowsFolders previous then (building.pushStars, false)
  else
    match rest with
    | [] => (building.pushFolders .trailingFolders, false)
    | .plain '/' :: _ => (building.pushFolders .innerFolders, true)
    | .comma :: _ =>
      (if isInChoice then building.pushFolders .trailingFolders else building.pushStars, false)
    | .closing :: _ =>
      (if isInChoice then building.pushFolders .trailingFolders else building.pushStars, false)
    | _ => (building.pushStars, false)

/-- The pieces of a glob with more marks; `previous` is the character in front of them, and a slash
at their front is passed over when `skipsSlash` is set. -/
def addMarks (building : Building) (previous : Option Char) (skipsSlash : Bool) :
    List Mark → Except GlobFault (List Piece)
  | [] => building.finish
  | .star :: .star :: rest =>
    let (next, takesSlash) := building.addStars previous rest
    next.addMarks (some '*') takesSlash rest
  | mark :: rest => do
    let next ← if skipsSlash then pure building else building.addMark mark
    next.addMarks (some mark.lastChar) false rest

end Building

/-- The glob that a text is. -/
def Glob.parse (keepsSlashes allowsUnclosed : Bool) (text : String) : Except GlobFault Glob := do
  let pieces ← (Building.mk [] []).addMarks none false (marksOf allowsUnclosed text)
  return ⟨pieces, keepsSlashes⟩

end ResourceAccessors.Pattern
