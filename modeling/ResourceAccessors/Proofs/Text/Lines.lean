import ResourceAccessors.Proofs.Render.Comments

/-!
# Lines of texts

A text that is made of lines has these lines, provided that none of them holds a break. Normalizing line
endings is a single scan, though it is done in two passes. It leaves no carriage returns, and it commutes
with joining texts unless a break stands at the joint.
-/

namespace ResourceAccessors.Text

namespace Lines

/-! ### Texts made of lines -/

/-- There is always a piece. -/
theorem pieces_ne_nil (chars : List Char) : pieces chars ≠ [] := by
  fun_cases pieces chars <;> simp_all

/-- What stands in front of a line feed is the first piece. -/
theorem pieces_append_feed {line : List Char} (feed : '\n' ∉ line) (rest : List Char) :
    pieces (line ++ '\n' :: rest) = line :: pieces rest := by
  induction line with
  | nil => rfl
  | cons c others ih =>
    rw [List.mem_cons, not_or] at feed
    have other : c ≠ '\n' := fun same => feed.1 same.symm
    rw [List.cons_append, pieces, ih feed.2]
    exact other

/-- A piece that does not end in a carriage return is kept as it is. -/
theorem withoutReturn_eq_self {piece : List Char} (noReturn : piece.getLast? ≠ some '\r') :
    withoutReturn piece = piece := by
  fun_induction withoutReturn piece with
  | case1 => rfl
  | case2 => exact absurd rfl noReturn
  | case3 c rest other ih =>
    cases rest with
    | nil => rfl
    | cons next rest => rw [ih (by simpa using noReturn)]

/-- A piece that others follow is a line. -/
theorem ofPieces_cons (piece : List Char) {rest : List (List Char)} (more : rest ≠ []) :
    ofPieces (piece :: rest) = withoutReturn piece :: ofPieces rest := by
  cases rest with
  | nil => exact absurd rfl more
  | cons next others => rw [ofPieces] <;> simp

/-- Lines with a line feed behind each are the lines of the text that they make. -/
theorem ofPieces_pieces_flatMap {lines : List (List Char)}
    (plain : ∀ line ∈ lines, '\n' ∉ line ∧ line.getLast? ≠ some '\r') :
    ofPieces (pieces (lines.flatMap (· ++ ['\n']))) = lines := by
  induction lines with
  | nil => rfl
  | cons line rest ih =>
    obtain ⟨feed, noReturn⟩ := plain line List.mem_cons_self
    have later := ih fun other mem => plain other (List.mem_cons_of_mem _ mem)
    simp only [List.flatMap_cons, List.append_assoc, List.singleton_append]
    rw [pieces_append_feed feed, ofPieces_cons _ (pieces_ne_nil _), withoutReturn_eq_self noReturn, later]

/-! ### Parts of a text -/

/-- The first piece is the beginning of the text. -/
theorem isPrefix_of_head?_pieces {chars first : List Char} (head : (pieces chars).head? = some first) :
    first <+: chars := by
  fun_induction pieces chars generalizing first with
  | case1 => simp_all
  | case2 => simp_all
  | case3 c rest other none ih => exact absurd none (pieces_ne_nil rest)
  | case4 c rest other piece others split ih =>
    obtain rfl : c :: piece = first := by simpa using head
    exact List.cons_prefix_cons.2 ⟨rfl, ih (by rw [split]; rfl)⟩

/-- Every piece is a part of the text. -/
theorem isInfix_of_mem_pieces {chars piece : List Char} (mem : piece ∈ pieces chars) :
    piece <:+: chars := by
  fun_induction pieces chars with
  | case1 => simp_all
  | case2 rest ih =>
    rcases List.mem_cons.1 mem with rfl | later
    · exact List.nil_infix
    · exact (ih later).trans (List.suffix_cons '\n' rest).isInfix
  | case3 c rest other none ih => exact absurd none (pieces_ne_nil rest)
  | case4 c rest other first others split ih =>
    rw [split] at ih
    rcases List.mem_cons.1 mem with rfl | later
    · have front : first <+: rest := isPrefix_of_head?_pieces (by rw [split]; rfl)
      exact (List.cons_prefix_cons.2 ⟨rfl, front⟩).isInfix
    · exact (ih (List.mem_cons_of_mem _ later)).trans (List.suffix_cons c rest).isInfix

/-- Without its return a piece is a front part of itself. -/
theorem withoutReturn_isPrefix (piece : List Char) : withoutReturn piece <+: piece := by
  fun_induction withoutReturn piece with
  | case1 => exact List.nil_prefix
  | case2 => exact List.nil_prefix
  | case3 c rest other ih => exact List.cons_prefix_cons.2 ⟨rfl, ih⟩

/-- Every line of some pieces is a part of one of them. -/
theorem exists_isInfix_of_mem_ofPieces {pieces : List (List Char)} {line : List Char}
    (mem : line ∈ ofPieces pieces) : ∃ piece ∈ pieces, line <:+: piece := by
  fun_induction ofPieces pieces with
  | case1 => cases mem
  | case2 => cases mem
  | case3 last => exact ⟨line, mem, List.infix_refl line⟩
  | case4 piece rest notEmpty more ih =>
    rcases List.mem_cons.1 mem with rfl | later
    · exact ⟨piece, List.mem_cons_self, (withoutReturn_isPrefix piece).isInfix⟩
    · obtain ⟨found, foundMem, inside⟩ := ih later
      exact ⟨found, List.mem_cons_of_mem _ foundMem, inside⟩

/-! ### Normal line endings -/

/-- A character that starts no pair is kept. -/
theorem joinPairs_cons {c : Char} {rest : List Char}
    (noPair : c = '\r' → rest.head? ≠ some '\n') : joinPairs (c :: rest) = c :: joinPairs rest := by
  rw [joinPairs]
  rintro after rfl rfl
  exact noPair rfl rfl

/-- Pairs are joined in two texts apart when there is none at the joint. -/
theorem joinPairs_append {front behind : List Char}
    (noPair : front.getLast? = some '\r' → behind.head? ≠ some '\n') :
    joinPairs (front ++ behind) = joinPairs front ++ joinPairs behind := by
  fun_induction joinPairs front with
  | case1 => rfl
  | case2 rest ih =>
    have later : rest.getLast? = some '\r' → behind.head? ≠ some '\n' :=
      fun last => noPair (by simp [List.getLast?_cons, last])
    rw [List.cons_append, List.cons_append, joinPairs, ih later, List.cons_append]
  | case3 c rest other ih =>
    have later : rest.getLast? = some '\r' → behind.head? ≠ some '\n' :=
      fun last => noPair (by simp [List.getLast?_cons, last])
    have kept : c = '\r' → (rest ++ behind).head? ≠ some '\n' := by
      rintro rfl
      cases rest with
      | nil => exact noPair rfl
      | cons next rest =>
        rintro ⟨⟩
        exact other rest rfl rfl
    rw [List.cons_append, joinPairs_cons kept, ih later, List.cons_append]

/-- A text without carriage returns has no pairs, whatever stands behind it. -/
theorem joinPairs_append_of_return_notMem {front : List Char} (noReturn : '\r' ∉ front)
    (behind : List Char) : joinPairs (front ++ behind) = front ++ joinPairs behind := by
  induction front with
  | nil => rfl
  | cons c rest ih =>
    rw [List.mem_cons, not_or] at noReturn
    rw [List.cons_append, joinPairs_cons fun same => absurd same.symm noReturn.1, ih noReturn.2,
      List.cons_append]

/-- Without carriage returns there is nothing to normalize. -/
theorem joinPairs_map_of_return_notMem {chars : List Char} (noReturn : '\r' ∉ chars) :
    (joinPairs chars).map feedOf = chars := by
  have joined : joinPairs chars = chars := by
    simpa [joinPairs] using joinPairs_append_of_return_notMem noReturn []
  have kept : chars.map feedOf = chars.map id :=
    List.map_congr_left fun c mem => if_neg fun same : c = '\r' => noReturn (same ▸ mem)
  rw [joined, kept, List.map_id]

/-- The text read once from the left, where a carriage return becomes a line feed, together with the
line feed behind it if there is one. -/
def scan : List Char → List Char
  | [] => []
  | '\r' :: '\n' :: rest => '\n' :: scan rest
  | '\r' :: rest => '\n' :: scan rest
  | c :: rest => c :: scan rest

/-- Two passes, over the pairs and over the carriage returns that are left, do what one scan does. -/
theorem map_feedOf_joinPairs (chars : List Char) : (joinPairs chars).map feedOf = scan chars := by
  fun_induction scan chars with
  | case1 => rfl
  | case2 rest ih => rw [joinPairs, List.map_cons, ih]; rfl
  | case3 rest single ih =>
    have alone : rest.head? ≠ some '\n' := by
      intro head
      obtain ⟨later, rfl⟩ := List.head?_eq_some_iff.1 head
      exact single later rfl
    rw [joinPairs_cons fun _ => alone, List.map_cons, ih]
    rfl
  | case4 c rest _ other ih =>
    rw [joinPairs_cons fun same => absurd same other, List.map_cons, ih, feedOf, if_neg other]

/-- A pair at the joint of two texts is one line feed when they are read together, and two when they
are read apart. -/
theorem length_joinPairs_append {front behind : List Char} (last : front.getLast? = some '\r')
    (first : behind.head? = some '\n') :
    (joinPairs front).length + (joinPairs behind).length = (joinPairs (front ++ behind)).length + 1 := by
  obtain ⟨start, rfl⟩ := List.getLast?_eq_some_iff.1 last
  obtain ⟨rest, rfl⟩ := List.head?_eq_some_iff.1 first
  have kept : joinPairs (start ++ ['\r']) = joinPairs start ++ ['\r'] := joinPairs_append (by simp)
  have joined : joinPairs (start ++ '\r' :: '\n' :: rest) = joinPairs start ++ '\n' :: joinPairs rest :=
    joinPairs_append (by simp)
  have feed : joinPairs ('\n' :: rest) = '\n' :: joinPairs rest :=
    joinPairs_cons fun same => absurd same (by decide)
  rw [List.append_assoc, List.singleton_append, kept, joined, feed]
  simp only [List.length_append, List.length_cons, List.length_nil]
  omega

end Lines

/-- The normal form of a text, whether it has carriage returns or not. -/
theorem toList_normalizeLineEndings (text : String) :
    (normalizeLineEndings text).toList = (Lines.joinPairs text.toList).map Lines.feedOf := by
  rw [normalizeLineEndings]
  split
  next => rw [String.toList_ofList]
  next none =>
    have noReturn : '\r' ∉ text.toList := by simpa using none
    rw [Lines.joinPairs_map_of_return_notMem noReturn]

/-- A normal form has no carriage returns. -/
theorem return_notMem_normalizeLineEndings (text : String) :
    '\r' ∉ (normalizeLineEndings text).toList := by
  rw [toList_normalizeLineEndings]
  intro mem
  obtain ⟨c, -, same⟩ := List.mem_map.1 mem
  rw [Lines.feedOf] at same
  split at same
  next => cases same
  next other => exact other same

/-- A text is its own normal form when it has no carriage returns. -/
theorem normalizeLineEndings_of_return_notMem {text : String} (noReturn : '\r' ∉ text.toList) :
    normalizeLineEndings text = text := by
  have none : ¬ text.toList.contains '\r' = true := by simpa using noReturn
  rw [normalizeLineEndings, if_neg none]

/-- The normal form of two texts joined is made of theirs, unless a pair stands at the joint. -/
theorem normalizeLineEndings_append_iff (front behind : String) :
    normalizeLineEndings (front ++ behind) =
        normalizeLineEndings front ++ normalizeLineEndings behind ↔
      ¬ (front.toList.getLast? = some '\r' ∧ behind.toList.head? = some '\n') := by
  rw [← String.toList_inj, String.toList_append]
  simp only [toList_normalizeLineEndings, String.toList_append, ← List.map_append]
  constructor
  · rintro same ⟨last, first⟩
    have lengths := congrArg List.length same
    have shorter := Lines.length_joinPairs_append last first
    simp only [List.length_map, List.length_append] at lengths
    omega
  · intro noPair
    rw [Lines.joinPairs_append fun last first => noPair ⟨last, first⟩]

/-- Normalizing a text is one scan over it. The normal form has no carriage returns and is its own
normal form. The normal form of two texts joined is that of the one followed by that of the other
exactly when the joint does not split a carriage return from a line feed. -/
theorem normalizeLineEndings_eq_scan (text front behind : String) :
    normalizeLineEndings text = String.ofList (Lines.scan text.toList) ∧
    '\r' ∉ (normalizeLineEndings text).toList ∧
    normalizeLineEndings (normalizeLineEndings text) = normalizeLineEndings text ∧
    (normalizeLineEndings (front ++ behind) =
        normalizeLineEndings front ++ normalizeLineEndings behind ↔
      ¬ (front.toList.getLast? = some '\r' ∧ behind.toList.head? = some '\n')) := by
  refine ⟨?scanned, return_notMem_normalizeLineEndings text, ?again,
    normalizeLineEndings_append_iff front behind⟩
  case scanned =>
    rw [← Lines.map_feedOf_joinPairs, ← toList_normalizeLineEndings, String.ofList_toList]
  case again =>
    exact normalizeLineEndings_of_return_notMem (return_notMem_normalizeLineEndings text)

example : normalizeLineEndings "\r\r\na\n\r" = "\n\na\n\n" := by decide

/-- Every line is a part of the text. -/
theorem isInfix_of_mem_lines {text line : String} (mem : line ∈ lines text) :
    line.toList <:+: text.toList := by
  obtain ⟨chars, charsMem, rfl⟩ := List.mem_map.1 mem
  obtain ⟨piece, pieceMem, inside⟩ := Lines.exists_isInfix_of_mem_ofPieces charsMem
  rw [String.toList_ofList]
  exact inside.trans (Lines.isInfix_of_mem_pieces pieceMem)

end ResourceAccessors.Text
