import Mathlib.Data.List.Basic
import ResourceAccessors.Disk.Resolution
import ResourceAccessors.Proofs.FilePath.Join

/-!
# Entries of folders

The path of an entry has the components of its folder with the name of the entry behind them, and is
written in its shortest spelling when that of the folder is.
-/

namespace ResourceAccessors.FilePath

/-- A name that an entry of a folder can have. -/
def IsEntryName (name : String) : Prop :=
  (Component.name name).IsStep

instance (name : String) : Decidable (IsEntryName name) :=
  inferInstanceAs (Decidable (name ≠ "" ∧ name ≠ "." ∧ name ≠ ".." ∧ '/' ∉ name.toList))

section Child

variable {base : FilePath} {name : String}

/-- The piece of a name is the name. -/
theorem IsEntryName.pieces_eq (legal : IsEntryName name) : pieces name.toList = [name.toList] := by
  have noSlash : '/' ∉ name.toList := legal.2.2.2
  have alone : pieces (List.intercalate ['/'] [name.toList]) = [name.toList] :=
    pieces_intercalate (by simp) (by simpa using noSlash)
  simpa using alone

/-- A name does not start at the root. -/
theorem IsEntryName.not_isAbsolute (legal : IsEntryName name) :
    (FilePath.mk name).isAbsolute = false := by
  have noSlash : '/' ∉ name.toList := legal.2.2.2
  rw [isAbsolute]
  cases chars : name.toList with
  | nil => rfl
  | cons first rest =>
    have notSlash : first ≠ '/' := by
      rintro rfl
      simp [chars] at noSlash
    simpa using notSlash

/-- The component of a name is the name. -/
theorem IsEntryName.filterMap_pieces (legal : IsEntryName name) :
    (pieces name.toList).filterMap Component.ofPiece? = [.name name] := by
  have stands := Component.ofPiece?_spelling legal
  have spelled : (Component.name name).spelling.toList = name.toList := rfl
  rw [spelled] at stands
  rw [legal.pieces_eq, List.filterMap_cons_some stands, List.filterMap_nil]

/-- The components of an entry are those of its folder, and its name. -/
theorem components_child (base : FilePath) (legal : IsEntryName name) :
    (base.child name).components = base.components ++ [.name name] := by
  by_cases empty : base.text = ""
  · have bare : base = ⟨""⟩ := by rw [← empty]
    have joined : base.child name = ofComponents [.name name] := by
      rw [bare, child, join, legal.not_isAbsolute]
      simp [ofComponents, Component.spelling]
    have steps : ∀ component ∈ [Component.name name], component.IsStep := by
      intro component mem
      rw [List.mem_singleton.1 mem]
      exact legal
    rw [joined, components_ofComponents_steps steps, bare]
    rfl
  · rw [child, components_join legal.not_isAbsolute empty, legal.filterMap_pieces]

/-- The path of an entry of a folder's folder, in one piece. -/
theorem join_child_child (base : FilePath) {folder : String} (above : IsEntryName folder)
    (legal : IsEntryName name) :
    base.join ⟨folder ++ "/" ++ name⟩ = (base.child folder).child name := by
  obtain ⟨first, rest, chars⟩ : ∃ first rest, folder.toList = first :: rest :=
    List.exists_cons_of_ne_nil fun empty => above.1 (String.toList_inj.1 empty)
  have noSlash : '/' ∉ folder.toList := above.2.2.2
  have relative : (FilePath.mk (folder ++ "/" ++ name)).isAbsolute = false := by
    have alone := above.not_isAbsolute
    simp only [isAbsolute, chars] at alone
    simpa [isAbsolute, chars] using alone
  have closed : ∀ before : String, ¬ ((before ++ folder).isEmpty = true ∨
      (before ++ folder).toList.getLast? = some '/') := by
    rintro before (empty | slash)
    · exact above.1 (by simp_all)
    · rw [String.toList_append, List.getLast?_append_of_ne_nil _ (by simp [chars])] at slash
      exact noSlash (List.mem_of_getLast? slash)
  have outer : base.child folder =
      if base.text.isEmpty ∨ base.text.toList.getLast? = some '/' then ⟨base.text ++ folder⟩
      else ⟨base.text ++ "/" ++ folder⟩ := by
    rw [child, join, if_neg (by simp [above.not_isAbsolute])]
  have below : (base.child folder).child name = ⟨(base.child folder).text ++ "/" ++ name⟩ := by
    rw [child, join, if_neg (by simp [legal.not_isAbsolute]), if_neg]
    rw [outer]
    split
    · exact closed base.text
    · exact closed (base.text ++ "/")
  rw [below, outer, join, if_neg (by simp [relative])]
  split <;> simp only [String.append_assoc]

/-! ### Shortest spellings -/

/-- The text of components with one more behind them. -/
theorem text_ofComponents_append {all : List Component} (nonempty : all ≠ [])
    (below : all ≠ [.root]) (last : Component) :
    (ofComponents (all ++ [last])).text = (ofComponents all).text ++ "/" ++ last.spelling := by
  have split : ∀ parts : List Component, parts ≠ [] →
      "/".intercalate ((parts ++ [last]).map Component.spelling) =
        "/".intercalate (parts.map Component.spelling) ++ "/" ++ last.spelling := by
    intro parts some
    rw [List.map_append, String.intercalate_append_of_ne_nil (by simpa using some) (by simp)]
    simp
  cases all with
  | nil => exact absurd rfl nonempty
  | cons first rest =>
    cases first with
    | root =>
      have some : rest ≠ [] := by
        rintro rfl
        exact below rfl
      simp only [List.cons_append, ofComponents, split rest some]
      simp only [String.append_assoc]
    | current => exact split (.current :: rest) (by simp)
    | parent => exact split (.parent :: rest) (by simp)
    | name text => exact split (.name text :: rest) (by simp)

/-- A component is written with its spelling at the end. -/
theorem exists_text_ofComponents_append {last : Component} (notRoot : last ≠ .root)
    (all : List Component) :
    ∃ front, (ofComponents (all ++ [last])).text = front ++ last.spelling := by
  by_cases empty : all = []
  · refine ⟨"", ?_⟩
    subst empty
    cases last with
    | root => exact absurd rfl notRoot
    | _ => simp [ofComponents]
  · by_cases top : all = [.root]
    · refine ⟨"/", ?_⟩
      subst top
      simp [ofComponents]
    · exact ⟨_, text_ofComponents_append empty top last⟩

/-- The last of well-formed components is the root, the leading dot, or a step. -/
theorem WellFormed.last_cases {before : List Component} {last : Component}
    (wellFormed : WellFormed (before ++ [last])) :
    (before = [] ∧ last = .root) ∨ last = .current ∨ last.IsStep := by
  generalize whole : before ++ [last] = all at wellFormed
  have among : ∀ {first : Component} {rest : List Component}, first :: rest = before ++ [last] →
      (before = [] ∧ last = first) ∨ last ∈ rest := by
    intro first rest same
    cases before with
    | nil => exact .inl ⟨rfl, (List.cons.inj same).1.symm⟩
    | cons other others =>
      right
      rw [(List.cons.inj same).2]
      simp
  cases wellFormed with
  | rooted steps =>
    rcases among whole.symm with top | later
    · exact .inl top
    · exact .inr (.inr (steps last later))
  | here steps =>
    rcases among whole.symm with ⟨-, dot⟩ | later
    · exact .inr (.inl dot)
    · exact .inr (.inr (steps last later))
  | relative steps =>
    right
    right
    apply steps
    rw [← whole]
    simp

/-- A shortest spelling ends in a slash only when it is that of the root. -/
theorem getLast?_ofComponents_ne_slash {all : List Component} (wellFormed : WellFormed all)
    (below : all ≠ [.root]) : (ofComponents all).text.toList.getLast? ≠ some '/' := by
  rcases List.eq_nil_or_concat' all with rfl | ⟨before, last, rfl⟩
  · decide
  · have spelled : last ≠ .root ∧ last.spelling.toList ≠ [] ∧ '/' ∉ last.spelling.toList := by
      rcases wellFormed.last_cases with ⟨rfl, rfl⟩ | rfl | step
      · exact absurd rfl below
      · decide
      · refine ⟨?_, Component.spelling_ne_nil step, Component.slash_not_mem_spelling step⟩
        rintro rfl
        exact step
    obtain ⟨front, text⟩ := exists_text_ofComponents_append spelled.1 before
    rw [text, String.toList_append, List.getLast?_append_of_ne_nil _ spelled.2.1]
    intro slash
    exact spelled.2.2 (List.mem_of_getLast? slash)

/-- The last component of the path of an entry is its name. -/
theorem fileName?_child (base : FilePath) (legal : IsEntryName name) :
    (base.child name).fileName? = some name := by
  rw [fileName?, components_child base legal, List.getLast?_concat]

/-- The path of an entry of a folder in its shortest spelling. -/
theorem child_ofComponents {all : List Component} (wellFormed : WellFormed all)
    (legal : IsEntryName name) :
    (ofComponents all).child name = ofComponents (all ++ [.name name]) := by
  rw [child, join, if_neg (by simp [legal.not_isAbsolute])]
  by_cases top : all = []
  · subst top
    simp [ofComponents, Component.spelling]
  · by_cases root : all = [.root]
    · subst root
      simp [ofComponents, Component.spelling]
    · have nonempty : (ofComponents all).text ≠ "" := by
        intro empty
        have bare : ofComponents all = ⟨""⟩ := by rw [← empty]
        have none := components_ofComponents wellFormed
        rw [bare] at none
        exact top none.symm
      have open' : ¬ ((ofComponents all).text.isEmpty = true ∨
          (ofComponents all).text.toList.getLast? = some '/') := by
        rintro (empty | slash)
        · exact nonempty (by simpa using empty)
        · exact getLast?_ofComponents_ne_slash wellFormed root slash
      rw [if_neg open']
      have text := text_ofComponents_append top root (.name name)
      exact congrArg FilePath.mk text.symm

end Child

end ResourceAccessors.FilePath
