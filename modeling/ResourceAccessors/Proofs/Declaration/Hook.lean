import ResourceAccessors.Declaration.Hook
import ResourceAccessors.Proofs.Syntax.PathText

/-!
# Hooks from the crate root

A relative path starts at the module in which it is written, or at one around it, and from the crate root
the same function has another path. The path that is made is the right one unless words for a module
around it stand behind the word for the module itself, which are kept as they are, or the path leads
through a module whose name is only a word of the language once the sign of a raw identifier is left out.
-/

namespace ResourceAccessors.Declaration

open Syntax

/-- A path that starts at the module in which it is written, or at one around it. -/
structure RelativePath where
  /-- Whether the word for the module itself stands in front. -/
  fromSelf : Bool
  /-- How many words for the module around one stand behind it. -/
  climbs : Nat
  names : List String
  leads : names ≠ []
  identifiers : ∀ name ∈ names, IsName name

namespace RelativePath

variable (hook : RelativePath)

/-- The words of the path in the order in which they are written. -/
def words : List String :=
  (if hook.fromSelf then ["self"] else []) ++ List.replicate hook.climbs "super" ++ hook.names

/-- The words from the crate root on that lead to what the path names in a module. -/
def target (modulePath : List String) : List String :=
  "crate" :: modulePath.take (modulePath.length - hook.climbs) ++ hook.names

/-- Whether a result is the path from the crate root to what the relative path names in a module. -/
structure Resolves (modulePath : List String) (result : Option String) : Prop where
  /-- Only a path that leaves the crate has none. -/
  none_iff : result = none ↔ modulePath.length < hook.climbs
  eq_target : ∀ path ∈ result, path = pathText (hook.target modulePath)
  /-- No word for the module itself or for the one around it is left. -/
  absolute : ∀ path ∈ result, ∃ words, pathOf? path = some ⟨false, false, plainSegments words⟩ ∧
    "self" ∉ words ∧ "super" ∉ words
  /-- The path means the same in every module. -/
  stable : ∀ path ∈ result, ∀ other, (hook? path other).value = some path

end RelativePath

/-- A word that a module can be called by, with the sign of a raw identifier or without it. -/
structure IsModuleName (name : String) : Prop where
  word : IsWord name
  free : name ∉ neverRaw

/-- The word `self` is one for a parser. -/
theorem isWord_self : IsWord "self" :=
  .plain (by decide)

/-- The word `super` is one for a parser. -/
theorem isWord_super : IsWord "super" :=
  .plain (by decide)

/-! ### What is made of a path -/

/-- A path of words is made one from the crate root by its words. -/
theorem hook?_of_parsed {text : String} {words : List String}
    (parsed : pathOf? (Text.trim text) = some ⟨false, false, plainSegments words⟩)
    (modulePath : List String) :
    (hook? text modulePath).value = (fromCrateRoot? words modulePath).map pathText := by
  have named : (plainSegments words).map (·.name) = words := by
    simp [plainSegments, Function.comp_def]
  have plain : CodePath.isPlain ⟨false, false, plainSegments words⟩ = true := by
    simp [CodePath.isPlain, plainSegments]
  rw [hook?, hookPath, parsed]
  simp only [plain, named]
  cases fromCrateRoot? words modulePath <;> rfl

/-- A path that starts with an identifier or a word for the module around is made one from the crate root
by leaving as many modules as it says. -/
theorem fromCrateRoot?_climbs (climbs : Nat) {names : List String} (leads : names ≠ [])
    (identifiers : ∀ name ∈ names, IsName name) (modulePath : List String) :
    fromCrateRoot? (List.replicate climbs "super" ++ names) modulePath =
      if climbs ≤ modulePath.length then
        some ("crate" :: modulePath.take (modulePath.length - climbs) ++ names)
      else none := by
  obtain ⟨first, others, rfl⟩ := List.exists_cons_of_ne_nil leads
  have free := (identifiers first List.mem_cons_self).free
  have differs : ∀ word ∈ keywords, first ≠ word := fun word mem same => free (same ▸ mem)
  have counted : ((List.replicate climbs "super" ++ first :: others).takeWhile
      (· == "super")).length = climbs := by
    rw [List.takeWhile_append_of_pos (by simp), List.takeWhile_cons_of_neg]
    · simp
    · simpa using differs "super" (by decide)
  have starts : ∀ word ∈ ["Self", "crate", "self"],
      (List.replicate climbs "super" ++ first :: others).head? ≠ some word := by
    intro word mem
    cases climbs with
    | zero =>
      have keyword : word ∈ keywords := by
        revert word
        decide
      simpa using differs word keyword
    | succ climbs =>
      rw [List.replicate_succ, List.cons_append, List.head?_cons]
      revert word
      decide
  unfold fromCrateRoot?
  split
  next same => exact absurd (by rw [same]; rfl) (starts "Self" (by decide))
  next same => exact absurd (by rw [same]; rfl) (starts "crate" (by decide))
  next same => exact absurd (by rw [same]; rfl) (starts "self" (by decide))
  next =>
    dsimp only
    rw [counted]
    simp

namespace RelativePath

variable (hook : RelativePath) {text : String}

/-- Every relative path is parsed as it is written. -/
theorem pathOf?_words :
    pathOf? (Text.trim (pathText hook.words)) = some ⟨false, false, plainSegments hook.words⟩ := by
  have known : ∀ word ∈ hook.words, IsWord word ∧ IsSegment word := by
    intro word mem
    rcases List.mem_append.1 mem with relative | named
    · rcases List.mem_append.1 relative with self | climb
      · have same : word = "self" := by
          split at self
          · exact List.mem_singleton.1 self
          · cases self
        exact same ▸ ⟨isWord_self, by decide⟩
      · exact List.eq_of_mem_replicate climb ▸ ⟨isWord_super, by decide⟩
    · exact ⟨(hook.identifiers word named).word, (hook.identifiers word named).isSegment⟩
  obtain ⟨first, others, same⟩ : ∃ first others, hook.words = first :: others := by
    apply List.exists_cons_of_ne_nil
    simp [words, hook.leads]
  rw [same] at known ⊢
  have areWords : ∀ word ∈ first :: others, IsWord word := fun word mem => (known word mem).1
  rw [trim_pathText areWords]
  exact (pathOf?_pathText_eq_some_iff areWords).2 ⟨rfl, fun word mem => (known word mem).2⟩

/-- Behind the word for the module itself, the words for the module around it are kept as they are. -/
theorem value_hook?
    (parsed : pathOf? (Text.trim text) = some ⟨false, false, plainSegments hook.words⟩)
    (modulePath : List String) :
    (hook? text modulePath).value =
      if hook.fromSelf then
        some (pathText ("crate" :: modulePath ++ List.replicate hook.climbs "super" ++ hook.names))
      else if hook.climbs ≤ modulePath.length then some (pathText (hook.target modulePath))
      else none := by
  rw [hook?_of_parsed parsed, words]
  cases hook.fromSelf with
  | true => simp [fromCrateRoot?]
  | false =>
    have made := fromCrateRoot?_climbs hook.climbs hook.leads hook.identifiers modulePath
    simp only [Bool.false_eq_true, if_false, List.nil_append, made]
    split <;> rfl

/-- Without words for the module around behind the one for the module itself, the path is the one that
leads to what it names. -/
theorem value_hook?_of_direct
    (parsed : pathOf? (Text.trim text) = some ⟨false, false, plainSegments hook.words⟩)
    (direct : ¬ (hook.fromSelf = true ∧ 0 < hook.climbs)) (modulePath : List String) :
    (hook? text modulePath).value =
      if hook.climbs ≤ modulePath.length then some (pathText (hook.target modulePath)) else none := by
  rw [hook.value_hook? parsed]
  split
  next fromSelf =>
    have still : hook.climbs = 0 := by
      by_contra climbs
      exact direct ⟨fromSelf, Nat.pos_of_ne_zero climbs⟩
    simp [target, still]
  next => rfl

/-- The words that lead to what the path names are words of a source. -/
theorem isWord_of_mem_target {modulePath : List String}
    (modules : ∀ name ∈ modulePath, IsModuleName name) :
    ∀ word ∈ hook.target modulePath, IsWord word := by
  intro word mem
  rcases List.mem_cons.1 mem with rfl | behind
  · exact isWord_crate
  rcases List.mem_append.1 behind with outer | inner
  · exact (modules word (List.mem_of_mem_take outer)).word
  · exact (hook.identifiers word inner).word

/-- They do not hold the word for the module itself, nor that for the module around it. -/
theorem not_mem_target {modulePath : List String}
    (modules : ∀ name ∈ modulePath, IsModuleName name) {word : String}
    (relative : word ∈ ["self", "super"]) : word ∉ hook.target modulePath := by
  have known : word ≠ "crate" ∧ word ∈ neverRaw ∧ word ∈ keywords := by
    revert word
    decide
  obtain ⟨root, neverName, keyword⟩ := known
  intro mem
  rcases List.mem_cons.1 mem with same | behind
  · exact root same
  rcases List.mem_append.1 behind with outer | inner
  · exact (modules word (List.mem_of_mem_take outer)).free neverName
  · exact (hook.identifiers word inner).free keyword

/-- The words for the module around a module that are kept are read back as such. -/
theorem not_resolves_of_climbs
    (parsed : pathOf? (Text.trim text) = some ⟨false, false, plainSegments hook.words⟩)
    {modulePath : List String} (modules : ∀ name ∈ modulePath, IsModuleName name)
    (fromSelf : hook.fromSelf = true) (climbs : 0 < hook.climbs) :
    ¬ hook.Resolves modulePath (hook? text modulePath).value := by
  intro resolves
  have areWords : ∀ word ∈ "crate" :: (modulePath ++ List.replicate hook.climbs "super" ++
      hook.names), IsWord word := by
    intro word mem
    rcases List.mem_cons.1 mem with rfl | behind
    · exact isWord_crate
    rcases List.mem_append.1 behind with outer | inner
    · rcases List.mem_append.1 outer with around | climb
      · exact (modules word around).word
      · exact List.eq_of_mem_replicate climb ▸ isWord_super
    · exact (hook.identifiers word inner).word
  have value := hook.value_hook? parsed modulePath
  rw [if_pos fromSelf] at value
  obtain ⟨words, read, -, noSuper⟩ := resolves.absolute _ value
  obtain ⟨rfl, -⟩ := (pathOf?_pathText_eq_some_iff areWords).1 (by simpa using read)
  apply noSuper
  simp [Nat.ne_of_gt climbs]

/-- A path that is read back leads through modules whose names can stand in a path. -/
theorem Resolves.isSegment
    (parsed : pathOf? (Text.trim text) = some ⟨false, false, plainSegments hook.words⟩)
    {modulePath : List String} (modules : ∀ name ∈ modulePath, IsModuleName name)
    (direct : ¬ (hook.fromSelf = true ∧ 0 < hook.climbs))
    (resolves : hook.Resolves modulePath (hook? text modulePath).value) :
    ∀ name ∈ modulePath.take (modulePath.length - hook.climbs), IsSegment name := by
  intro name mem
  have stays : hook.climbs ≤ modulePath.length := by
    by_contra leaves
    rw [Nat.sub_eq_zero_of_le (by omega), List.take_zero] at mem
    cases mem
  have value := hook.value_hook?_of_direct parsed direct modulePath
  rw [if_pos stays] at value
  obtain ⟨words, read, -⟩ := resolves.absolute _ value
  obtain ⟨rfl, segments⟩ :=
    (pathOf?_pathText_eq_some_iff (hook.isWord_of_mem_target modules)).1 read
  exact segments name (List.mem_cons_of_mem _ (List.mem_append_left _ mem))

/-- Otherwise the path is the one from the crate root to what the relative path names. -/
theorem resolves_of_direct
    (parsed : pathOf? (Text.trim text) = some ⟨false, false, plainSegments hook.words⟩)
    {modulePath : List String} (modules : ∀ name ∈ modulePath, IsModuleName name)
    (direct : ¬ (hook.fromSelf = true ∧ 0 < hook.climbs))
    (kept : ∀ name ∈ modulePath.take (modulePath.length - hook.climbs), IsSegment name) :
    hook.Resolves modulePath (hook? text modulePath).value := by
  have areWords := hook.isWord_of_mem_target modules
  have segments : ∀ word ∈ hook.target modulePath, IsSegment word := by
    intro word mem
    rcases List.mem_cons.1 mem with rfl | behind
    · decide
    rcases List.mem_append.1 behind with outer | inner
    · exact kept word outer
    · exact (hook.identifiers word inner).isSegment
  have read : pathOf? (pathText (hook.target modulePath)) =
      some ⟨false, false, plainSegments (hook.target modulePath)⟩ :=
    (pathOf?_pathText_eq_some_iff areWords).2 ⟨rfl, segments⟩
  have trimmed : Text.trim (pathText (hook.target modulePath)) =
      pathText (hook.target modulePath) := trim_pathText areWords
  have value := hook.value_hook?_of_direct parsed direct modulePath
  have made : ∀ path ∈ (hook? text modulePath).value, path = pathText (hook.target modulePath) := by
    intro path mem
    rw [value, Option.mem_ite_none_right] at mem
    exact (Option.some.inj mem.2).symm
  constructor
  · rw [value]
    split
    next stays =>
      constructor
      · rintro ⟨⟩
      · exact fun leaves => absurd leaves (Nat.not_lt.2 stays)
    next leaves => exact ⟨fun _ => Nat.not_le.1 leaves, fun _ => rfl⟩
  · exact made
  · intro path mem
    rw [made path mem]
    exact ⟨_, read, hook.not_mem_target modules (by decide), hook.not_mem_target modules (by decide)⟩
  · intro path mem other
    rw [← trimmed] at read
    rw [made path mem, hook?_of_parsed read]
    rfl

/-- A relative path is made the path from the crate root to what it names, exactly when no word for a
module around stands behind the one for the module itself, and the names of the modules on the way can
stand in a path. -/
theorem resolves_iff
    (parsed : pathOf? (Text.trim text) = some ⟨false, false, plainSegments hook.words⟩)
    {modulePath : List String} (modules : ∀ name ∈ modulePath, IsModuleName name) :
    hook.Resolves modulePath (hook? text modulePath).value ↔
      ¬ (hook.fromSelf = true ∧ 0 < hook.climbs) ∧
        ∀ name ∈ modulePath.take (modulePath.length - hook.climbs), IsSegment name := by
  constructor
  · intro resolves
    have direct : ¬ (hook.fromSelf = true ∧ 0 < hook.climbs) := fun ⟨fromSelf, climbs⟩ =>
      hook.not_resolves_of_climbs parsed modules fromSelf climbs resolves
    exact ⟨direct, resolves.isSegment hook parsed modules direct⟩
  · rintro ⟨direct, kept⟩
    exact hook.resolves_of_direct parsed modules direct kept

end RelativePath

/-! ### Two paths in nested modules -/

/-- The function `f` of the module around the one around this one. -/
def grandparentHook : RelativePath where
  fromSelf := false
  climbs := 2
  names := ["f"]
  leads := by decide
  identifiers := by
    intro name mem
    rw [List.mem_singleton.1 mem]
    exact ⟨.plain (by decide), by decide⟩

/-- The function `f` of the module around this one, with the word for this one in front. -/
def parentHook : RelativePath :=
  { grandparentHook with fromSelf := true, climbs := 1 }

/-- The names of the sample modules are names of modules. -/
theorem isModuleName_of_mem_sample : ∀ name ∈ ["a", "b", "c"], IsModuleName name := by
  intro name mem
  have letters : Accessor.IsIdentifier name.toList ∧ name ∉ neverRaw := by
    revert name
    decide
  exact ⟨.plain letters.1, letters.2⟩

/-- A hook two modules up is found there. -/
theorem resolves_grandparentHook :
    (∀ name ∈ ["a", "b", "c"], IsModuleName name) ∧
      pathOf? (Text.trim "super::super::f") =
        some ⟨false, false, plainSegments grandparentHook.words⟩ ∧
      grandparentHook.Resolves ["a", "b", "c"] (hook? "super::super::f" ["a", "b", "c"]).value := by
  have written : "super::super::f" = pathText grandparentHook.words := by decide
  have parsed : pathOf? (Text.trim "super::super::f") =
      some ⟨false, false, plainSegments grandparentHook.words⟩ := by
    rw [written]
    exact grandparentHook.pathOf?_words
  refine ⟨isModuleName_of_mem_sample, parsed, ?_⟩
  apply (grandparentHook.resolves_iff parsed isModuleName_of_mem_sample).2
  decide

/-- The function `crate::a::f` is named in the module `crate::a::b`, and the path that is made is none. -/
theorem not_resolves_parentHook :
    parentHook.target ["a", "b"] = ["crate", "a", "f"] ∧
      (hook? "self::super::f" ["a", "b"]).value = some "crate::a::b::super::f" ∧
      ¬ parentHook.Resolves ["a", "b"] (hook? "self::super::f" ["a", "b"]).value := by
  have written : "self::super::f" = pathText parentHook.words := by decide
  have parsed : pathOf? (Text.trim "self::super::f") =
      some ⟨false, false, plainSegments parentHook.words⟩ := by
    rw [written]
    exact parentHook.pathOf?_words
  have modules : ∀ name ∈ ["a", "b"], IsModuleName name := fun name mem =>
    isModuleName_of_mem_sample name (List.mem_append_left ["c"] mem)
  refine ⟨rfl, ?_, parentHook.not_resolves_of_climbs parsed modules rfl (by decide)⟩
  rw [parentHook.value_hook? parsed]
  decide

end ResourceAccessors.Declaration
