import ResourceAccessors.Proofs.Generation.Search

/-!
# Claimed keys are distinct

Keys that are claimed one after the other are distinct when the numbered forms of every base are.
Every base is among them, and a request that is not given its base is given a numbered form of it,
from the second one on. They are what searches that follow one another end with. Renaming all keys
renames those that are claimed.
-/

namespace ResourceAccessors.Generation

/-! ### One claim -/

variable {taken : List String} {numbered : Nat → String}

/-- The search gives the key itself, or a numbered one when the key is taken. -/
theorem firstFree_cases (key : String) (count attempts : Nat) :
    firstFree taken numbered key count attempts = key ∨
      key ∈ taken ∧ ∃ number, count ≤ number ∧
        firstFree taken numbered key count attempts = numbered number := by
  induction attempts generalizing key count with
  | zero => exact .inl rfl
  | succ attempts inductionHypothesis =>
    rw [firstFree]
    split
    next used =>
      right
      refine ⟨used, ?_⟩
      rcases inductionHypothesis (numbered count) (count + 1) with
        found | ⟨-, number, atLeast, found⟩
      · exact ⟨count, Nat.le_refl count, found⟩
      · exact ⟨number, by omega, found⟩
    · exact .inl rfl

/-- A claimed key was free. -/
theorem claim_not_mem {base : String} (numbering : Numbering (base, numbered)) :
    claim taken base numbered ∉ taken := by
  obtain ⟨claimed, -, same, answers⟩ := numbering.exists_searchFor_iff taken
  rw [← same, ← List.mem_toFinset]
  exact answers.free

/-- A base that is free is given out as it is. -/
theorem claim_of_not_mem {base : String} (free : base ∉ taken) :
    claim taken base numbered = base := by
  rcases firstFree_cases base 2 taken.length with same | ⟨used, -⟩
  · exact same
  · exact absurd used free

/-! ### All claims -/

variable {requests : List (String × (Nat → String))}

/-- One key is claimed for each request. -/
@[simp]
theorem length_claimAll : (claimAll taken requests).length = requests.length := by
  induction requests generalizing taken with
  | nil => rfl
  | cons first rest inductionHypothesis =>
    rw [claimAll, List.length_cons, List.length_cons, inductionHypothesis]

/-- Claimed keys were free. -/
theorem not_mem_of_mem_claimAll (numberings : ∀ request ∈ requests, Numbering request)
    {key : String} (mem : key ∈ claimAll taken requests) : key ∉ taken := by
  induction requests generalizing taken with
  | nil => cases mem
  | cons first rest inductionHypothesis =>
    rw [claimAll] at mem
    rcases List.mem_cons.1 mem with rfl | later
    · exact claim_not_mem (numberings first List.mem_cons_self)
    · have free := inductionHypothesis
        (fun request among => numberings request (List.mem_cons_of_mem _ among)) later
      exact fun used => free (List.mem_cons_of_mem _ used)

/-- Claimed keys are distinct. -/
theorem nodup_claimAll (numberings : ∀ request ∈ requests, Numbering request) :
    (claimAll taken requests).Nodup := by
  induction requests generalizing taken with
  | nil => exact .nil
  | cons first rest inductionHypothesis =>
    have others : ∀ request ∈ rest, Numbering request :=
      fun request among => numberings request (List.mem_cons_of_mem _ among)
    rw [claimAll, List.nodup_cons]
    refine ⟨fun again => ?_, inductionHypothesis others⟩
    exact not_mem_of_mem_claimAll others again List.mem_cons_self

/-- Every base is given to one of the requests, unless it was taken before. -/
theorem mem_claimAll_of_base {request : String × (Nat → String)} (mem : request ∈ requests) :
    request.1 ∈ taken ∨ request.1 ∈ claimAll taken requests := by
  induction requests generalizing taken with
  | nil => cases mem
  | cons first rest inductionHypothesis =>
    rw [claimAll]
    rcases List.mem_cons.1 mem with rfl | later
    · by_cases used : request.1 ∈ taken
      · exact .inl used
      · right
        rw [claim_of_not_mem used]
        exact List.mem_cons_self
    · have found : request.1 ∈ claim taken first.1 first.2 :: taken ∨
          request.1 ∈ claimAll (claim taken first.1 first.2 :: taken) rest :=
        inductionHypothesis later
      rcases found with used | given
      · rcases List.mem_cons.1 used with same | before
        · exact .inr (same ▸ List.mem_cons_self)
        · exact .inl before
      · exact .inr (List.mem_cons_of_mem _ given)

/-- A request is given its base, or a numbered form of the base from the second one on. -/
theorem claimAll_cases {key : String} {request : String × (Nat → String)}
    (mem : (key, request) ∈ (claimAll taken requests).zip requests) :
    key = request.1 ∨ ∃ count, 2 ≤ count ∧ key = request.2 count := by
  induction requests generalizing taken with
  | nil => cases mem
  | cons first rest inductionHypothesis =>
    rw [claimAll, List.zip_cons_cons] at mem
    rcases List.mem_cons.1 mem with same | later
    · cases same
      rcases firstFree_cases request.1 2 taken.length with found | ⟨-, found⟩
      · exact .inl found
      · exact .inr found
    · exact inductionHypothesis later

/-! ### Searches in turn -/

/-- Searches for some requests, one after the other, end with some keys. Each search starts from the
keys that the one before it left taken. -/
inductive Searches : Finset String → List (String × (Nat → String)) → List String → Prop
  | nil {taken : Finset String} : Searches taken [] []
  | cons {taken : Finset String} {request : String × (Nat → String)} {claimed : Claimed}
      {rest : List (String × (Nat → String))} {keys : List String}
      (first : SearchFor taken request claimed) (later : Searches claimed.taken rest keys) :
      Searches taken (request :: rest) (claimed.key :: keys)

/-- The searches for some requests end with the keys that are claimed for them. -/
theorem searches_iff {requests : List (String × (Nat → String))}
    (numberings : ∀ request ∈ requests, Numbering request) (taken : List String)
    (keys : List String) : Searches taken.toFinset requests keys ↔ keys = claimAll taken requests := by
  induction requests generalizing taken keys with
  | nil =>
    constructor
    · rintro ⟨⟩
      rfl
    · rintro rfl
      exact .nil
  | cons first rest inductionHypothesis =>
    obtain ⟨claimed, only, same, answers⟩ :=
      (numberings first List.mem_cons_self).exists_searchFor_iff taken
    have later : ∀ keys, Searches claimed.taken rest keys ↔
        keys = claimAll (claimed.key :: taken) rest := by
      rw [answers.added, ← List.toFinset_cons]
      exact inductionHypothesis
        (fun request mem => numberings request (List.mem_cons_of_mem _ mem)) _
    rw [claimAll, ← same]
    constructor
    · rintro ⟨⟩
      next ended keys begins ends =>
        obtain rfl := (only ended).1 begins
        rw [(later keys).1 ends]
    · rintro rfl
      exact .cons ((only claimed).2 rfl) ((later _).2 rfl)

/-! ### Renamed keys -/

section Rename

variable {rename : String → String} (injective : Function.Injective rename)

include injective

/-- The search for a free key commutes with renaming all keys. -/
theorem firstFree_rename (taken : List String) (numbered : Nat → String) (key : String)
    (count attempts : Nat) :
    firstFree (taken.map rename) (rename ∘ numbered) (rename key) count attempts =
      rename (firstFree taken numbered key count attempts) := by
  induction attempts generalizing key count with
  | zero => rfl
  | succ attempts inductionHypothesis =>
    rw [firstFree, firstFree]
    by_cases used : key ∈ taken
    · rw [if_pos used, if_pos (List.mem_map_of_mem used)]
      exact inductionHypothesis (numbered count) (count + 1)
    · have free : rename key ∉ taken.map rename := by
        intro mem
        obtain ⟨other, otherMem, same⟩ := List.mem_map.1 mem
        exact used (injective same ▸ otherMem)
      rw [if_neg used, if_neg free]

/-- Claiming commutes with renaming all keys. -/
theorem claimAll_rename (taken : List String) (requests : List (String × (Nat → String))) :
    claimAll (taken.map rename)
        (requests.map fun request => (rename request.1, rename ∘ request.2)) =
      (claimAll taken requests).map rename := by
  induction requests generalizing taken with
  | nil => rfl
  | cons first rest inductionHypothesis =>
    have claimed : claim (taken.map rename) (rename first.1) (rename ∘ first.2) =
        rename (claim taken first.1 first.2) := by
      rw [claim, claim, List.length_map, firstFree_rename injective]
    rw [List.map_cons, claimAll, claimAll, List.map_cons, claimed]
    exact congrArg _ (inductionHypothesis (claim taken first.1 first.2 :: taken))

end Rename

end ResourceAccessors.Generation
