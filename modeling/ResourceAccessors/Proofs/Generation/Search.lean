import Mathlib.Data.Finset.Card
import Mathlib.Data.Nat.Find
import Mathlib.Order.Bounds.Basic
import ResourceAccessors.Generation.Claim

/-!
# The search for a free key

To claim a key is to try the base and then its numbered forms, until one of them can be added to the
taken keys. The rules of the search bound the number of tries by nothing. It ends because it never
tries a key twice when the base and its forms are different from one another: of one more key than
there are taken ones, one is free. The first free one is the key that `claim` gives, whose bound is
never reached (`Numbering.exists_searchFor_iff`).
-/

namespace ResourceAccessors.Generation

/-! ### Searches -/

/-- What a search ends with. -/
structure Claimed where
  /-- The key that was free. -/
  key : String
  /-- The keys that are taken from then on. -/
  taken : Finset String
  /-- How many keys were tried, the free one included. -/
  attempts : Nat

/-- A search that tries a key, and behind it the keys numbered from a count on, ends with what it
claimed; the number of keys that were tried before comes third. No rule ends a search that finds
every key taken. -/
inductive Search (numbered : Nat → String) (taken : Finset String) :
    String → Nat → Nat → Claimed → Prop
  /-- A free key is added to the taken ones, which ends the search. -/
  | free {key : String} {count tried : Nat} (free : key ∉ taken) :
      Search numbered taken key count tried ⟨key, insert key taken, tried + 1⟩
  /-- Behind a taken key the next numbered one is tried. -/
  | used {key : String} {count tried : Nat} {claimed : Claimed} (used : key ∈ taken)
      (later : Search numbered taken (numbered count) (count + 1) (tried + 1) claimed) :
      Search numbered taken key count tried claimed

/-- The search for a request: its base comes first, then its keys that are numbered from two on. -/
def SearchFor (taken : Finset String) (request : String × (Nat → String)) (claimed : Claimed) :
    Prop :=
  Search request.2 taken request.1 2 0 claimed

/-- What a search for a request has to end with when the keys `taken` are taken. -/
structure Claimed.Answers (claimed : Claimed) (taken : Finset String)
    (request : String × (Nat → String)) : Prop where
  /-- It takes at most one more attempt than there are taken keys. -/
  soon : claimed.attempts ≤ taken.card + 1
  free : claimed.key ∉ taken
  /-- The key is taken from then on, and no other one besides. -/
  added : claimed.taken = insert claimed.key taken
  /-- A free base is given as it is. -/
  plain : request.1 ∉ taken → claimed.key = request.1
  /-- For a taken base, the free key with the least number is given. -/
  least : request.1 ∈ taken → ∃ count,
    IsLeast {number | 2 ≤ number ∧ request.2 number ∉ taken} count ∧ claimed.key = request.2 count

/-! ### Where a search ends -/

/-- The key that a search tries at a place, counted from zero. -/
def triedAt (numbered : Nat → String) (key : String) (count : Nat) : Nat → String
  | 0 => key
  | place + 1 => numbered (count + place)

/-- The first free key that a search tries stands at `place`. -/
structure EndsAt (numbered : Nat → String) (taken : Finset String) (key : String)
    (count place : Nat) : Prop where
  free : triedAt numbered key count place ∉ taken
  used : ∀ earlier < place, triedAt numbered key count earlier ∈ taken

section EndsAt

variable {numbered : Nat → String} {taken : Finset String} {key : String} {count tried place : Nat}
  {claimed : Claimed}

/-- One step: a search with a free key ends with it. -/
theorem search_iff_of_not_mem (free : key ∉ taken) :
    Search numbered taken key count tried claimed ↔
      claimed = ⟨key, insert key taken, tried + 1⟩ := by
  constructor
  · rintro (_ | ⟨used, _⟩)
    · rfl
    · exact absurd used free
  · rintro rfl
    exact .free free

/-- One step: a search with a taken key is the search from the next key on. -/
theorem search_iff_of_mem (used : key ∈ taken) :
    Search numbered taken key count tried claimed ↔
      Search numbered taken (numbered count) (count + 1) (tried + 1) claimed := by
  constructor
  · rintro (free | ⟨_, later⟩)
    · exact absurd used free
    · exact later
  · exact .used used

/-- What is tried behind the first key is tried by the search that goes on from the next one. -/
theorem triedAt_next (numbered : Nat → String) (key : String) (count place : Nat) :
    triedAt numbered (numbered count) (count + 1) place =
      triedAt numbered key count (place + 1) := by
  cases place with
  | zero => rfl
  | succ place => rw [triedAt, triedAt, Nat.add_right_comm, Nat.add_assoc]

/-- A search that does not end at its first key ends one place earlier from the next one on. -/
theorem EndsAt.next (ends : EndsAt numbered taken key count (place + 1)) :
    key ∈ taken ∧ EndsAt numbered taken (numbered count) (count + 1) place := by
  refine ⟨ends.used 0 (Nat.succ_pos place), ?_, fun earlier before => ?_⟩
  · rw [triedAt_next numbered key]
    exact ends.free
  · rw [triedAt_next numbered key]
    exact ends.used _ (Nat.succ_lt_succ before)

/-- A search ends with the first free key that it tries, and with nothing else. -/
theorem EndsAt.search_iff (ends : EndsAt numbered taken key count place) :
    Search numbered taken key count tried claimed ↔
      claimed = ⟨triedAt numbered key count place,
        insert (triedAt numbered key count place) taken, tried + place + 1⟩ := by
  induction place generalizing key count tried with
  | zero => exact search_iff_of_not_mem ends.free
  | succ place inductionHypothesis =>
    obtain ⟨used, next⟩ := ends.next
    rw [search_iff_of_mem used, inductionHypothesis next, triedAt_next numbered key,
      Nat.add_right_comm tried, Nat.add_assoc tried]

/-- A search with a bound gives the first free key too, if the bound lets it come that far. -/
theorem EndsAt.firstFree_eq {taken : List String} {attempts : Nat}
    (ends : EndsAt numbered taken.toFinset key count place) (enough : place ≤ attempts) :
    firstFree taken numbered key count attempts = triedAt numbered key count place := by
  induction place generalizing key count attempts with
  | zero =>
    have free : key ∉ taken := fun used => ends.free (List.mem_toFinset.2 used)
    cases attempts with
    | zero => rfl
    | succ attempts => rw [firstFree, if_neg free, triedAt]
  | succ place inductionHypothesis =>
    obtain ⟨used, next⟩ := ends.next
    cases attempts with
    | zero => exact absurd enough (Nat.not_succ_le_zero place)
    | succ attempts =>
      rw [firstFree, if_pos (List.mem_toFinset.1 used),
        inductionHypothesis next (Nat.le_of_succ_le_succ enough), triedAt_next numbered key]

/-- The first free key for a request answers it. -/
theorem EndsAt.answers {base : String} (ends : EndsAt numbered taken base 2 place)
    (bound : place ≤ taken.card) :
    Claimed.Answers
      ⟨triedAt numbered base 2 place, insert (triedAt numbered base 2 place) taken, 0 + place + 1⟩
      taken (base, numbered) where
  soon := by
    rw [Nat.zero_add]
    exact Nat.succ_le_succ bound
  free := ends.free
  added := rfl
  plain := by
    intro free
    cases place with
    | zero => rfl
    | succ place => exact absurd ends.next.1 free
  least := by
    intro used
    cases place with
    | zero => exact absurd used ends.free
    | succ place =>
      refine ⟨2 + place, ⟨⟨Nat.le_add_right 2 place, ends.free⟩, ?_⟩, rfl⟩
      rintro number ⟨fromTwo, free⟩
      by_contra smaller
      -- the key of a smaller number was tried before, so it is taken
      have among := ends.used (number - 2 + 1) (by omega)
      rw [triedAt, Nat.add_sub_cancel' fromTwo] at among
      exact free among

end EndsAt

/-! ### Every search ends -/

/-- A base and its numbered forms are different from one another. -/
structure Numbering (request : String × (Nat → String)) : Prop where
  injective : ∀ one other, request.2 one = request.2 other → one = other
  apart : ∀ count, request.2 count ≠ request.1

namespace Numbering

variable {request : String × (Nat → String)}

/-- A search never tries a key twice. -/
theorem triedAt_injective (numbering : Numbering request) (count : Nat) :
    Function.Injective (triedAt request.2 request.1 count) := by
  intro one other same
  cases one with
  | zero =>
    cases other with
    | zero => rfl
    | succ other => exact absurd same.symm (numbering.apart _)
  | succ one =>
    cases other with
    | zero => exact absurd same (numbering.apart _)
    | succ other =>
      have numbers := numbering.injective _ _ same
      omega

/-- Of one more tried key than there are taken ones, one is free. -/
theorem exists_free (numbering : Numbering request) (taken : Finset String) (count : Nat) :
    ∃ place ≤ taken.card, triedAt request.2 request.1 count place ∉ taken := by
  let tried := (Finset.range (taken.card + 1)).image (triedAt request.2 request.1 count)
  have more : taken.card < tried.card := by
    rw [Finset.card_image_of_injective _ (numbering.triedAt_injective count), Finset.card_range]
    exact Nat.lt_succ_self _
  obtain ⟨key, mem, free⟩ := Finset.exists_mem_notMem_of_card_lt_card more
  obtain ⟨place, inRange, rfl⟩ := Finset.mem_image.1 mem
  exact ⟨place, Nat.le_of_lt_succ (Finset.mem_range.1 inRange), free⟩

/-- A search ends at most as many places behind its first key as there are taken keys. -/
theorem exists_endsAt (numbering : Numbering request) (taken : Finset String) (count : Nat) :
    ∃ place ≤ taken.card, EndsAt request.2 taken request.1 count place := by
  obtain ⟨place, bound, free⟩ := numbering.exists_free taken count
  have found : ∃ place, triedAt request.2 request.1 count place ∉ taken := ⟨place, free⟩
  refine ⟨Nat.find found, (Nat.find_min' found free).trans bound, Nat.find_spec found, ?_⟩
  exact fun earlier before => not_not.1 (Nat.find_min found before)

/-- The search for a request ends with one answer to it, whose key is the one that is claimed. -/
theorem exists_searchFor_iff (numbering : Numbering request) (taken : List String) :
    ∃ claimed, (∀ ended, SearchFor taken.toFinset request ended ↔ ended = claimed) ∧
      claimed.key = claim taken request.1 request.2 ∧
      claimed.Answers taken.toFinset request := by
  obtain ⟨place, bound, ends⟩ := numbering.exists_endsAt taken.toFinset 2
  have enough : place ≤ taken.length := bound.trans taken.toFinset_card_le
  exact ⟨_, fun _ => ends.search_iff, (ends.firstFree_eq enough).symm, ends.answers bound⟩

end Numbering

end ResourceAccessors.Generation
