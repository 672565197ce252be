/-!
# Keyed collections

Values under texts, in ascending order of their keys and with no key twice.
-/

namespace ResourceAccessors

namespace Keyed

/-- The entries with `value` under `key`, in place of a value that is there. -/
def insertEntry (key : String) (value : α) : List (String × α) → List (String × α)
  | [] => [(key, value)]
  | first :: rest =>
    if key < first.1 then (key, value) :: first :: rest
    else if key = first.1 then (key, value) :: rest
    else first :: insertEntry key value rest

/-- Every key of the new entries is an old key or the inserted one. -/
theorem mem_insertEntry {key : String} {value : α} {entries : List (String × α)}
    {entry : String × α} (mem : entry ∈ insertEntry key value entries) :
    entry = (key, value) ∨ entry ∈ entries := by
  induction entries with
  | nil => simpa [insertEntry] using mem
  | cons first rest inductionHypothesis =>
    simp only [insertEntry] at mem
    split at mem
    · simpa using mem
    · split at mem
      · rcases List.mem_cons.1 mem with same | old
        · exact .inl same
        · exact .inr (List.mem_cons_of_mem _ old)
      · rcases List.mem_cons.1 mem with same | old
        · exact .inr (same ▸ List.mem_cons_self)
        · rcases inductionHypothesis old with same | older
          · exact .inl same
          · exact .inr (List.mem_cons_of_mem _ older)

/-- Inserting keeps the keys in ascending order. -/
theorem pairwise_insertEntry {key : String} {value : α} {entries : List (String × α)}
    (ascending : entries.Pairwise fun left right => left.1 < right.1) :
    (insertEntry key value entries).Pairwise fun left right => left.1 < right.1 := by
  induction entries with
  | nil => simp [insertEntry]
  | cons first rest inductionHypothesis =>
    have below := (List.pairwise_cons.1 ascending).1
    have rests := (List.pairwise_cons.1 ascending).2
    simp only [insertEntry]
    split
    next less =>
      refine List.pairwise_cons.2 ⟨fun entry mem => ?_, ascending⟩
      rcases List.mem_cons.1 mem with same | later
      · exact same ▸ less
      · exact String.lt_trans less (below entry later)
    next notLess =>
      split
      next same =>
        exact List.pairwise_cons.2 ⟨fun entry mem => same ▸ below entry mem, rests⟩
      next different =>
        refine List.pairwise_cons.2 ⟨fun entry mem => ?_, inductionHypothesis rests⟩
        rcases mem_insertEntry mem with same | old
        · have atMost : first.1 ≤ key := String.not_lt.1 notLess
          have greater : first.1 < key := by
            apply Decidable.byContradiction
            intro notGreater
            exact different (String.le_antisymm (String.not_lt.1 notGreater) atMost)
          exact same ▸ greater
        · exact below entry old

end Keyed

/-- A finite map from texts, in ascending order of its keys. -/
structure Keyed (α : Type u) where
  entries : List (String × α)
  ascending : entries.Pairwise fun left right => left.1 < right.1

namespace Keyed

/-- The map without entries. -/
def empty : Keyed α :=
  ⟨[], .nil⟩

instance : Inhabited (Keyed α) := ⟨empty⟩

instance [BEq α] : BEq (Keyed α) where
  beq left right := left.entries == right.entries

/-- The map with `value` under `key`. -/
def insert (map : Keyed α) (key : String) (value : α) : Keyed α :=
  ⟨insertEntry key value map.entries, pairwise_insertEntry map.ascending⟩

/-- The value under `key`. -/
def find? (map : Keyed α) (key : String) : Option α :=
  map.entries.lookup key

/-- Whether there is a value under `key`. -/
def contains (map : Keyed α) (key : String) : Bool :=
  (map.find? key).isSome

/-- The keys in ascending order. -/
def keys (map : Keyed α) : List String :=
  map.entries.map Prod.fst

/-- The values in the order of their keys. -/
def values (map : Keyed α) : List α :=
  map.entries.map Prod.snd

/-- The map of a list of entries; of several with one key the last one counts. -/
def ofList (entries : List (String × α)) : Keyed α :=
  entries.foldl (fun map entry => map.insert entry.1 entry.2) empty

end Keyed

end ResourceAccessors
