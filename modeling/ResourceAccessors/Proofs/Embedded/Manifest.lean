import ResourceAccessors.Embedded.Manifest
import ResourceAccessors.Proofs.FilePath.Order

/-!
# What the manifest of embedded resources finds

Looking a name up by bisection finds only an entry with this name. Where the names ascend it finds
every entry, so a name is found exactly when it is listed.
-/

namespace ResourceAccessors.Embedded.Manifest

/-- The names of the entries ascend. -/
def Ascending (manifest : Manifest) : Prop :=
  manifest.names.Pairwise fun left right => left < right

section Lookup

variable {manifest : Manifest} {name : String} {low high : Nat} {entry : Entry}

/-- An entry that is found is listed with the name. -/
theorem findBetween_sound (found : manifest.findBetween name low high = some entry) :
    entry ∈ manifest.entries ∧ entry.name = name := by
  fun_induction manifest.findBetween name low high with
  | case1 => cases found
  | case2 low high inside middle candidate listed same =>
    cases found
    exact ⟨Array.mem_of_getElem? listed, Std.LawfulEqOrd.eq_of_compare same⟩
  | case3 low high inside middle candidate listed less ih => exact ih found
  | case4 low high inside middle candidate listed greater ih => exact ih found
  | case5 => cases found

/-- An entry at a lower position has a lower name. -/
theorem Ascending.name_lt (ascending : manifest.Ascending) {first second : Nat} {left right : Entry}
    (leftAt : manifest.entries[first]? = some left)
    (rightAt : manifest.entries[second]? = some right) (before : first < second) :
    left.name < right.name := by
  obtain ⟨leftBound, rfl⟩ := Array.getElem?_eq_some_iff.1 leftAt
  obtain ⟨rightBound, rfl⟩ := Array.getElem?_eq_some_iff.1 rightAt
  have pairs := List.pairwise_iff_getElem.1 (List.pairwise_map.1 ascending) first second
    (by simpa using leftBound) (by simpa using rightBound) before
  simpa using pairs

/-- An entry with a lower name stands at a lower position. -/
theorem Ascending.position_lt (ascending : manifest.Ascending) {first second : Nat}
    {left right : Entry} (leftAt : manifest.entries[first]? = some left)
    (rightAt : manifest.entries[second]? = some right) (less : left.name < right.name) :
    first < second := by
  apply Nat.lt_of_not_le
  intro notBefore
  rcases Nat.lt_or_eq_of_le notBefore with after | rfl
  · exact String.lt_asymm less (ascending.name_lt rightAt leftAt after)
  · rw [leftAt] at rightAt
    cases rightAt
    exact String.lt_irrefl _ less

/-- Entries with one name are one entry. -/
theorem Ascending.eq_of_name_eq (ascending : manifest.Ascending) {first second : Nat}
    {left right : Entry} (leftAt : manifest.entries[first]? = some left)
    (rightAt : manifest.entries[second]? = some right) (same : left.name = right.name) :
    left = right := by
  rcases Nat.lt_trichotomy first second with before | rfl | after
  · exact absurd (same ▸ ascending.name_lt leftAt rightAt before) (String.lt_irrefl _)
  · rw [leftAt] at rightAt
    exact Option.some.inj rightAt
  · exact absurd (same ▸ ascending.name_lt rightAt leftAt after) (String.lt_irrefl _)

/-- An entry between two positions is found between them. -/
theorem Ascending.findBetween_complete (ascending : manifest.Ascending) {position : Nat}
    (within : high ≤ manifest.entries.size) (atLeast : low ≤ position) (below : position < high)
    (listed : manifest.entries[position]? = some entry) :
    manifest.findBetween entry.name low high = some entry := by
  fun_induction manifest.findBetween entry.name low high with
  | case1 low high inside middle missing =>
    have outside := Array.getElem?_eq_none_iff.1 missing
    omega
  | case2 low high inside middle candidate candidateAt same =>
    rw [ascending.eq_of_name_eq candidateAt listed (Std.LawfulEqOrd.eq_of_compare same)]
  | case3 low high inside middle candidate candidateAt less ih =>
    have before := ascending.position_lt candidateAt listed (compareOfLessAndEq_eq_lt.1 less)
    exact ih within before below
  | case4 low high inside middle candidate candidateAt greater ih =>
    have reversed := Std.OrientedCmp.lt_of_gt greater
    have after := ascending.position_lt listed candidateAt (compareOfLessAndEq_eq_lt.1 reversed)
    apply ih _ atLeast after
    omega
  | case5 low high outside => omega

/-- Where the names ascend, the entries that are found are those that are listed. -/
theorem Ascending.find?_eq_some_iff (ascending : manifest.Ascending) :
    manifest.find? name = some entry ↔ entry ∈ manifest.entries ∧ entry.name = name := by
  constructor
  · exact findBetween_sound
  · rintro ⟨mem, rfl⟩
    obtain ⟨position, listed⟩ := Array.mem_iff_getElem?.1 mem
    obtain ⟨bound, -⟩ := Array.getElem?_eq_some_iff.1 listed
    exact ascending.findBetween_complete (Nat.le_refl _) (Nat.zero_le _) bound listed

/-- Where the names ascend, a name is found exactly when it is listed. -/
theorem Ascending.isSome_find?_iff (ascending : manifest.Ascending) :
    (manifest.find? name).isSome ↔ name ∈ manifest.names := by
  rw [Option.isSome_iff_exists, names, List.mem_map]
  constructor
  · rintro ⟨entry, found⟩
    obtain ⟨mem, named⟩ := ascending.find?_eq_some_iff.1 found
    exact ⟨entry, Array.mem_toList_iff.2 mem, named⟩
  · rintro ⟨entry, mem, named⟩
    exact ⟨entry, ascending.find?_eq_some_iff.2 ⟨Array.mem_toList_iff.1 mem, named⟩⟩

/-! ### Reading -/

/-- A name cannot be read as not found exactly when it is not listed. -/
theorem Ascending.read_eq_notFound_iff (ascending : manifest.Ascending) :
    manifest.read name = .error (.notFound name) ↔ name ∉ manifest.names := by
  rw [← ascending.isSome_find?_iff, read]
  cases manifest.find? name with
  | none => simp
  | some entry => cases decoded : Text.decode? entry.bytes <;> simp [decoded]

/-- Reading a listed name gives the text of its bytes, or says that they hold none. -/
theorem Ascending.read_eq (ascending : manifest.Ascending) (mem : entry ∈ manifest.entries) :
    manifest.read entry.name =
      match Text.decode? entry.bytes with
      | none => .error (.notText entry.name)
      | some text => .ok text := by
  have found := ascending.find?_eq_some_iff.2 ⟨mem, rfl⟩
  cases decoded : Text.decode? entry.bytes <;> simp only [read, found, decoded]

end Lookup

end ResourceAccessors.Embedded.Manifest
