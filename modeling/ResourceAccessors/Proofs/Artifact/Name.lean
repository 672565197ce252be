import Mathlib.Data.List.Basic
import ResourceAccessors.Generation.Pass
import ResourceAccessors.Proofs.Generation.Claim

/-!
# Numbered keys and names

There are two schemes of numbering: behind a key, and between the stem of a name and its suffix. By
either the numbers tell the keys apart, whatever the base is. So every search for a key ends, and the
keys that are given out are distinct, also where a base is what another one would be numbered as
(`searches_end_distinct`). No numbered name is the name of the manifest or of the index.
-/

namespace ResourceAccessors

/-- A number is told by its digits. -/
theorem toString_injective {one other : Nat} (same : toString one = toString other) :
    one = other := by
  have digits : Nat.toDigits 10 one = Nat.toDigits 10 other := by
    simpa only [Nat.toString_eq_repr, Nat.toList_repr] using congrArg String.toList same
  have values := congrArg (fun digits => Nat.ofDigitChars 10 digits 0) digits
  simpa using values

namespace Artifact

/-- Numbered names tell their numbers. -/
theorem numberedName_injective {stem : String} {one other : Nat}
    (same : numberedName stem one = numberedName stem other) : one = other := by
  rw [numberedName, numberedName, String.append_left_inj, String.append_right_inj] at same
  exact toString_injective same

/-- A numbered name has the stem, a dot and the number in front of its suffix. -/
theorem eq_of_numberedName_eq {stem other : String} {count : Nat}
    (same : numberedName stem count = other ++ suffix) :
    other = stem ++ "." ++ toString count := by
  rw [numberedName, String.append_left_inj] at same
  exact same.symm

/-- What stands in front of the suffix of artifacts. A name that does not end in it is its own stem. -/
def stemOf (name : String) : String :=
  ((name.toList.dropSuffix? suffix.toList).map String.ofList).getD name

/-- Without the suffix of artifacts the stem is left. -/
@[simp]
theorem stemOf_append (stem : String) : stemOf (stem ++ suffix) = stem := by
  have front : (stem ++ suffix).toList.dropSuffix? suffix.toList = some stem.toList :=
    List.dropSuffix?_eq_some_iff.2 ⟨suffix.toList, String.toList_append, beq_self_eq_true _⟩
  rw [stemOf, front, Option.map_some, String.ofList_toList, Option.getD_some]

/-- No name is one of its own numbered forms. -/
theorem numberedName_stemOf_ne (name : String) (count : Nat) :
    numberedName (stemOf name) count ≠ name := by
  intro same
  have longer : stemOf name = stemOf name ++ "." ++ toString count := by
    conv_lhs => rw [← same, numberedName, stemOf_append]
  have chars := congrArg String.toList longer
  simp at chars

/-- A numbered name is no name with a stem that has no dot. -/
theorem numberedName_ne {plain : String} (noDot : '.' ∉ plain.toList) (stem : String)
    (count : Nat) : numberedName stem count ≠ plain ++ suffix := by
  intro same
  have chars := congrArg String.toList (eq_of_numberedName_eq same)
  have dot : '.' ∈ plain.toList := by
    rw [chars]
    simp
  exact noDot dot

/-- No numbered name is the name of the manifest. -/
theorem numberedName_ne_manifestName (stem : String) (count : Nat) :
    numberedName stem count ≠ manifestName := by
  have plain : manifestName = "_embedded_resource_reader" ++ suffix := by decide
  rw [plain]
  exact numberedName_ne (by decide) stem count

/-- No numbered name is the name of the index. -/
theorem numberedName_ne_indexName (stem : String) (count : Nat) :
    numberedName stem count ≠ indexName := by
  have plain : indexName = "embedded_resources" ++ suffix := by decide
  rw [plain]
  exact numberedName_ne (by decide) stem count

/-- The names of the manifest and the index. -/
def reservedNames : List String :=
  [manifestName, indexName]

/-- The two reserved names are different. -/
theorem nodup_reservedNames : reservedNames.Nodup := by decide

/-- No numbered name is reserved. -/
theorem numberedName_not_reserved (stem : String) (count : Nat) :
    numberedName stem count ∉ reservedNames := by
  rw [reservedNames, List.mem_cons, List.mem_singleton]
  rintro (manifest | index)
  · exact numberedName_ne_manifestName stem count manifest
  · exact numberedName_ne_indexName stem count index

end Artifact

namespace Generation

/-- The ways to number the keys of a base. -/
inductive Scheme
  /-- The number stands behind the base. -/
  | behind
  /-- The number stands between the stem of the base and the suffix of artifacts. -/
  | beforeSuffix

/-- A base with its numbered keys. -/
def Scheme.request (scheme : Scheme) (base : String) : String × (Nat → String) :=
  match scheme with
  | behind => (base, fun count => base ++ "#" ++ toString count)
  | beforeSuffix => (base, Artifact.numberedName (Artifact.stemOf base))

/-- The first key that is asked for is the plain one. -/
@[simp]
theorem Scheme.request_fst (scheme : Scheme) (base : String) : (scheme.request base).1 = base := by
  cases scheme <;> rfl

/-- By either scheme the keys of a base are told apart by their numbers. -/
theorem Scheme.numbering (scheme : Scheme) (base : String) : Numbering (scheme.request base) := by
  cases scheme with
  | behind =>
    refine ⟨fun one other same => ?_, fun count same => ?_⟩
    · have numbers : base ++ "#" ++ toString one = base ++ "#" ++ toString other := same
      rw [String.append_right_inj] at numbers
      exact toString_injective numbers
    · have longer : base ++ "#" ++ toString count = base := same
      have chars := congrArg String.toList longer
      simp at chars
  | beforeSuffix =>
    exact ⟨fun _ _ same => Artifact.numberedName_injective same, Artifact.numberedName_stemOf_ne base⟩

/-- The keys of a declaration are numbered behind its base. -/
theorem siteRequest_eq (site : Declaration.Site) :
    siteRequest site = Scheme.behind.request (siteKey site) :=
  rfl

/-- The names of an artifact are numbered before their suffix. -/
theorem artifactRequest_eq (plan : Plan) :
    artifactRequest plan = Scheme.beforeSuffix.request (Artifact.nameFor plan.site.display) := by
  rw [artifactRequest, Scheme.request, Artifact.nameFor, Artifact.stemOf_append]

/-- The keys that a declaration asks for are told apart by their numbers. -/
theorem numbering_siteRequest (site : Declaration.Site) : Numbering (siteRequest site) :=
  siteRequest_eq site ▸ Scheme.numbering ..

/-- The names that an artifact may have are told apart by their numbers. -/
theorem numbering_artifactRequest (plan : Plan) : Numbering (artifactRequest plan) :=
  artifactRequest_eq plan ▸ Scheme.numbering ..

/-- The keys of the plans of a pass are distinct. -/
theorem nodup_siteKeys (sites : List Declaration.Site) :
    (claimAll [] (sites.map siteRequest)).Nodup := by
  refine nodup_claimAll fun request mem => ?_
  obtain ⟨site, -, rfl⟩ := List.mem_map.1 mem
  exact numbering_siteRequest site

/-- The names of the artifacts of a pass are distinct. -/
theorem nodup_artifactNames (plans : List Plan) :
    (claimAll [] (plans.map artifactRequest)).Nodup := by
  refine nodup_claimAll fun request mem => ?_
  obtain ⟨plan, -, rfl⟩ := List.mem_map.1 mem
  exact numbering_artifactRequest plan

/-- By either scheme, the search for a base ends whatever keys are taken, and in one way only. It makes
at most one more attempt than there are taken keys. Its key is the one that is claimed: the base if
that is free, and otherwise the free one with the least number from two on; it alone is taken besides.
Searches that follow one another from no taken keys on end with as many keys, those that are claimed,
and these are distinct. -/
theorem searches_end_distinct (scheme : Scheme) (base : String) (taken : List String)
    (requests : List (Scheme × String)) :
    (∃ claimed,
      (∀ ended, SearchFor taken.toFinset (scheme.request base) ended ↔ ended = claimed) ∧
      claimed.key = claim taken base (scheme.request base).2 ∧
      claimed.Answers taken.toFinset (scheme.request base)) ∧
    ∃ keys,
      (∀ ended, Searches ∅ (requests.map fun request => request.1.request request.2) ended ↔
        ended = keys) ∧
      keys = claimAll [] (requests.map fun request => request.1.request request.2) ∧
      keys.length = requests.length ∧
      keys.Nodup := by
  have numberings : ∀ request ∈ requests.map fun request => request.1.request request.2,
      Numbering request := by
    intro request mem
    obtain ⟨⟨scheme, base⟩, -, rfl⟩ := List.mem_map.1 mem
    exact scheme.numbering base
  refine ⟨?one, claimAll [] _, searches_iff numberings [], rfl, ?many, nodup_claimAll numberings⟩
  case one =>
    have found := (scheme.numbering base).exists_searchFor_iff taken
    rwa [scheme.request_fst] at found
  case many => rw [length_claimAll, List.length_map]

example : claimAll [] (["a", "a#2", "a"].map Scheme.behind.request) = ["a", "a#2", "a#3"] := by
  decide

end Generation

end ResourceAccessors
