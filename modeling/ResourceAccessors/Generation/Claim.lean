/-!
# Claimed keys

Several declarations may ask for one key. The first one is given the key itself, the others the
first numbered form of it that is free, where numbering starts at two.
-/

namespace ResourceAccessors.Generation

/-- The first free key among `key` and the keys numbered from `count` on, with at most `attempts`
numbered ones tried. -/
def firstFree (taken : List String) (numbered : Nat → String) (key : String) (count : Nat) :
    Nat → String
  | 0 => key
  | attempts + 1 =>
    if key ∈ taken then firstFree taken numbered (numbered count) (count + 1) attempts else key

/-- The key that is given for `base` when the keys `taken` are no longer free. One more key than
there are taken ones is tried, so that one of them is free. -/
def claim (taken : List String) (base : String) (numbered : Nat → String) : String :=
  firstFree taken numbered base 2 taken.length

/-- Give keys to some requests, one after the other: each is a base with its numbered forms. -/
def claimAll (taken : List String) : List (String × (Nat → String)) → List String
  | [] => []
  | (base, numbered) :: rest =>
    let key := claim taken base numbered
    key :: claimAll (key :: taken) rest

end ResourceAccessors.Generation
