import ResourceAccessors.Proofs.Embedded.Load
import ResourceAccessors.Proofs.Embedded.Manifest
import ResourceAccessors.Sample.Queries

/-!
# What a query gives

The accessors of the crate of queries keep what they have read over all calls. A slot is unset or holds
what its accessor would put there again, so no call has a part in what a later one gives.
-/

namespace ResourceAccessors.Sample

open Embedded (LoadError Request Slot)

/-- The text of a query. -/
def queryText (fileName : String) : String :=
  (queryFiles.lookup fileName).getD ""

/-- The name under which the slot of an accessor is kept. -/
def slotKey (type : QueryType) (fileName : String) : String :=
  type.name ++ "::" ++ Accessor.name fileName type.name

/-- What the slot of an accessor holds once it is set. -/
def held (type : QueryType) (fileName : String) : String :=
  if type = .overrides ∧ Accessor.name fileName type.name = "SelectAll" then selectAllOverride
  else queryText fileName

/-- What an accessor gives. -/
def given (type : QueryType) (fileName : String) : String :=
  if type = .lowercase then Text.lower (held type fileName) else held type fileName

/-- What a call of an accessor by its qualified name gives. -/
def answerTo (qualified : String) : Except LoadError String :=
  match accessorNamed? qualified with
  | some (type, fileName) => .ok (given type fileName)
  | none => .error (.unreadable (.notFound qualified))

/-- Each slot is unset, or holds what its accessor puts there. -/
def Settled (slots : Slots) : Prop :=
  ∀ type, ∀ fileName ∈ queryFiles.map Prod.fst,
    (slots.lookup (slotKey type fileName)).getD none = none ∨
      (slots.lookup (slotKey type fileName)).getD none = some (held type fileName)

/-! ### Reading -/

/-- The identities of the queries ascend. -/
theorem ascending_manifest : manifest.Ascending := by
  show manifest.names.Pairwise fun left right => left < right
  decide +kernel

/-- Every query can be read. -/
theorem read_query {fileName : String} (mem : fileName ∈ queryFiles.map Prod.fst) :
    manifest.read (identityOf fileName) = .ok (queryText fileName) := by
  have decoded : ∀ query ∈ queryFiles,
      Text.decode? query.2.toUTF8 = some query.2 ∧ queryText query.1 = query.2 := by
    decide +kernel
  obtain ⟨query, queryMem, rfl⟩ := List.mem_map.1 mem
  obtain ⟨reads, text⟩ := decoded query queryMem
  have listed : (⟨identityOf query.1, query.2.toUTF8⟩ : Embedded.Entry) ∈ manifest.entries :=
    List.mem_toArray.2 (List.mem_map.2 ⟨query, queryMem, rfl⟩)
  rw [ascending_manifest.read_eq listed, reads, text]

/-- No two accessors have one slot. -/
theorem slotKey_inj {type other : QueryType} {fileName otherName : String}
    (mem : fileName ∈ queryFiles.map Prod.fst) (otherMem : otherName ∈ queryFiles.map Prod.fst)
    (same : slotKey type fileName = slotKey other otherName) : type = other ∧ fileName = otherName := by
  have apart : ∀ type other, ∀ fileName ∈ queryFiles.map Prod.fst,
      ∀ otherName ∈ queryFiles.map Prod.fst, slotKey type fileName = slotKey other otherName →
        type = other ∧ fileName = otherName := by
    intro type other
    cases type <;> cases other <;> decide +kernel
  exact apart type other fileName mem otherName otherMem same

/-! ### One call -/

/-- What a call of an accessor asks its slot for. -/
def requestOf (type : QueryType) (fileName : String) : Request :=
  ⟨identityOf fileName, Accessor.name fileName type.name, type.hooks,
    fun name => (manifest.read name).mapError .unreadable⟩

/-- A call loads the slot of its accessor. -/
theorem callAccessor_eq_on (slots : Slots) (type : QueryType) (fileName : String) :
    let loaded := (requestOf type fileName).on ((slots.lookup (slotKey type fileName)).getD none)
    callAccessor slots type fileName =
      (loaded.result, (slotKey type fileName, loaded.slot) :: slots) := by
  simp only [callAccessor, requestOf, Request.on, slotKey]

/-- A value is given as the type of the accessor has it. -/
theorem answer_requestOf (type : QueryType) (fileName value : String) :
    (requestOf type fileName).answer value =
      .ok (if type = .lowercase then Text.lower value else value) := by
  cases type <;> rfl

/-- An unset slot is left to the reader, unless the type has a query of its own for it. -/
theorem seen_unset (type : QueryType) (fileName : String) :
    (requestOf type fileName).seen none = .returned
      (if type = .overrides ∧ Accessor.name fileName type.name = "SelectAll"
        then some selectAllOverride else none) := by
  cases type with
  | asWritten => rfl
  | lowercase => rfl
  | overrides =>
    by_cases own : Accessor.name fileName QueryType.overrides.name = "SelectAll" <;>
      simp [Request.seen, Slot.runBefore, requestOf, QueryType.hooks, overrideSelectAll, own]

/-- A slot that is set is left as it is. -/
theorem seen_set (type : QueryType) (fileName value : String) :
    (requestOf type fileName).seen (some value) = .returned (some value) := by
  cases type <;> rfl

/-- A load of a slot that is unset or settled gives what the accessor gives, and leaves the slot settled. -/
theorem on_requestOf {type : QueryType} {fileName : String} {slot : Slot}
    (mem : fileName ∈ queryFiles.map Prod.fst)
    (settled : slot = none ∨ slot = some (held type fileName)) :
    ((requestOf type fileName).on slot).result = .ok (given type fileName) ∧
      ((requestOf type fileName).on slot).slot = some (held type fileName) := by
  have reads : (requestOf type fileName).reader (requestOf type fileName).resource =
      .ok (queryText fileName) := congrArg (Except.mapError LoadError.unreadable) (read_query mem)
  have answers : (requestOf type fileName).answer (held type fileName) = .ok (given type fileName) :=
    answer_requestOf type fileName _
  rw [Request.on_eq, reads]
  rcases settled with rfl | rfl
  · by_cases own : type = .overrides ∧ Accessor.name fileName type.name = "SelectAll"
    · rw [held, if_pos own] at answers ⊢
      rw [seen_unset, if_pos own]
      exact ⟨answers, rfl⟩
    · rw [held, if_neg own] at answers ⊢
      rw [seen_unset, if_neg own]
      exact ⟨answers, rfl⟩
  · rw [seen_set]
    exact ⟨answers, rfl⟩

/-- A call gives what the accessor gives, and leaves in its slot what it holds. -/
theorem callAccessor_eq {slots : Slots} (settled : Settled slots) (type : QueryType)
    {fileName : String} (mem : fileName ∈ queryFiles.map Prod.fst) :
    callAccessor slots type fileName = (.ok (given type fileName),
      (slotKey type fileName, some (held type fileName)) :: slots) := by
  obtain ⟨result, slot⟩ := on_requestOf mem (settled type fileName mem)
  rw [callAccessor_eq_on, result, slot]

/-- A slot that holds what its accessor puts there leaves the slots so. -/
theorem Settled.cons {slots : Slots} (settled : Settled slots) (type : QueryType) {fileName : String}
    (mem : fileName ∈ queryFiles.map Prod.fst) :
    Settled ((slotKey type fileName, some (held type fileName)) :: slots) := by
  intro other otherName otherMem
  rw [List.lookup_cons]
  by_cases same : slotKey other otherName = slotKey type fileName
  · obtain ⟨rfl, rfl⟩ := slotKey_inj otherMem mem same
    simp
  · rw [beq_false_of_ne same]
    exact settled other otherName otherMem

/-! ### All calls -/

/-- An accessor that is named has a query. -/
theorem mem_of_accessorNamed? {qualified fileName : String} {type : QueryType}
    (named : accessorNamed? qualified = some (type, fileName)) :
    fileName ∈ queryFiles.map Prod.fst := by
  obtain ⟨_, _, mem⟩ := List.mem_flatMap.1 (List.mem_of_find?_eq_some named)
  obtain ⟨query, queryMem, same⟩ := List.mem_map.1 mem
  rw [← (Prod.mk.inj same).2]
  exact List.mem_map_of_mem queryMem

/-- Where the slots are settled, each call gives what it would give by itself. -/
theorem callAll_eq {slots : Slots} (settled : Settled slots) (calls : List String) :
    callAll slots calls = calls.map answerTo := by
  induction calls generalizing slots with
  | nil => rfl
  | cons qualified rest ih =>
    rw [callAll, List.map_cons, answerTo]
    cases named : accessorNamed? qualified with
    | none => exact congrArg _ (ih settled)
    | some accessor =>
      obtain ⟨type, fileName⟩ := accessor
      have mem := mem_of_accessorNamed? named
      simp only [callAccessor_eq settled type mem]
      exact congrArg _ (ih (settled.cons type mem))

/-- Whatever accessors are called and in which order, each call gives the query as its type has it. -/
theorem callAll_eq_map (calls : List String) : callAll [] calls = calls.map answerTo :=
  callAll_eq (fun _ _ _ => .inl rfl) calls

example : given .lowercase "SelectAll.sql" = "select * from customers;\n" := by
  decide +kernel

end ResourceAccessors.Sample
