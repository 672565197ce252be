import ResourceAccessors.Generation.Step
import ResourceAccessors.Proofs.Keyed
import ResourceAccessors.Proofs.Spelling

/-!
# What a tracked step computes

The records that a step leaves and the reasons that it gives, as expressions in its items and the
previous records. A step asks once for each item whether to go on. A step whose previous outputs agree
with what it computes leaves the records that it would leave without any previous ones, up to the
spelling of paths; a step that runs again over the same items leaves what it left before.
-/

namespace ResourceAccessors.Generation

namespace Cancellation

/-- Ask some times whether to go on. -/
def spend : Nat → Cancellation → Except Failure Cancellation
  | 0, token => .ok token
  | count + 1, token => token.check >>= spend count

/-- Nothing is spent on no items. -/
@[simp]
theorem spend_zero (token : Cancellation) : token.spend 0 = .ok token := rfl

/-- A pass that is never cancelled may ask any number of times. -/
@[simp]
theorem spend_never (count : Nat) : never.spend count = .ok never := by
  induction count with
  | zero => rfl
  | succ count inductionHypothesis => exact inductionHypothesis

/-- Asking some times and then again asks as many times together. -/
theorem spend_add (first second : Nat) (token : Cancellation) :
    token.spend (first + second) = token.spend first >>= spend second := by
  induction first generalizing token with
  | zero =>
    rw [Nat.zero_add, spend_zero]
    rfl
  | succ first inductionHypothesis =>
    rw [Nat.succ_add, spend, spend]
    cases token.check with
    | error failure => rfl
    | ok left => exact inductionHypothesis left

end Cancellation

namespace Step

variable {Input Output : Type}

/-- A computation of two parts succeeds when both do. -/
theorem exists_of_bind_eq_ok {ε α β : Type} {first : Except ε α} {next : α → Except ε β}
    {result : β} (succeeds : (first >>= next) = .ok result) :
    ∃ value, first = .ok value ∧ next value = .ok result := by
  cases first with
  | error failure => cases succeeds
  | ok value => exact ⟨value, rfl, succeeds⟩

/-- A computation continued after a function was applied to its value. -/
theorem map_bind {ε α β γ : Type} (first : Except ε α) (f : α → β) (next : β → Except ε γ) :
    first.map f >>= next = first >>= fun value => next (f value) := by
  cases first <;> rfl

/-- A function applied to the value of two parts is applied to that of the second. -/
theorem bind_map {ε α β γ : Type} (first : Except ε α) (next : α → Except ε β) (f : β → γ) :
    (first >>= next).map f = first >>= fun value => (next value).map f := by
  cases first <;> rfl

/-! ### The records of a run -/

section Records

variable [BEq Input] [BEq Output] (compute : Input → Output)
  (previous : Keyed (Record Input Output))

/-- The record of an item, under its key. -/
def recordOf (item : String × Input) : String × Record Input Output :=
  (item.1, ⟨item.2, (outputFor compute (previous.find? item.1) item.2).1⟩)

/-- The records for some items: one for each key, where of several items under it the last counts. -/
def recordsOf (items : List (String × Input)) : Keyed (Record Input Output) :=
  Keyed.ofList (items.map (recordOf compute previous))

/-- The reason for an item, under its key. -/
def reasonOf (item : String × Input) : String × Reason :=
  (item.1, (outputFor compute (previous.find? item.1) item.2).2)

/-- The reasons for some items, and those for the previous records that are given up. -/
def reasonsOf (items : List (String × Input)) : Keyed Reason :=
  (previous.keys.filter fun key => !(recordsOf compute previous items).contains key).foldl
    (fun reasons key => reasons.insert key .removed)
    (Keyed.ofList (items.map (reasonOf compute previous)))

/-- Items are added one after the other, and each is asked for. -/
theorem addAll_eq (items : List (String × Input)) (step : Step Input Output)
    (token : Cancellation) :
    addAll compute previous items step token = (token.spend items.length).map fun rest =>
      (⟨(items.map (recordOf compute previous)).foldl (fun map item => map.insert item.1 item.2)
          step.records,
        (items.map (reasonOf compute previous)).foldl (fun map item => map.insert item.1 item.2)
          step.reasons⟩, rest) := by
  induction items generalizing step token with
  | nil => rfl
  | cons first others inductionHypothesis =>
    rw [addAll, List.length_cons, Cancellation.spend]
    cases token.check with
    | error failure => rfl
    | ok left => exact inductionHypothesis (step.add compute previous first.1 first.2) left

/-- A run leaves the records for its items and gives the reasons for them, unless it is cancelled at
one of the items. -/
theorem run_eq (items : List (String × Input)) (token : Cancellation) :
    run compute previous items token = (token.spend items.length).map fun rest =>
      (⟨recordsOf compute previous items, reasonsOf compute previous items⟩, rest) := by
  rw [run, addAll_eq]
  cases token.spend items.length <;> rfl

/-- A run leaves one step, whenever it may be cancelled. -/
theorem exists_run_eq (items : List (String × Input)) :
    ∃ step : Step Input Output, step.records = recordsOf compute previous items ∧
      step.reasons = reasonsOf compute previous items ∧
      ∀ token, run compute previous items token =
        (token.spend items.length).map fun rest => (step, rest) :=
  ⟨_, rfl, rfl, run_eq compute previous items⟩

/-- An output is computed, or it was stored for an equal input. -/
theorem outputFor_cases (key : String) (input : Input) :
    (outputFor compute (previous.find? key) input).1 = compute input ∨
      ∃ record, (key, record) ∈ previous.entries ∧ (record.input == input) = true ∧
        (outputFor compute (previous.find? key) input).1 = record.output := by
  cases found : previous.find? key with
  | none => exact .inl rfl
  | some record =>
    by_cases same : (record.input == input) = true
    · refine .inr ⟨record, Keyed.find?_eq_some_iff.1 found, same, ?_⟩
      rw [outputFor, if_pos same]
    · left
      rw [outputFor, if_neg same]

variable {compute previous} {items : List (String × Input)}

/-- Every record belongs to an item. -/
theorem exists_of_mem_recordsOf {entry : String × Record Input Output}
    (mem : entry ∈ (recordsOf compute previous items).entries) :
    ∃ item ∈ items, entry = recordOf compute previous item := by
  obtain ⟨item, itemMem, same⟩ := List.mem_map.1 (Keyed.mem_of_mem_ofList mem)
  exact ⟨item, itemMem, same.symm⟩

/-- Items with different keys have one record each. -/
theorem recordsOf_perm (distinct : (items.map Prod.fst).Nodup) :
    (recordsOf compute previous items).entries.Perm (items.map (recordOf compute previous)) := by
  apply Keyed.ofList_perm
  rw [List.map_map]
  exact distinct

/-- The records stand under the keys of the items when these are distinct. -/
theorem keys_recordsOf_perm (distinct : (items.map Prod.fst).Nodup) :
    (recordsOf compute previous items).keys.Perm (items.map Prod.fst) := by
  have keys : items.map Prod.fst = (items.map (recordOf compute previous)).map Prod.fst := by
    rw [List.map_map]
    rfl
  rw [keys]
  exact (recordsOf_perm distinct).map Prod.fst

/-- Items with different keys have one record each, which is found under the key. -/
theorem find?_recordsOf_of_mem (distinct : (items.map Prod.fst).Nodup) {key : String}
    {input : Input} (mem : (key, input) ∈ items) :
    (recordsOf compute previous items).find? key =
      some ⟨input, (outputFor compute (previous.find? key) input).1⟩ := by
  rw [Keyed.find?_eq_some_iff, (recordsOf_perm distinct).mem_iff]
  exact List.mem_map_of_mem mem

/-- A property of outputs that the stored and the computed ones have holds for all records. -/
theorem output_of_mem_recordsOf (holds : String → Output → Prop)
    (stored : ∀ entry ∈ previous.entries, holds entry.1 entry.2.output)
    (computed : ∀ item ∈ items, holds item.1 (compute item.2))
    {entry : String × Record Input Output}
    (mem : entry ∈ (recordsOf compute previous items).entries) : holds entry.1 entry.2.output := by
  obtain ⟨item, itemMem, rfl⟩ := exists_of_mem_recordsOf mem
  rcases outputFor_cases compute previous item.1 item.2 with new | ⟨record, recordMem, -, kept⟩
  · simp only [recordOf, new]
    exact computed item itemMem
  · simp only [recordOf, kept]
    exact stored _ recordMem

/-! ### Reasons -/

/-- The records stand under the keys of the items. -/
theorem mem_keys_recordsOf {key : String} :
    key ∈ (recordsOf compute previous items).keys ↔ key ∈ items.map Prod.fst := by
  rw [recordsOf, Keyed.mem_keys_ofList, List.map_map]
  rfl

/-- The reason for a key is that of the last item with it, where there is one. A previous key without
an item is removed. -/
theorem find?_reasonsOf (key : String) : (reasonsOf compute previous items).find? key =
    if key ∈ previous.keys ∧ key ∉ items.map Prod.fst then some .removed
    else (Keyed.ofList (items.map (reasonOf compute previous))).find? key := by
  have gone : key ∈ (previous.keys.filter fun key =>
      !(recordsOf compute previous items).contains key) ↔
        key ∈ previous.keys ∧ key ∉ items.map Prod.fst := by
    rw [List.mem_filter, Bool.not_eq_true', ← Bool.not_eq_true, Keyed.contains_iff,
      mem_keys_recordsOf]
  rw [reasonsOf, Keyed.find?_foldl_insert]
  simp only [gone]

/-- Every reason is that of an item, or tells of a previous key without an item. -/
theorem mem_reasonsOf {entry : String × Reason}
    (mem : entry ∈ (reasonsOf compute previous items).entries) :
    (∃ item ∈ items, entry = reasonOf compute previous item) ∨
      entry.2 = .removed ∧ entry.1 ∈ previous.keys ∧ entry.1 ∉ items.map Prod.fst := by
  have found := Keyed.find?_eq_some_iff.2 mem
  rw [find?_reasonsOf] at found
  split at found
  next gone => exact .inr ⟨(Option.some.inj found).symm, gone⟩
  next =>
    obtain ⟨item, itemMem, same⟩ :=
      List.mem_map.1 (Keyed.mem_of_mem_ofList (Keyed.find?_eq_some_iff.1 found))
    exact .inl ⟨item, itemMem, same.symm⟩

/-- The reasons stand under the keys of the previous records and of the items. -/
theorem mem_keys_reasonsOf {key : String} : key ∈ (reasonsOf compute previous items).keys ↔
    key ∈ previous.keys ∨ key ∈ items.map Prod.fst := by
  have listed : key ∈ (Keyed.ofList (items.map (reasonOf compute previous))).keys ↔
      key ∈ items.map Prod.fst := by
    rw [Keyed.mem_keys_ofList, List.map_map]
    rfl
  rw [← Keyed.contains_iff, Keyed.contains, find?_reasonsOf]
  split
  next gone => exact iff_of_true rfl (.inl gone.1)
  next kept =>
    rw [← Keyed.contains, Keyed.contains_iff, listed]
    grind

/-- Items with different keys are given one reason each. -/
theorem find?_reasonsOf_of_mem (distinct : (items.map Prod.fst).Nodup) {key : String}
    {input : Input} (mem : (key, input) ∈ items) :
    (reasonsOf compute previous items).find? key =
      some (outputFor compute (previous.find? key) input).2 := by
  have among : key ∈ items.map Prod.fst := List.mem_map_of_mem mem
  rw [find?_reasonsOf, if_neg fun gone => gone.2 among]
  refine Keyed.find?_ofList_of_mem ?_ (List.mem_map_of_mem mem)
  rw [List.map_map]
  exact distinct

/-- An output is reused exactly when the previous input is equal. -/
theorem outputFor_cached_iff {found : Option (Record Input Output)} {input : Input} :
    (outputFor compute found input).2 = .cached ↔
      ∃ record, found = some record ∧ (record.input == input) = true := by
  cases found with
  | none => simp [outputFor]
  | some record =>
    by_cases same : (record.input == input) = true
    · simp [outputFor, same]
    · rw [outputFor, if_neg same]
      dsimp only
      split <;> simp [same]

/-- What is seen of every record is seen of the records under the same keys. -/
theorem mapValues_recordsOf {γ : Type} (view : Record Input Output → γ) (seen : Input → γ)
    (agrees : ∀ item ∈ items, view (recordOf compute previous item).2 = seen item.2) :
    (recordsOf compute previous items).mapValues view = (Keyed.ofList items).mapValues seen := by
  rw [recordsOf, ← Keyed.ofList_map, ← Keyed.ofList_map, List.map_map]
  refine congrArg Keyed.ofList (List.map_congr_left fun item mem => ?_)
  exact congrArg (Prod.mk item.1) (agrees item mem)

/-- A step with one item under the only previous key gives the reason for this item. -/
theorem reasonsOf_singleton {key : String} (input : Input) (only : previous.keys = [key]) :
    (reasonsOf compute previous [(key, input)]).entries =
      [(key, (outputFor compute (previous.find? key) input).2)] := by
  have gone : ∀ other ∈ previous.keys,
      (recordsOf compute previous [(key, input)]).contains other = true := by
    intro other mem
    rw [only] at mem
    exact Keyed.contains_iff.2 (mem_keys_recordsOf.2 mem)
  have none : (previous.keys.filter fun other =>
      !(recordsOf compute previous [(key, input)]).contains other) = [] :=
    List.filter_eq_nil_iff.2 fun other mem => by simp [gone other mem]
  rw [reasonsOf, none]
  rfl

/-- An output that is computed again and does not change is not modified. -/
theorem outputFor_cached_or_unchanged [ReflBEq Output] {record : Record Input Output}
    {input : Input} (same : compute input = record.output) :
    (outputFor compute (some record) input).2 = .cached ∨
      (outputFor compute (some record) input).2 = .unchanged := by
  by_cases equal : (record.input == input) = true
  · exact .inl (outputFor_cached_iff.2 ⟨record, rfl, equal⟩)
  · right
    rw [outputFor, if_neg equal, same]
    exact if_pos (BEq.refl _)

/-- A step that starts without records computes all outputs. -/
theorem recordsOf_empty (items : List (String × Input)) : recordsOf compute .empty items =
    (Keyed.ofList items).mapValues fun input => ⟨input, compute input⟩ :=
  Keyed.ofList_map (fun input => (⟨input, compute input⟩ : Record Input Output)) items

/-- A step that starts without records gives its outputs as new. -/
theorem reasonsOf_empty (items : List (String × Input)) :
    reasonsOf compute .empty items = (Keyed.ofList items).mapValues fun _ => .new :=
  Keyed.ofList_map (fun _ => Reason.new) items

/-- Under the key of an item stands the last item with this key. -/
theorem exists_find?_recordsOf (compute : Input → Output)
    (previous : Keyed (Record Input Output)) {key : String} {last : String × Input}
    (found : items.reverse.find? (fun item => key == item.1) = some last) :
    last.1 = key ∧ ∃ record, (recordsOf compute previous items).find? key = some record ∧
      record.input = last.2 := by
  have same : (key == last.1) = true := by simpa using List.find?_some found
  refine ⟨(beq_iff_eq.1 same).symm, (recordOf compute previous last).2, ?_, rfl⟩
  have stored := Keyed.find?_ofList_map (fun item => (recordOf compute previous item).2) items key
  rw [found] at stored
  exact stored

end Records

/-! ### Stored outputs -/

section Stored

open Spelled

variable [BEq Input] [Spelled Input] [BEq Output] [Spelled Output] {compute : Input → Output}
  {previous other : Keyed (Record Input Output)}

/-- Equal inputs are given equal outputs. -/
def Respects (compute : Input → Output) : Prop :=
  ∀ left right, plain left = plain right → plain (compute left) = plain (compute right)

/-- Every stored output is the output of its stored input. -/
def Sound (compute : Input → Output) (records : Keyed (Record Input Output)) : Prop :=
  ∀ entry ∈ records.entries, plain entry.2.output = plain (compute entry.2.input)

/-- The output for an input is the computed one, whether it is reused or not. -/
theorem plain_outputFor (respects : Respects compute) (sound : Sound compute previous)
    (key : String) (input : Input) :
    plain (outputFor compute (previous.find? key) input).1 = plain (compute input) := by
  rcases outputFor_cases compute previous key input with new | ⟨record, mem, same, kept⟩
  · rw [new]
  · rw [kept, sound (key, record) mem]
    exact respects _ _ ((beq_iff _ _).1 same)

/-- The records of a step are sound when the previous ones are. -/
theorem sound_recordsOf (respects : Respects compute) (sound : Sound compute previous)
    (items : List (String × Input)) : Sound compute (recordsOf compute previous items) := by
  intro entry mem
  obtain ⟨item, -, rfl⟩ := exists_of_mem_recordsOf mem
  exact plain_outputFor respects sound item.1 item.2

/-- Items that agree leave records that agree, whatever sound records there were before. -/
theorem plain_recordsOf (respects : Respects compute) (sound : Sound compute previous)
    (otherSound : Sound compute other) {left right : List (String × Input)}
    (same : left.map plain = right.map plain) :
    plain (recordsOf compute previous left) = plain (recordsOf compute other right) := by
  rw [recordsOf, recordsOf, plain_ofList, plain_ofList, List.map_map, List.map_map]
  have computed : ∀ {records : Keyed (Record Input Output)} (_ : Sound compute records)
      (items : List (String × Input)), items.map (plain ∘ recordOf compute records) =
        items.map fun item => (item.1, ⟨plain item.2, plain (compute item.2)⟩) := by
    intro records soundRecords items
    refine List.map_congr_left fun item _ => ?_
    have agrees := plain_outputFor respects soundRecords item.1 item.2
    simp [recordOf, agrees]
  rw [computed sound, computed otherSound]
  congr 1
  refine map_eq_of_plain (fun one two agree => ?_) same
  obtain ⟨sameKey, sameInput⟩ := Prod.mk.inj agree
  have sameOutput := respects _ _ sameInput
  simp_all

end Stored

/-! ### Running again -/

section Again

open Spelled

variable [BEq Input] [Spelled Input] [BEq Output] {compute : Input → Output}
  {previous : Keyed (Record Input Output)}

/-- A step that runs again over the same items leaves the same records. -/
theorem recordsOf_again (items : List (String × Input)) :
    recordsOf compute (recordsOf compute previous items) items =
      recordsOf compute previous items := by
  apply Keyed.eq_of_find?
  intro key
  have again := Keyed.find?_ofList_map
    (fun item => (recordOf compute (recordsOf compute previous items) item).2) items key
  have once := Keyed.find?_ofList_map (fun item => (recordOf compute previous item).2) items key
  refine again.trans (Eq.trans ?_ once.symm)
  cases last : items.reverse.find? fun item => key == item.1 with
  | none => rfl
  | some item =>
    obtain ⟨rfl, record, found, given⟩ := exists_find?_recordsOf compute previous last
    have unchanged : (record.input == item.2) = true := (beq_iff _ _).2 (congrArg plain given)
    have kept : record = (recordOf compute previous item).2 := by
      have stored := once
      rw [last] at stored
      exact Option.some.inj (found.symm.trans stored)
    have reused : outputFor compute (some record) item.2 = (record.output, .cached) := by
      rw [outputFor, if_pos unchanged]
    rw [Option.map_some, Option.map_some, recordOf, found, reused, kept]
    rfl

/-- A step that runs again over the same items reuses every output. -/
theorem reasonsOf_again (items : List (String × Input)) :
    reasonsOf compute (recordsOf compute previous items) items =
      (recordsOf compute previous items).mapValues fun _ => .cached := by
  apply Keyed.eq_of_find?
  intro key
  have kept : ¬ (key ∈ (recordsOf compute previous items).keys ∧ key ∉ items.map Prod.fst) := by
    rw [mem_keys_recordsOf]
    exact fun gone => gone.2 gone.1
  have given := Keyed.find?_ofList_map
    (fun item => (reasonOf compute (recordsOf compute previous items) item).2) items key
  have stored := Keyed.find?_ofList_map (fun item => (recordOf compute previous item).2) items key
  rw [find?_reasonsOf, if_neg kept, Keyed.find?_mapValues]
  refine given.trans ?_
  refine Eq.trans ?_ (congrArg (Option.map fun _ => Reason.cached) stored.symm)
  cases last : items.reverse.find? fun item => key == item.1 with
  | none => rfl
  | some item =>
    obtain ⟨rfl, record, found, given⟩ := exists_find?_recordsOf compute previous last
    have unchanged : (record.input == item.2) = true := (beq_iff _ _).2 (congrArg plain given)
    have cached : (outputFor compute (some record) item.2).2 = .cached := by
      rw [outputFor, if_pos unchanged]
    rw [Option.map_some, reasonOf, found, cached]
    rfl

end Again

end Step

end ResourceAccessors.Generation
