import Mathlib.Logic.Basic
import ResourceAccessors.Embedded.Slot

/-!
# What one load of a slot does

A load asks for an accessor's value with hooks and a reader of its own. What the before-read hook
leaves decides everything that follows: a panic ends the load there, a value is handed out without
reading, and an unset slot is read once. `Request.outcome` lists these cases, and the laws of whole
histories are read off it.
-/

namespace ResourceAccessors.Embedded

/-- A slot with a value is set. -/
@[simp] theorem Slot.isSet_some (value : String) : Slot.isSet (some value) = true := rfl

/-- A slot without a value is not set. -/
@[simp] theorem Slot.isSet_none : Slot.isSet none = false := rfl

/-- What a foreign call left behind, whether or not it came back. -/
def Attempt.left {α : Type} : Attempt α → α
  | .returned result => result
  | .panicked left => left

/-- A call that came back left its result. -/
@[simp] theorem Attempt.left_returned {α : Type} (result : α) :
    (Attempt.returned result).left = result := rfl

/-- A call that panicked left what it had made so far. -/
@[simp] theorem Attempt.left_panicked {α : Type} (left : α) :
    (Attempt.panicked left).left = left := rfl

/-- The slot that a call shows to the before-read hook. -/
def Call.shown? : Call → Option Slot
  | .before slot _ _ => some slot
  | _ => none

/-- The resource that a call asks the reader for. -/
def Call.read? : Call → Option String
  | .read resource => some resource
  | _ => none

/-- A reading shows no slot. -/
@[simp] theorem Call.shown?_read (resource : String) : (Call.read resource).shown? = none := rfl

/-- A reading asks for its resource. -/
@[simp] theorem Call.read?_read (resource : String) :
    (Call.read resource).read? = some resource := rfl

/-- What a load is asked: the resource and its accessor, the hooks, and the reader to use. -/
structure Request where
  resource : String
  accessor : String
  hooks : Hooks
  reader : ResourceReader

namespace Request

/-- The load of a slot on this request. -/
def on (request : Request) (slot : Slot) : Loaded :=
  slot.load request.resource request.accessor request.hooks request.reader

/-- What the before-read hook does to a slot. -/
def seen (request : Request) (slot : Slot) : Attempt Slot :=
  (slot.runBefore request.hooks request.resource request.accessor).1

/-- The slots that the before-read hook is shown. -/
def shown (request : Request) (slot : Slot) : List Slot :=
  (request.on slot).calls.filterMap Call.shown?

/-- The calls of the reader, each with its result. -/
def readings (request : Request) (slot : Slot) : List (String × Except LoadError String) :=
  ((request.on slot).calls.filterMap Call.read?).map fun resource =>
    (resource, request.reader resource)

/-- What the after-read hook makes of a value; nothing when it panics. -/
def image (request : Request) (value : String) : Option String :=
  match request.hooks.afterRead with
  | none => some value
  | some hook => hook value request.resource request.accessor

/-- The before-read hook panics, or the reader fails or panics. -/
def Fails (request : Request) (slot : Slot) : Prop :=
  (∃ left, request.seen slot = .panicked left) ∨
    ∃ resource cause, (resource, .error cause) ∈ request.readings slot

/-- The before-read hook turns a slot that is set into one that is unset. -/
def Clears (request : Request) (slot : Slot) : Prop :=
  slot.isSet ∧ (request.seen slot).left.isSet = false

section Calls

variable (request : Request)

/-- The calls of the before-read hook. -/
def beforeCalls (slot : Slot) : List Call :=
  (slot.runBefore request.hooks request.resource request.accessor).2

/-- The calls of the after-read hook. -/
def afterCalls (value : String) : List Call :=
  (Slot.runAfter request.hooks value request.resource request.accessor).2

/-- The result that hands out a value through the after-read hook. -/
def answer (value : String) : Except LoadError String :=
  (request.image value).elim (.error .panicked) .ok

/-- What a load hands out is the answer for the value that it found. -/
theorem runAfter_fst (value : String) :
    (Slot.runAfter request.hooks value request.resource request.accessor).1 =
      request.answer value := by
  unfold Slot.runAfter answer image
  cases request.hooks.afterRead with
  | none => rfl
  | some hook =>
    cases h : hook value request.resource request.accessor <;> simp only [h, Option.elim]

/-- A load by what the before-read hook did and, where it left the slot unset, what was read. -/
theorem on_eq (slot : Slot) :
    request.on slot =
      match request.seen slot with
      | .panicked left => ⟨left, .error .panicked, request.beforeCalls slot⟩
      | .returned (some cached) =>
        ⟨some cached, request.answer cached,
          request.beforeCalls slot ++ request.afterCalls cached⟩
      | .returned none =>
        match request.reader request.resource with
        | .error cause => ⟨none, .error cause, request.beforeCalls slot ++ [.read request.resource]⟩
        | .ok text =>
          ⟨some text, request.answer text,
            request.beforeCalls slot ++ .read request.resource :: request.afterCalls text⟩ := by
  simp only [on, seen, beforeCalls, afterCalls, Slot.load, ← runAfter_fst]
  rcases slot.runBefore request.hooks request.resource request.accessor with
    ⟨⟨_ | cached⟩ | left, before⟩
  · cases answer : request.reader request.resource <;> simp [Slot.fill, answer]
  · simp [Slot.fill]
  · rfl

/-- The before-read hook reads nothing. -/
@[simp] theorem beforeCalls_read? (slot : Slot) :
    (request.beforeCalls slot).filterMap Call.read? = [] := by
  unfold beforeCalls Slot.runBefore
  cases request.hooks.beforeRead with
  | none => rfl
  | some hook => rfl

/-- The after-read hook reads nothing. -/
@[simp] theorem afterCalls_read? (value : String) :
    (request.afterCalls value).filterMap Call.read? = [] := by
  unfold afterCalls Slot.runAfter
  cases request.hooks.afterRead with
  | none => rfl
  | some hook => cases h : hook value request.resource request.accessor <;> simp [h, Call.read?]

/-- The after-read hook is shown no slot. -/
@[simp] theorem afterCalls_shown? (value : String) :
    (request.afterCalls value).filterMap Call.shown? = [] := by
  unfold afterCalls Slot.runAfter
  cases request.hooks.afterRead with
  | none => rfl
  | some hook => cases h : hook value request.resource request.accessor <;> simp [h, Call.shown?]

/-- The before-read hook is shown the slot as the load found it. -/
theorem shown_eq (slot : Slot) :
    request.shown slot = (request.beforeCalls slot).filterMap Call.shown? := by
  unfold shown
  rw [on_eq]
  split
  · rfl
  · rw [List.filterMap_append, afterCalls_shown?, List.append_nil]
  · split <;>
      simp only [List.filterMap_append, List.filterMap_cons, Call.shown?_read, List.filterMap_nil,
        afterCalls_shown?, List.append_nil]

end Calls

/-- The slot a load leaves depends on the before-read hook and the reader only. -/
theorem slot_eq (request : Request) (slot : Slot) :
    (request.on slot).slot =
      match request.seen slot with
      | .panicked left => left
      | .returned (some cached) => some cached
      | .returned none => (request.reader request.resource).toOption := by
  rw [on_eq]
  rcases request.seen slot with (_ | cached) | left
  · cases request.reader request.resource <;> rfl
  · rfl
  · rfl

/-- What a load reads depends on the before-read hook and the reader only. -/
theorem readings_eq (request : Request) (slot : Slot) :
    request.readings slot =
      match request.seen slot with
      | .returned none => [(request.resource, request.reader request.resource)]
      | _ => [] := by
  unfold readings
  rw [on_eq]
  rcases request.seen slot with (_ | cached) | left
  · cases answer : request.reader request.resource <;> simp [answer]
  · simp
  · simp

/-- How a load ends, by what the before-read hook left and what the reader gave. -/
inductive Outcome (request : Request) (slot : Slot) : Prop
  | panicked (left : Slot) (seen : request.seen slot = .panicked left)
      (kept : (request.on slot).slot = left) (result : (request.on slot).result = .error .panicked)
      (readings : request.readings slot = [])
  | held (cached : String) (seen : request.seen slot = .returned (some cached))
      (kept : (request.on slot).slot = some cached)
      (result : (request.on slot).result = request.answer cached)
      (readings : request.readings slot = [])
  | unread (cause : LoadError) (seen : request.seen slot = .returned none)
      (kept : (request.on slot).slot = none) (result : (request.on slot).result = .error cause)
      (readings : request.readings slot = [(request.resource, .error cause)])
  | read (text : String) (seen : request.seen slot = .returned none)
      (kept : (request.on slot).slot = some text)
      (result : (request.on slot).result = request.answer text)
      (readings : request.readings slot = [(request.resource, .ok text)])

/-- Every load ends in one of these ways. -/
theorem outcome (request : Request) (slot : Slot) : request.Outcome slot := by
  have loaded := request.on_eq slot
  have readings := request.readings_eq slot
  rcases seen : request.seen slot with (_ | cached) | left
  · cases answer : request.reader request.resource with
    | error cause =>
      simp only [seen, answer] at loaded readings
      exact .unread cause seen (by rw [loaded]) (by rw [loaded]) readings
    | ok text =>
      simp only [seen, answer] at loaded readings
      exact .read text seen (by rw [loaded]) (by rw [loaded]) readings
  · simp only [seen] at loaded readings
    exact .held cached seen (by rw [loaded]) (by rw [loaded]) readings
  · simp only [seen] at loaded readings
    exact .panicked left seen (by rw [loaded]) (by rw [loaded]) readings

section Laws

variable (request : Request) (slot : Slot)

/-- The reader is called exactly when the before-read hook returned and left the slot unset. -/
theorem readings_ne_nil_iff : request.readings slot ≠ [] ↔ request.seen slot = .returned none := by
  cases request.outcome slot with
  | panicked left seen _ _ readings => simp [seen, readings]
  | held cached seen _ _ readings => simp [seen, readings]
  | unread cause seen _ _ readings => simp [seen, readings]
  | read text seen _ _ readings => simp [seen, readings]

/-- The reader is not called for a slot that is set, unless the before-read hook clears it. -/
theorem readings_eq_nil (isSet : slot.isSet) (keeps : ¬ request.Clears slot) :
    request.readings slot = [] := by
  refine not_not.1 fun called => keeps ⟨isSet, ?_⟩
  rw [(request.readings_ne_nil_iff slot).1 called]
  rfl

/-- A load that fails leaves the slot as the before-read hook left it. -/
theorem slot_of_fails (fails : request.Fails slot) :
    (request.on slot).slot = (request.seen slot).left := by
  cases request.outcome slot with
  | panicked left seen kept => rw [kept, seen, Attempt.left_panicked]
  | held cached seen kept => rw [kept, seen, Attempt.left_returned]
  | unread cause seen kept => rw [kept, seen, Attempt.left_returned]
  | read text seen _ _ readings => simp [Fails, seen, readings] at fails

/-- A load that does not fail leaves the slot set. -/
theorem isSet_of_not_fails (succeeds : ¬ request.Fails slot) : (request.on slot).slot.isSet := by
  cases request.outcome slot with
  | panicked left seen => exact absurd (.inl ⟨left, seen⟩) succeeds
  | held cached _ kept => rw [kept, Slot.isSet_some]
  | unread cause _ _ _ readings =>
    exact absurd (.inr ⟨request.resource, cause, by simp [readings]⟩) succeeds
  | read text _ kept => rw [kept, Slot.isSet_some]

/-- A value is handed out exactly when the load does not fail and the value is the image of what
the slot then holds. -/
theorem result_eq_ok_iff (value : String) :
    (request.on slot).result = .ok value ↔
      ¬ request.Fails slot ∧
        ∃ cached, (request.on slot).slot = some cached ∧ request.image cached = some value := by
  cases request.outcome slot with
  | panicked left seen _ result => simp [result, Fails, seen]
  | held cached seen kept result readings =>
    cases changed : request.image cached <;>
      simp [result, kept, answer, changed, Fails, seen, readings]
  | unread cause seen _ result readings => simp [result, Fails, readings]
  | read text seen kept result readings =>
    cases changed : request.image text <;>
      simp [result, kept, answer, changed, Fails, seen, readings]

/-- A load that finds the slot set leaves it set, unless its before-read hook clears the slot. -/
theorem isSet_of_not_clears (isSet : slot.isSet) (keeps : ¬ request.Clears slot) :
    (request.on slot).slot.isSet := by
  have left : (request.seen slot).left.isSet = true := by
    simpa [Clears, isSet] using keeps
  cases request.outcome slot with
  | panicked left' seen kept => rwa [kept, ← Attempt.left_panicked left', ← seen]
  | held cached _ kept => rw [kept, Slot.isSet_some]
  | unread cause seen => simp [seen] at left
  | read text seen => simp [seen] at left

end Laws

end Request

end ResourceAccessors.Embedded
