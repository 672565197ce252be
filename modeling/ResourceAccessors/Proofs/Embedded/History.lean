import ResourceAccessors.Proofs.Embedded.Load

/-!
# Histories of loads on one slot

The loads of an accessor share its slot, each with hooks and a reader of its own. As long as no
before-read hook clears a slot that is set, a history reads successfully at most once and never
reads again after that (`history_lawful`). After-read hooks are seen by nothing but the results
(`sights_eq_of_withoutAfter_eq`). A slot that is set stays set exactly as long as no load clears it
and then fails (`staysSet_iff`).
-/

namespace ResourceAccessors.Embedded

/-- The slot after a history of loads. -/
def slotAfter (slot : Slot) (history : List Request) : Slot :=
  history.foldl (fun slot request => (request.on slot).slot) slot

/-- What each load of a history did. -/
def loadsFrom (slot : Slot) : List Request → List Loaded
  | [] => []
  | request :: later => request.on slot :: loadsFrom (request.on slot).slot later

/-- The calls of the readers over a history, each with its result. -/
def readingsFrom (slot : Slot) : List Request → List (String × Except LoadError String)
  | [] => []
  | request :: later => request.readings slot ++ readingsFrom (request.on slot).slot later

section Run

variable (slot : Slot) (request : Request) (before later : List Request)

/-- Without loads a slot stays as it is. -/
@[simp] theorem slotAfter_nil : slotAfter slot [] = slot := rfl

/-- What comes after a load starts from the slot that it leaves. -/
@[simp] theorem slotAfter_cons :
    slotAfter slot (request :: later) = slotAfter (request.on slot).slot later := rfl

/-- What comes later starts from the slot that is left before. -/
@[simp] theorem slotAfter_append :
    slotAfter slot (before ++ later) = slotAfter (slotAfter slot before) later :=
  List.foldl_append

/-- The loads of a history are those before and those later, which start from the slot left before.
-/
theorem loadsFrom_append :
    loadsFrom slot (before ++ later) =
      loadsFrom slot before ++ loadsFrom (slotAfter slot before) later := by
  induction before generalizing slot with
  | nil => rfl
  | cons request before ih => simp [loadsFrom, ih]

end Run

/-- No before-read hook of the history clears a slot that is set when it is called. -/
def NeverClears (slot : Slot) (history : List Request) : Prop :=
  ∀ before request later, history = before ++ request :: later →
    ¬ request.Clears (slotAfter slot before)

section NeverClears

variable {slot : Slot}

/-- A history without loads clears nothing. -/
theorem neverClears_nil : NeverClears slot [] := by
  intro before request later split
  simp at split

/-- A history clears nothing when its first load does not, and what follows it does not. -/
theorem neverClears_cons {request : Request} {later : List Request} :
    NeverClears slot (request :: later) ↔
      ¬ request.Clears slot ∧ NeverClears (request.on slot).slot later := by
  constructor
  · intro keeps
    refine ⟨keeps [] request later rfl, ?_⟩
    rintro before next rest rfl
    exact keeps (request :: before) next rest rfl
  · rintro ⟨here, keeps⟩ (_ | ⟨first, before⟩) next rest split
    · cases split
      exact here
    · cases split
      exact keeps before next rest rfl

/-- What follows in a history that clears nothing clears nothing. -/
theorem NeverClears.after {before later : List Request}
    (keeps : NeverClears slot (before ++ later)) : NeverClears (slotAfter slot before) later := by
  rintro middle next rest rfl
  rw [← slotAfter_append]
  exact keeps (before ++ middle) next rest (List.append_assoc ..).symm

instance (slot : Slot) (request : Request) : Decidable (request.Clears slot) :=
  inferInstanceAs (Decidable (_ ∧ _))

instance decidableNeverClears (slot : Slot) :
    (history : List Request) → Decidable (NeverClears slot history)
  | [] => .isTrue neverClears_nil
  | request :: later =>
    have := decidableNeverClears (request.on slot).slot later
    decidable_of_iff _ neverClears_cons.symm

/-- From a slot that is set, nothing is read. -/
theorem NeverClears.readingsFrom_eq_nil {history : List Request} (keeps : NeverClears slot history)
    (isSet : slot.isSet) : readingsFrom slot history = [] := by
  induction history generalizing slot with
  | nil => rfl
  | cons request later ih =>
    obtain ⟨here, keeps⟩ := neverClears_cons.1 keeps
    rw [readingsFrom, request.readings_eq_nil slot isSet here, List.nil_append]
    exact ih keeps (request.isSet_of_not_clears slot isSet here)

/-- At most one reading of a history gives a value. -/
theorem NeverClears.countP_readingsFrom_le {history : List Request}
    (keeps : NeverClears slot history) :
    (readingsFrom slot history).countP (fun reading => reading.2.isOk) ≤ 1 := by
  induction history generalizing slot with
  | nil => exact Nat.zero_le 1
  | cons request later ih =>
    obtain ⟨-, keeps⟩ := neverClears_cons.1 keeps
    rw [readingsFrom, List.countP_append]
    cases request.outcome slot with
    | panicked _ _ _ _ readings =>
      rw [readings, List.countP_nil, Nat.zero_add]
      exact ih keeps
    | held _ _ _ _ readings =>
      rw [readings, List.countP_nil, Nat.zero_add]
      exact ih keeps
    | unread cause _ _ _ readings =>
      rw [readings]
      simpa [Except.isOk, Except.toBool] using ih keeps
    | read text _ kept _ readings =>
      -- the slot is set from here on, so this reading is the last one
      rw [keeps.readingsFrom_eq_nil (by rw [kept, Slot.isSet_some]), readings, List.countP_nil]
      exact List.countP_le_length

end NeverClears

/-- The laws of a history of loads that starts from a slot. -/
structure Lawful (slot : Slot) (history : List Request) : Prop where
  /-- A load calls its reader exactly when its before-read hook returned and left the slot unset. -/
  reads : ∀ {before request later}, history = before ++ request :: later →
    (request.readings (slotAfter slot before) ≠ [] ↔
      request.seen (slotAfter slot before) = .returned none)
  /-- At most one reading gives a value. -/
  once : (readingsFrom slot history).countP (fun reading => reading.2.isOk) ≤ 1
  /-- Once the slot is set nothing is read. -/
  settled : ∀ {before later}, history = before ++ later → (slotAfter slot before).isSet →
    readingsFrom (slotAfter slot before) later = []
  /-- A load that fails leaves the slot as its before-read hook left it. -/
  kept : ∀ {before request later}, history = before ++ request :: later →
    request.Fails (slotAfter slot before) →
    slotAfter slot (before ++ [request]) = (request.seen (slotAfter slot before)).left
  /-- The loads after one that fails work on that slot. -/
  onward : ∀ {before request later}, history = before ++ request :: later →
    request.Fails (slotAfter slot before) →
    loadsFrom slot history = loadsFrom slot (before ++ [request]) ++
      loadsFrom (request.seen (slotAfter slot before)).left later
  /-- A value that is given is the after-read image of what the slot then holds. -/
  gives : ∀ {before request later}, history = before ++ request :: later → ∀ value,
    (request.on (slotAfter slot before)).result = .ok value ↔
      ¬ request.Fails (slotAfter slot before) ∧
        ∃ cached, slotAfter slot (before ++ [request]) = some cached ∧
          request.image cached = some value

/-- A history whose before-read hooks never clear a set slot keeps the laws of the cache. -/
theorem history_lawful (slot : Slot) (history : List Request) (keeps : NeverClears slot history) :
    Lawful slot history where
  reads _ := Request.readings_ne_nil_iff ..
  once := keeps.countP_readingsFrom_le
  settled := by
    rintro before later rfl isSet
    exact keeps.after.readingsFrom_eq_nil isSet
  kept {before request later} _ fails := by
    rw [slotAfter_append]
    exact request.slot_of_fails _ fails
  onward := by
    rintro before request later rfl fails
    rw [← List.singleton_append, ← List.append_assoc, loadsFrom_append, slotAfter_append,
      slotAfter_cons, slotAfter_nil, request.slot_of_fails _ fails]
  gives {before request later} _ value := by
    rw [slotAfter_append]
    exact request.result_eq_ok_iff _ value

/-- Loads of one resource: its reader panics, a before-read hook panics, the resource is read for
an after-read hook that panics, a before-read hook stores another value and panics, and the last
load hands this value out. -/
def troubledLoads : List Request :=
  [⟨"demo.one.txt", "One", .none, fun _ => .error .panicked⟩,
    ⟨"demo.one.txt", "One", ⟨some fun slot _ _ => .panicked slot, none⟩, fun _ => .ok "one"⟩,
    ⟨"demo.one.txt", "One", ⟨none, some fun _ _ _ => none⟩, fun _ => .ok "one"⟩,
    ⟨"demo.one.txt", "One", ⟨some fun _ _ _ => .panicked (some "other"), none⟩,
      fun _ => .ok "one"⟩,
    ⟨"demo.one.txt", "One", ⟨none, some fun value _ accessor => some (accessor ++ value)⟩,
      fun _ => .error .panicked⟩]

/-- A history of loads that fail and panic in every way keeps to the rules. -/
theorem history_lawful_troubledLoads :
    NeverClears none troubledLoads ∧ Lawful none troubledLoads :=
  have keeps : NeverClears none troubledLoads := by decide
  ⟨keeps, history_lawful none troubledLoads keeps⟩

/-! ## After-read hooks -/

/-- What a load shows of the cache: the slot it leaves, the slots its before-read hook was shown,
and what was read. -/
structure Sight where
  slot : Slot
  shown : List Slot
  readings : List (String × Except LoadError String)

namespace Request

/-- What the load of a slot on this request shows of the cache. -/
def sight (request : Request) (slot : Slot) : Sight :=
  ⟨(request.on slot).slot, request.shown slot, request.readings slot⟩

/-- The request with no after-read hook. -/
def withoutAfter (request : Request) : Request :=
  { request with hooks := ⟨request.hooks.beforeRead, none⟩ }

/-- The after-read hook of a load changes nothing of what it shows of the cache. -/
theorem sight_withoutAfter (request : Request) (slot : Slot) :
    request.withoutAfter.sight slot = request.sight slot := by
  simp only [sight, slot_eq, shown_eq, readings_eq]
  rfl

end Request

/-- What each load of a history shows of the cache. -/
def sightsFrom (slot : Slot) : List Request → List Sight
  | [] => []
  | request :: later => request.sight slot :: sightsFrom (request.on slot).slot later

/-- Without their after-read hooks loads show the same of the slot. -/
theorem sightsFrom_map_withoutAfter (slot : Slot) (history : List Request) :
    sightsFrom slot (history.map Request.withoutAfter) = sightsFrom slot history := by
  induction history generalizing slot with
  | nil => rfl
  | cons request later ih =>
    have here := request.sight_withoutAfter slot
    have left : (request.withoutAfter.on slot).slot = (request.on slot).slot :=
      congrArg Sight.slot here
    rw [List.map_cons, sightsFrom, sightsFrom, here, left, ih]

/-- Histories that differ in their after-read hooks only show the same of the cache. -/
theorem sights_eq_of_withoutAfter_eq (slot : Slot) (left right : List Request)
    (same : left.map Request.withoutAfter = right.map Request.withoutAfter) :
    sightsFrom slot left = sightsFrom slot right := by
  rw [← sightsFrom_map_withoutAfter, same, sightsFrom_map_withoutAfter]

/-- The troubled loads, each with an after-read hook that hands out the name of the accessor. -/
def renamedLoads : List Request :=
  troubledLoads.map fun request =>
    { request with hooks := ⟨request.hooks.beforeRead, some fun _ _ accessor => some accessor⟩ }

/-- Loads whose after-read hooks give the name of the accessor show the same of the slot. -/
theorem sights_eq_renamedLoads :
    troubledLoads.map Request.withoutAfter = renamedLoads.map Request.withoutAfter ∧
      sightsFrom none troubledLoads = sightsFrom none renamedLoads :=
  ⟨rfl, sights_eq_of_withoutAfter_eq none troubledLoads renamedLoads rfl⟩

/-! ## Slots that stay set -/

/-- Once the slot is set it is set after every later load. -/
def StaysSet (slot : Slot) (history : List Request) : Prop :=
  ∀ before middle later, history = before ++ middle ++ later →
    (slotAfter slot before).isSet → (slotAfter slot (before ++ middle)).isSet

/-- A load unsets a slot exactly when its before-read hook clears it and the load fails. -/
theorem Request.unsets_iff (request : Request) (slot : Slot) :
    slot.isSet ∧ (request.on slot).slot.isSet = false ↔
      request.Clears slot ∧ request.Fails slot := by
  constructor
  · rintro ⟨isSet, unset⟩
    refine ⟨not_not.1 fun keeps => ?_, not_not.1 fun succeeds => ?_⟩
    · rw [request.isSet_of_not_clears slot isSet keeps] at unset
      cases unset
    · rw [request.isSet_of_not_fails slot succeeds] at unset
      cases unset
  · rintro ⟨⟨isSet, cleared⟩, fails⟩
    exact ⟨isSet, by rw [request.slot_of_fails slot fails, cleared]⟩

/-- A history keeps the slot set exactly when none of its loads clears the slot and then fails. -/
theorem staysSet_iff (slot : Slot) (history : List Request) :
    StaysSet slot history ↔
      ∀ before request later, history = before ++ request :: later →
        ¬ (request.Clears (slotAfter slot before) ∧ request.Fails (slotAfter slot before)) := by
  constructor
  · intro stays before request later split unsets
    obtain ⟨isSet, unset⟩ := (request.unsets_iff _).2 unsets
    have still := stays before [request] later (by simp [split]) isSet
    rw [slotAfter_append, slotAfter_cons, slotAfter_nil, unset] at still
    cases still
  · rintro keeps before middle later rfl isSet
    induction middle generalizing before with
    | nil => simpa using isSet
    | cons request middle ih =>
      have here := keeps before request (middle ++ later) (by simp)
      have next : (slotAfter slot (before ++ [request])).isSet := by
        rw [slotAfter_append]
        simpa [← request.unsets_iff, isSet] using here
      have rest := ih (before ++ [request]) (by simpa using keeps) next
      simpa using rest

/-- A first load reads the resource; the next one clears the slot and finds nothing to read. -/
def clearedLoads : List Request :=
  [⟨"demo.one.txt", "One", .none, fun _ => .ok "one"⟩,
    ⟨"demo.one.txt", "One", ⟨some fun _ _ _ => .returned none, none⟩,
      fun resource => .error (.unreadable (.notFound resource))⟩]

/-- A slot that was set can be unset again. -/
theorem not_staysSet_clearedLoads : ¬ ∀ history, StaysSet none history := by
  intro stays
  have still := stays clearedLoads (clearedLoads.take 1) (clearedLoads.drop 1) [] rfl rfl
  cases still

end ResourceAccessors.Embedded
