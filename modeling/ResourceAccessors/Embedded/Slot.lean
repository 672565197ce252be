import ResourceAccessors.Embedded.ReadError

/-!
# Backing slots

The cache behind one accessor. A load lets the before-read hook see the slot and change it, fills a
slot that is unset from the reader, and gives a copy of the value to the after-read hook. Hooks and
readers are foreign code and may panic; the slot then keeps what it held at that moment.
-/

namespace ResourceAccessors.Embedded

/-- The cache of one accessor: a value once it is set. -/
abbrev Slot := Option String

/-- What a foreign call did: it came back with a result, or it panicked and left one behind. -/
inductive Attempt (α : Type)
  | returned (result : α)
  | panicked (left : α)
  deriving Repr, Inhabited

/-- A hook that sees and may change the slot, given the names of the resource and the accessor. -/
abbrev BeforeRead := Slot → String → String → Attempt Slot

/-- A hook that may change a copy of the value; nothing when it panics. -/
abbrev AfterRead := String → String → String → Option String

/-- The hooks that the accessors of one type share. A hook that is absent does nothing. -/
structure Hooks where
  beforeRead : Option BeforeRead
  afterRead : Option AfterRead

/-- No hooks at all. -/
def Hooks.none : Hooks :=
  ⟨.none, .none⟩

/-- Why a load gives no value. -/
inductive LoadError
  | unreadable (cause : ReadError)
  | panicked
  deriving DecidableEq, Repr, Inhabited

/-- What reads a resource by its name; it may panic. -/
abbrev ResourceReader := String → Except LoadError String

/-- A call that a load makes, with its arguments. -/
inductive Call
  | before (slot : Slot) (resource accessor : String)
  | read (resource : String)
  | after (value resource accessor : String)
  deriving DecidableEq, Repr, Inhabited

/-- What a load did: the slot behind it, its result, and the calls it made in order. -/
structure Loaded where
  slot : Slot
  result : Except LoadError String
  calls : List Call

namespace Slot

/-- Whether a value has been cached. -/
def isSet (slot : Slot) : Bool :=
  slot.isSome

/-- Let the before-read hook see the slot. -/
def runBefore (hooks : Hooks) (slot : Slot) (resource accessor : String) :
    Attempt Slot × List Call :=
  match hooks.beforeRead with
  | none => (.returned slot, [])
  | some hook => (hook slot resource accessor, [.before slot resource accessor])

/-- The value of the slot, read when the slot is unset; with the slot and the calls. -/
def fill (reader : ResourceReader) (slot : Slot) (resource : String) :
    Slot × Except LoadError String × List Call :=
  match slot with
  | some cached => (some cached, .ok cached, [])
  | none =>
    match reader resource with
    | .ok text => (some text, .ok text, [.read resource])
    | .error cause => (none, .error cause, [.read resource])

/-- Let the after-read hook change a value that was just read. -/
def runAfter (hooks : Hooks) (value resource accessor : String) :
    Except LoadError String × List Call :=
  match hooks.afterRead with
  | none => (.ok value, [])
  | some hook =>
    match hook value resource accessor with
    | some changed => (.ok changed, [.after value resource accessor])
    | none => (.error .panicked, [.after value resource accessor])

/-- Produce the value of the accessor. -/
def load (slot : Slot) (resource accessor : String) (hooks : Hooks) (reader : ResourceReader) :
    Loaded :=
  match runBefore hooks slot resource accessor with
  | (.panicked left, before) => ⟨left, .error .panicked, before⟩
  | (.returned seen, before) =>
    match fill reader seen resource with
    | (filled, .error cause, read) => ⟨filled, .error cause, before ++ read⟩
    | (filled, .ok value, read) =>
      match runAfter hooks value resource accessor with
      | (result, after) => ⟨filled, result, before ++ read ++ after⟩

end Slot

end ResourceAccessors.Embedded
