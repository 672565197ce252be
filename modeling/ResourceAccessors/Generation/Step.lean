import ResourceAccessors.Generation.Cancellation
import ResourceAccessors.Keyed

/-!
# Tracked steps

A step computes one output for each of its keyed inputs. An input that is equal to the previous one
under its key keeps the previous output, and every key of the previous or the new outputs is given
the reason for its value.
-/

namespace ResourceAccessors.Generation

/-- Why an output has its value. -/
inductive Reason
  /-- There was no previous output. -/
  | new
  /-- It was computed again and did not change. -/
  | unchanged
  /-- It was computed again and changed. -/
  | modified
  /-- Its input did not change. -/
  | cached
  /-- It is no longer computed. -/
  | removed
  deriving DecidableEq, Repr, Inhabited

/-- An input with its output. -/
structure Record (Input Output : Type) where
  input : Input
  output : Output
  deriving BEq, Inhabited

/-- The records of a step by their keys, with the reasons for them. -/
structure Step (Input Output : Type) where
  records : Keyed (Record Input Output)
  reasons : Keyed Reason

namespace Step

variable {Input Output : Type}

/-- A step that has computed nothing yet. -/
def empty : Step Input Output :=
  ⟨.empty, .empty⟩

/-- The output for an input, and the reason for it. -/
def outputFor [BEq Input] [BEq Output] (compute : Input → Output)
    (previous : Option (Record Input Output)) (input : Input) : Output × Reason :=
  match previous with
  | none => (compute input, .new)
  | some record =>
    if record.input == input then (record.output, .cached)
    else
      let output := compute input
      (output, if output == record.output then .unchanged else .modified)

/-- The step with the output for one more input. -/
def add [BEq Input] [BEq Output] (compute : Input → Output)
    (previous : Keyed (Record Input Output)) (step : Step Input Output) (key : String)
    (input : Input) : Step Input Output :=
  let (output, reason) := outputFor compute (previous.find? key) input
  ⟨step.records.insert key ⟨input, output⟩, step.reasons.insert key reason⟩

/-- The step with the outputs for some inputs, unless the pass is cancelled. -/
def addAll [BEq Input] [BEq Output] (compute : Input → Output)
    (previous : Keyed (Record Input Output)) :
    List (String × Input) → Step Input Output → Cancellation →
      Except Failure (Step Input Output × Cancellation)
  | [], step, token => .ok (step, token)
  | (key, input) :: rest, step, token => do
    let token ← token.check
    addAll compute previous rest (step.add compute previous key input) token

/-- The step with the previous keys that it no longer computes. -/
def noteRemoved (previous : Keyed (Record Input Output)) (step : Step Input Output) :
    Step Input Output :=
  let gone := previous.keys.filter fun key => !step.records.contains key
  ⟨step.records, gone.foldl (fun reasons key => reasons.insert key .removed) step.reasons⟩

/-- Run a step over keyed inputs. -/
def run [BEq Input] [BEq Output] (compute : Input → Output)
    (previous : Keyed (Record Input Output)) (items : List (String × Input))
    (token : Cancellation) : Except Failure (Step Input Output × Cancellation) := do
  let (step, token) ← addAll compute previous items empty token
  return (step.noteRemoved previous, token)

end Step

end ResourceAccessors.Generation
