import ResourceAccessors.Generation.Pass
import ResourceAccessors.Json.Parser
import ResourceAccessors.Json.Printer
import ResourceAccessors.Stored.State

/-!
# Generators

A generator keeps the state of its last successful pass, so that the next pass computes only what
changed. Between passes the state may be written out as text and read back.
-/

namespace ResourceAccessors.Generation

/-- What keeps the state between passes. -/
structure Generator where
  state : State
  deriving Inhabited

/-- What happens to a generator. -/
inductive Event
  | run (input : Input) (token : Cancellation)
  | reload

namespace Generator

/-- A generator that has not run yet. -/
def new : Generator :=
  ⟨.empty⟩

/-- Run a pass. A pass that does not succeed leaves the generator as it is. -/
def run (generator : Generator) (input : Input) (token : Cancellation) :
    Except Failure Outcome × Generator :=
  match pass generator.state input token with
  | .ok (outcome, _) => (.ok outcome, ⟨outcome.state⟩)
  | .error failure => (.error failure, generator)

/-- The generator with the state that its text holds. A text that holds no state is given up. -/
@[irreducible]
def reload (generator : Generator) : Generator :=
  let text := (Stored.ofState generator.state).print
  ⟨((Json.parse? text).bind Stored.state).getD .empty⟩

/-- The generator after an event. -/
def after (generator : Generator) : Event → Generator
  | .run input token => (generator.run input token).2
  | .reload => generator.reload

/-- The generator after some events. -/
def afterAll (generator : Generator) (events : List Event) : Generator :=
  events.foldl after generator

/-- The inputs of those runs that succeed when some events happen. -/
def succeeded (generator : Generator) : List Event → List Input
  | [] => []
  | .reload :: rest => generator.reload.succeeded rest
  | .run input token :: rest =>
    let (result, next) := generator.run input token
    match result with
    | .ok _ => input :: next.succeeded rest
    | .error _ => next.succeeded rest

end Generator

end ResourceAccessors.Generation
