import ResourceAccessors.Failure

/-!
# Cancellation

A generation pass asks from time to time whether it should go on. A pass that is cancelled stops at
the first question after the moment of cancellation and at no later one.
-/

namespace ResourceAccessors.Generation

/-- How many more questions are answered with "go on"; nothing when a pass is never cancelled. -/
structure Cancellation where
  patience : Option Nat
  deriving DecidableEq, Repr, Inhabited

namespace Cancellation

/-- A pass that is never cancelled. -/
def never : Cancellation :=
  ⟨none⟩

/-- A pass that is cancelled before it starts. -/
def immediate : Cancellation :=
  ⟨some 0⟩

/-- Ask whether to go on. -/
def check : Cancellation → Except Failure Cancellation
  | ⟨none⟩ => .ok ⟨none⟩
  | ⟨some 0⟩ => .error .cancelled
  | ⟨some (left + 1)⟩ => .ok ⟨some left⟩

end Cancellation

end ResourceAccessors.Generation
