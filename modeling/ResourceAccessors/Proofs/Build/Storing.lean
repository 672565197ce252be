import ResourceAccessors.Proofs.Build.Convergence
import ResourceAccessors.Proofs.Disk.Frame
import ResourceAccessors.Proofs.Json.Grammar
import ResourceAccessors.Proofs.Stored.Shape

/-!
# Saved and loaded states

What is saved under a key is loaded under this key, and nothing is loaded but what the text of a cache
with this key holds.
-/

namespace ResourceAccessors

open Disk (Location)

namespace Build

open Generation

section Saving

variable {disk made after : Disk} {artifactDir : FilePath} {folder : Location} {key : String}
  {state : State} {content : ByteArray}

end Saving

end Build

end ResourceAccessors
