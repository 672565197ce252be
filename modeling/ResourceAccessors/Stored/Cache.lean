import ResourceAccessors.Json.Parser
import ResourceAccessors.Json.Printer
import ResourceAccessors.Stored.State

/-!
# The stored cache

The file that keeps the state of the last pass. It is used only by a generator of the same version
for the same project folder; a file that does not read as such a cache counts as absent.
-/

namespace ResourceAccessors.Stored

open Generation

/-- The version of the form of the cache. -/
def schemaVersion : Nat :=
  1

/-- The name of the cache file in the artifact folder. -/
def cacheName : String :=
  "index-v1.json"

/-- The key under which a project folder is cached. -/
def cacheKey (projectDir : FilePath) : String :=
  "embedres_core@" ++ Render.generatorVersion ++ "|" ++ slashed projectDir

/-- The cache of a state under a key. -/
def ofCache (key : String) (state : State) : Json :=
  .object [("schema_version", .ofNat schemaVersion), ("cache_key", .string key),
    ("state", ofState state)]

/-- The state in a cache, when the cache has the version and the key. -/
def cachedState (key : String) : Decoder State := fun json =>
  match structureFields ["schema_version", "cache_key", "state"] json with
  | some [version, foundKey, stored] => do
    let version ← natural version
    let foundKey ← text foundKey
    let state ← state stored
    if version = schemaVersion ∧ foundKey = key then some state else none
  | _ => none

/-- The content of the cache file. -/
def writeCache (key : String) (state : State) : ByteArray :=
  (ofCache key state).print.toUTF8

/-- The state in the content of a cache file. -/
def readCache (key : String) (bytes : ByteArray) : Option State :=
  (Json.ofBytes? bytes).bind (cachedState key)

end ResourceAccessors.Stored
