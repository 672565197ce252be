/-!
# Read errors

Why an accessor cannot produce its text.
-/

namespace ResourceAccessors.Embedded

/-- The cause for which an embedded resource cannot be read. -/
inductive ReadError
  | notFound (name : String)
  | notText (name : String)
  deriving DecidableEq, Repr, Inhabited

namespace ReadError

/-- The text of a read error. -/
def message : ReadError → String
  | .notFound name => "embedded resource `" ++ name ++ "` was not found"
  | .notText name => "embedded resource `" ++ name ++ "` is not valid UTF-8"

/-- The code of a read error. -/
def code : ReadError → String
  | .notFound _ => "embedres::resource_not_found"
  | .notText _ => "embedres::invalid_utf8"

/-- What the user can do about a read error, where there is something. -/
def help? : ReadError → Option String
  | .notFound _ =>
    some ("the file was discovered when the accessor was generated but is not part of the " ++
      "embedded manifest; check the `[resources] embed` patterns in embedres.toml")
  | .notText _ => none

end ReadError

end ResourceAccessors.Embedded
