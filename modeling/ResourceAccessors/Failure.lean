import ResourceAccessors.Disk.Error

/-!
# Failures of a generation

Why a generation pass stops, with the text shown to the user, a code and advice.
-/

namespace ResourceAccessors

/-- The cause for which a generation pass stops. -/
inductive Failure
  | disk (cause : DiskError)
  | malformedConfig (reason : String)
  | invalidPattern (pattern reason : String)
  | missingEnvironment (name : String)
  | fileTooLarge (path : String) (size limit : Nat)
  | symlinkCycle (path : String)
  | unrenderable (template reason : String)
  | cancelled
  deriving DecidableEq, Repr, Inhabited

namespace Failure

/-- The text of a failure. -/
def message : Failure → String
  | .disk cause => cause.message
  | .malformedConfig reason => "failed to parse config file: " ++ reason
  | .invalidPattern pattern reason => "invalid pattern `" ++ pattern ++ "`: " ++ reason
  | .missingEnvironment name => "environment variable `" ++ name ++ "` is not set"
  | .fileTooLarge path size limit =>
    "file too large: `" ++ path ++ "` is " ++ toString size ++ " bytes (limit: " ++
      toString limit ++ " bytes)"
  | .symlinkCycle path => "symlink cycle detected at: `" ++ path ++ "`"
  | .unrenderable template reason =>
    "failed to render generated source `" ++ template ++ "`: " ++ reason
  | .cancelled => "generation was cancelled"

/-- The code of a failure. -/
def code : Failure → String
  | .disk _ => "embedres::io_error"
  | .malformedConfig _ => "embedres::config_parse"
  | .invalidPattern _ _ => "embedres::invalid_pattern"
  | .missingEnvironment _ => "embedres::missing_env"
  | .fileTooLarge _ _ _ => "embedres::file_too_large"
  | .symlinkCycle _ => "embedres::symlink_cycle"
  | .unrenderable _ _ => "embedres::template_render"
  | .cancelled => "embedres::cancelled"

/-- What the user can do about a failure, where there is something. -/
def help? : Failure → Option String
  | .malformedConfig _ =>
    some "check that embedres.toml is valid TOML with [resources] and/or [exclude] sections"
  | .invalidPattern _ _ =>
    some "[resources] patterns are globs and [exclude] patterns follow gitignore syntax"
  | .missingEnvironment _ =>
    some "embedres_core::build_script::generate() must be called from a cargo build script"
  | .fileTooLarge _ _ _ =>
    some "increase `max_file_size` in embedres.toml or exclude this file"
  | .symlinkCycle _ => some "remove the circular symlink or exclude this path"
  | .disk _ => none
  | .unrenderable _ _ => none
  | .cancelled => none

end Failure

end ResourceAccessors
