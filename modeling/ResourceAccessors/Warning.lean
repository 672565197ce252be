/-!
# Warnings

What is passed over without stopping a generation, and the results that carry such warnings.
-/

namespace ResourceAccessors

/-- Something that was passed over. -/
inductive Warning
  | unparsableSource
  | sourceNotText
  | malformedCfg
  | malformedArguments
  | nonStringArgument
  | extraArgument
  | unnamedArgument
  | unknownArgument
  | hookNotPath
  | hookGeneric
  | hookOutsideCrate
  | blankNamespace
  | emptySources
  | unreadableIgnoreRules
  deriving DecidableEq, Repr, Inhabited

/-- The text of a warning. -/
def Warning.message : Warning → String
  | .unparsableSource => "skipping source file that does not parse"
  | .sourceNotText => "skipping source file that is not UTF-8"
  | .malformedCfg => "ignoring malformed cfg attribute"
  | .malformedArguments => "ignoring malformed attribute arguments"
  | .nonStringArgument => "ignoring non-string attribute argument"
  | .extraArgument => "ignoring extra attribute argument"
  | .unnamedArgument => "ignoring attribute argument with a non-identifier name"
  | .unknownArgument => "ignoring unknown attribute argument"
  | .hookNotPath => "ignoring hook that is not a path"
  | .hookGeneric => "ignoring hook path with generic arguments"
  | .hookOutsideCrate => "ignoring hook path that leaves the crate"
  | .blankNamespace => "`root_namespace` is blank; falling back to the package name"
  | .emptySources => "`sources` is empty; falling back to [\"src\"]"
  | .unreadableIgnoreRules => "ignoring unreadable .gitignore rules"

/-- A result with the warnings raised on the way to it, in order. -/
structure Warned (α : Type u) where
  value : α
  warnings : List Warning
  deriving Repr, Inhabited

namespace Warned

/-- The result of two steps, with the warnings of both. -/
def bind (first : Warned α) (next : α → Warned β) : Warned β :=
  let second := next first.value
  ⟨second.value, first.warnings ++ second.warnings⟩

instance : Monad Warned where
  pure value := ⟨value, []⟩
  bind := bind

/-- A step that raises one warning. -/
def raise (warning : Warning) : Warned Unit :=
  ⟨(), [warning]⟩

/-- What is returned without a warning has its value. -/
@[simp]
theorem value_pure (value : α) : (pure value : Warned α).value = value := rfl

/-- Steps one after the other pass their values on. -/
@[simp]
theorem value_bind (first : Warned α) (next : α → Warned β) :
    (first >>= next).value = (next first.value).value := rfl

end Warned

end ResourceAccessors
