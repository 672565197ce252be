/-!
# Disk errors

Why an operation on the disk fails, with the text and the number that the system gives for it.
-/

namespace ResourceAccessors

/-- The cause of a failed disk operation. A cause that the disk model does not produce is kept as
its text. -/
inductive DiskError
  | notFound
  | exists
  | notDirectory
  | isDirectory
  | nameTooLong
  | directoryNotEmpty
  | tooManyLinks
  | notText
  | other (message : String)
  deriving DecidableEq, Repr, Inhabited

/-- The text of a disk error. -/
def DiskError.message : DiskError → String
  | .notFound => "No such file or directory (os error 2)"
  | .exists => "File exists (os error 17)"
  | .notDirectory => "Not a directory (os error 20)"
  | .isDirectory => "Is a directory (os error 21)"
  | .nameTooLong => "File name too long (os error 36)"
  | .directoryNotEmpty => "Directory not empty (os error 39)"
  | .tooManyLinks => "Too many levels of symbolic links (os error 40)"
  | .notText => "stream did not contain valid UTF-8"
  | .other message => message

end ResourceAccessors
