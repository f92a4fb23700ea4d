/-!
# File errors

Why a file could not be read or written, with the wording of the operating
system.
-/

set_option autoImplicit false

namespace BlockStates

inductive FileError where
  | notFound
  | alreadyExists
  | notDirectory
  | isDirectory
  /-- A path, or a name in it, has too many bytes. -/
  | nameTooLong
  /-- A path holds the character NUL, which ends paths. -/
  | nulInPath
  | notText
  | other (message : String)
  deriving DecidableEq, Repr

def FileError.message : FileError → String
  | .notFound => "No such file or directory (os error 2)"
  | .alreadyExists => "File exists (os error 17)"
  | .notDirectory => "Not a directory (os error 20)"
  | .isDirectory => "Is a directory (os error 21)"
  | .nameTooLong => "File name too long (os error 36)"
  | .nulInPath => "file name contained an unexpected NUL byte"
  | .notText => "stream did not contain valid UTF-8"
  | .other message => message

end BlockStates
