import BlockStates.File.Error

/-!
# Access to files

What a run needs of the files around it.  Runs are written for any monad that
offers this, so that one definition works on a tree that is a value and on the
files of the machine.
-/

set_option autoImplicit false

namespace BlockStates

class FileAccess (Context : Type → Type) where
  readText : String → Context (Except FileError String)
  /-- Creates a directory and the missing ones above it. -/
  createDirectories : String → Context (Except FileError Unit)
  /-- Gives a file a new content, and creates it if it is missing. -/
  writeText : String → String → Context (Except FileError Unit)

export FileAccess (readText createDirectories writeText)

end BlockStates
