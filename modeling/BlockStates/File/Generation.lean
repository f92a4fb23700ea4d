import BlockStates.File.Access
import BlockStates.File.Path
import BlockStates.Generation

/-!
# Generation with files

Reading a catalog from a file and writing the generated unit to another one.
Nothing is written unless a unit was generated.
-/

set_option autoImplicit false

namespace BlockStates

variable {Context : Type → Type} [Monad Context] [FileAccess Context]

def readCatalogFile (input : String) : Context (Logged (Except ReadError Catalog)) := do
  match ← readText input with
  | .error error => return ⟨.error (.file error), []⟩
  | .ok text => return readCatalog text

def generateFromFile (input : String) (options : Options) :
    Context (Logged (Except GenerationError String)) := do
  match ← readText input with
  | .error error => return ⟨.error (.file error), []⟩
  | .ok text => return generate text options

/-- Writes a text to a file, in a directory that is created if it is missing. -/
def writeFile (output text : String) : Context (Except FileError Unit) := do
  match (Path.ofText output).parent? with
  | none => writeText output text
  | some directory =>
    match ← createDirectories directory.text with
    | .error error => return .error error
    | .ok () => writeText output text

def generateToFile (input output : String) (options : Options) :
    Context (Logged (Except GenerationError Unit)) := do
  let generated ← generateFromFile input options
  match generated.value with
  | .error error => return ⟨.error error, generated.events⟩
  | .ok text =>
    match ← writeFile output text with
    | .error error => return ⟨.error (.file error), generated.events⟩
    | .ok () => return ⟨.ok (), generated.events ++ [.fileWritten input output]⟩

end BlockStates
