import BlockStates.SourceUnit

/-!
# Generation

From the text of a catalog to the text of a unit.
-/

set_option autoImplicit false

namespace BlockStates

inductive GenerationError where
  | reading (error : ReadError)
  | defect (defect : Defect)
  | file (error : FileError)
  deriving DecidableEq, Repr

/-- The wording of a read error, followed by that of its cause. -/
def ReadError.chain (error : ReadError) : List String :=
  error.message ::
    match error with
    | .json error => [error.message]
    | .missingStates _ => []
    | .file error => [error.message]

def Defect.chain (defect : Defect) : List String :=
  defect.message ::
    match defect with
    | .unreadable error => error.chain
    | _ => []

namespace GenerationError

def message : GenerationError → String
  | .reading cause => "catalog parse error: " ++ cause.message
  | .defect cause => "catalog error: " ++ cause.message
  | .file cause => "IO error: " ++ cause.message

def chain (error : GenerationError) : List String :=
  error.message ::
    match error with
    | .reading cause => cause.chain
    | .defect cause => cause.chain
    | .file cause => [cause.message]

end GenerationError

def readCatalog (text : String) : Logged (Except ReadError Catalog) :=
  match Catalog.read text with
  | .error error => ⟨.error error, []⟩
  | .ok catalog => ⟨.ok catalog, [catalog.readEvent]⟩

def generate (text : String) (options : Options) : Logged (Except GenerationError String) :=
  match Catalog.read text with
  | .error error => ⟨.error (.reading error), []⟩
  | .ok catalog =>
    match Layout.ofCatalog catalog with
    | .error defect => ⟨.error (.defect defect), [catalog.readEvent]⟩
    | .ok layout =>
      let generated := layout.generate options
      ⟨.ok generated.value, catalog.readEvent :: generated.events⟩

end BlockStates
