import BlockStates.Command.Arguments
import BlockStates.File.Generation

/-!
# Runs of the command

What a command does with the files around it, what it prints, and what it says
when it fails.
-/

set_option autoImplicit false

namespace BlockStates

inductive RunError where
  | licenseFile (path : String) (error : FileError)
  | input (path : String) (error : FileError)
  | printing (input : String) (error : GenerationError)
  | writing (output input : String) (error : GenerationError)
  deriving DecidableEq, Repr

/-- What a run was about when it failed, followed by the causes. -/
def RunError.chain : RunError → List String
  | .licenseFile path error => [s!"failed to read license file {path}", error.message]
  | .input path error => [s!"failed to read {path}", error.message]
  | .printing path error => s!"failed to generate from {path}" :: error.chain
  | .writing target path error => s!"failed to generate {target} from {path}" :: error.chain

structure Report where
  result : Except RunError Unit
  printed : String
  events : List Event

namespace Command

variable {Context : Type → Type} [Monad Context] [FileAccess Context]

def options (command : Command) : Context (Except RunError Options) := do
  let options : Options :=
    { traitPath := command.traitPath, stateTable := command.stateTable }
  match command.licenseFile with
  | none => return .ok options
  | some path =>
    match ← readText path with
    | .error error => return .error (.licenseFile path error)
    | .ok header => return .ok { options with licenseHeader := header }

def print (command : Command) (options : Options) : Context Report := do
  match ← readText command.input with
  | .error error => return ⟨.error (.input command.input error), "", []⟩
  | .ok text =>
    let generated := generate text options
    match generated.value with
    | .error error => return ⟨.error (.printing command.input error), "", generated.events⟩
    | .ok code => return ⟨.ok (), code, generated.events ++ [.unitPrinted code.utf8ByteSize]⟩

def write (command : Command) (options : Options) (output : String) : Context Report := do
  let written ← generateToFile command.input output options
  match written.value with
  | .error error => return ⟨.error (.writing output command.input error), "", written.events⟩
  | .ok () => return ⟨.ok (), "", written.events⟩

def run (command : Command) : Context Report := do
  match ← command.options with
  | .error error => return ⟨.error error, "", []⟩
  | .ok options =>
    let report ←
      match command.output with
      | none => command.print options
      | some output => command.write options output
    let started : Event := .runStarted command.input options.traitPath options.stateTable
    return { report with events := started :: report.events }

end Command

end BlockStates
