/-!
# Command lines

The options of the command and how a list of arguments gives them.  Arguments
are taken from the left; the value of an option that stands apart from it is
settled when the next option or flag comes, or at the end.
-/

set_option autoImplicit false

namespace BlockStates

structure Command where
  input : String
  /-- The file to write; without one the unit is printed. -/
  output : Option String
  traitPath : String
  licenseFile : Option String
  stateTable : Bool
  verbose : Bool
  deriving DecidableEq, Repr

inductive UsageStop where
  | help
  | version
  | unknownArgument
  /-- An option without a value, or with an empty path. -/
  | invalidValue
  /-- An option or a flag that is given twice. -/
  | argumentConflict
  | tooManyValues
  | missingRequiredArgument
  deriving DecidableEq, Repr

inductive ValueOption where
  | input
  | output
  | traitPath
  | licenseFile
  deriving DecidableEq, Repr

inductive Flag where
  | stateTable
  | verbose
  | help
  | version
  deriving DecidableEq, Repr

inductive Switch where
  | option (option : ValueOption)
  | flag (flag : Flag)
  deriving DecidableEq, Repr

def Switch.ofLong? (name : List Char) : Option Switch :=
  match String.ofList name with
  | "input" => some (.option .input)
  | "output" => some (.option .output)
  | "trait-path" => some (.option .traitPath)
  | "license-file" => some (.option .licenseFile)
  | "state-table" => some (.flag .stateTable)
  | "verbose" => some (.flag .verbose)
  | "help" => some (.flag .help)
  | "version" => some (.flag .version)
  | _ => none

def Switch.ofShort? : Char → Option Switch
  | 'i' => some (.option .input)
  | 'o' => some (.option .output)
  | 'v' => some (.flag .verbose)
  | 'h' => some (.flag .help)
  | 'V' => some (.flag .version)
  | _ => none

/-- Whether an option's value is a path, which may not be empty. -/
def ValueOption.isPath : ValueOption → Bool
  | .input | .output | .licenseFile => true
  | .traitPath => false

structure Draft where
  input : Option String := none
  output : Option String := none
  traitPath : Option String := none
  licenseFile : Option String := none
  stateTable : Bool := false
  verbose : Bool := false
  /-- An option that is not settled yet, with its value if that has come. -/
  pending : Option (ValueOption × Option String) := none
  deriving DecidableEq, Repr

namespace Draft

def value? (draft : Draft) : ValueOption → Option String
  | .input => draft.input
  | .output => draft.output
  | .traitPath => draft.traitPath
  | .licenseFile => draft.licenseFile

def withValue (draft : Draft) (option : ValueOption) (value : String) : Draft :=
  match option with
  | .input => { draft with input := some value }
  | .output => { draft with output := some value }
  | .traitPath => { draft with traitPath := some value }
  | .licenseFile => { draft with licenseFile := some value }

def assign (draft : Draft) (option : ValueOption) (value : String) : Except UsageStop Draft :=
  if (draft.value? option).isSome then .error .argumentConflict
  else if option.isPath ∧ value.isEmpty then .error .invalidValue
  else .ok (draft.withValue option value)

def settle (draft : Draft) : Except UsageStop Draft :=
  match draft.pending with
  | none => .ok draft
  | some (_, none) => .error .invalidValue
  | some (option, some value) => { draft with pending := none }.assign option value

def raise (draft : Draft) (flag : Flag) : Except UsageStop Draft := do
  let draft ← draft.settle
  match flag with
  | .help => throw .help
  | .version => throw .version
  | .stateTable =>
    if draft.stateTable then throw .argumentConflict else return { draft with stateTable := true }
  | .verbose =>
    if draft.verbose then throw .argumentConflict else return { draft with verbose := true }

def take (draft : Draft) (option : ValueOption) (attached : Option String) :
    Except UsageStop Draft := do
  let draft ← draft.settle
  match attached with
  | some value => draft.assign option value
  | none => return { draft with pending := some (option, none) }

def takeLong (draft : Draft) (text : List Char) : Except UsageStop Draft :=
  let name := text.takeWhile (· != '=')
  let attached :=
    match text.dropWhile (· != '=') with
    | [] => none
    | _ :: value => some (String.ofList value)
  match Switch.ofLong? name, attached with
  | none, _ => .error .unknownArgument
  | some (.flag _), some _ => .error .tooManyValues
  | some (.flag flag), none => draft.raise flag
  | some (.option option), attached => draft.take option attached

/-- The value that is attached to an option's letter; an equals sign in front
of it does not belong to it. -/
def attachedValue : List Char → Option String
  | [] => none
  | '=' :: value => some (String.ofList value)
  | value => some (String.ofList value)

/-- Takes letters from behind a dash: flags, and at last an option to which the
rest is attached. -/
def takeShort (draft : Draft) : List Char → Except UsageStop Draft
  | [] => .ok draft
  | letter :: rest =>
    match Switch.ofShort? letter with
    | none => .error .unknownArgument
    | some (.flag flag) =>
      match draft.raise flag with
      | .error stop => .error stop
      | .ok draft => draft.takeShort rest
    | some (.option option) => draft.take option (attachedValue rest)

def takeValue (draft : Draft) (text : String) : Except UsageStop Draft :=
  match draft.pending with
  | some (option, none) => .ok { draft with pending := some (option, some text) }
  | _ => .error .unknownArgument

/-- Takes arguments from the left.  Behind a lone `--` no argument is known. -/
def takeAll (draft : Draft) : List String → Except UsageStop Draft
  | [] => .ok draft
  | argument :: rest =>
    let next : Except UsageStop Draft :=
      match argument.toList with
      | ['-', '-'] => if rest.isEmpty then .ok draft else .error .unknownArgument
      | '-' :: '-' :: text => draft.takeLong text
      | '-' :: letter :: text => draft.takeShort (letter :: text)
      | _ => draft.takeValue argument
    match next with
    | .error stop => .error stop
    | .ok draft => draft.takeAll rest

end Draft

namespace Command

def standardTraitPath : String := "crate::block"

def ofArguments (arguments : List String) : Except UsageStop Command := do
  let draft ← ({} : Draft).takeAll arguments
  let draft ← draft.settle
  match draft.input with
  | none => throw .missingRequiredArgument
  | some input =>
    return {
      input
      output := draft.output
      traitPath := draft.traitPath.getD standardTraitPath
      licenseFile := draft.licenseFile
      stateTable := draft.stateTable
      verbose := draft.verbose }

end Command

end BlockStates
