import BlockStates.Command.Run

/-!
# The program

Takes a command from the arguments, runs it on the files of the machine, prints
the unit or the causes of a failure, and reports events on the error channel.
-/

set_option autoImplicit false

namespace BlockStates

/-- The number of an error of the machine, which may be given negated. -/
def errorNumber (code : UInt32) : UInt32 :=
  if code < 0x80000000 then code else 0 - code

def FileError.ofMachine (error : IO.Error) : FileError :=
  match error with
  | .noFileOrDirectory .. => .notFound
  | .alreadyExists .. => .alreadyExists
  | .invalidArgument _ code _ =>
    if errorNumber code = 36 then .nameTooLong else .other (toString error)
  | .inappropriateType _ code _ =>
    if errorNumber code = 20 then .notDirectory
    else if errorNumber code = 21 then .isDirectory
    else .other (toString error)
  | _ => .other (toString error)

/-- Runs an access to the machine by a path and catches its error. -/
def guarded {Value : Type} (path : String) (access : IO Value) :
    IO (Except FileError Value) := do
  match (Path.ofText path).check with
  | .error error => return .error error
  | .ok () =>
    try
      return .ok (← access)
    catch error =>
      return .error (.ofMachine error)

instance : FileAccess IO where
  readText path := do
    match ← guarded path (IO.FS.readBinFile path) with
    | .error error => return .error error
    | .ok content =>
      match String.fromUTF8? content with
      | some text => return .ok text
      | none => return .error .notText
  createDirectories path := guarded path (IO.FS.createDirAll path)
  writeText path text := guarded path (IO.FS.writeFile path text)

def usage : String :=
  "Generate Rust block-state types from a block catalog\n\n" ++
    "Usage: blockgen [OPTIONS] --input <INPUT>\n\n" ++
    "Options:\n" ++
    "  -i, --input <INPUT>                Path to the JSON block catalog\n" ++
    "  -o, --output <OUTPUT>              Output file for the generated code (default: stdout)\n" ++
    "      --trait-path <TRAIT_PATH>      Module the generated code imports the traits from\n" ++
    "      --license-file <LICENSE_FILE>  File whose contents replace the license banner\n" ++
    "      --state-table                  Also emit `all_block_states()`\n" ++
    "  -v, --verbose                      Enable debug logging\n" ++
    "  -h, --help                         Print help\n" ++
    "  -V, --version                      Print version\n"

/-- What the program says when arguments give no command, and its exit code. -/
def UsageStop.answer : UsageStop → String × UInt32
  | .help => (usage, 0)
  | .version => ("blockgen 0.1.0\n", 0)
  | .unknownArgument => ("error: unexpected argument found\n\n" ++ usage, 2)
  | .invalidValue => ("error: a value is required\n\n" ++ usage, 2)
  | .argumentConflict => ("error: an argument cannot be used multiple times\n\n" ++ usage, 2)
  | .tooManyValues => ("error: unexpected value for a flag\n\n" ++ usage, 2)
  | .missingRequiredArgument =>
    ("error: the required argument --input was not provided\n\n" ++ usage, 2)

def Event.line (event : Event) : String :=
  let level := match event.level with
    | .debug => "DEBUG"
    | .info => "INFO"
    | .warn => "WARN"
  let fields := event.fields.map fun field => s!" {field.1}={field.2}"
  s!"{level} {event.source}: {event.message}{String.join fields}"

def Event.isShown (verbose : Bool) (event : Event) : Bool :=
  verbose || event.level != .debug

def execute (arguments : List String) : IO UInt32 := do
  match Command.ofArguments arguments with
  | .error stop =>
    let (text, code) := stop.answer
    if code = 0 then IO.print text else IO.eprint text
    return code
  | .ok command =>
    let report ← (command.run : IO Report)
    for event in report.events do
      if event.isShown command.verbose then IO.eprintln event.line
    IO.print report.printed
    match report.result with
    | .ok () => return 0
    | .error error =>
      IO.eprintln ("Error: " ++ String.intercalate "\nCaused by: " error.chain)
      return 1

end BlockStates

def main (arguments : List String) : IO UInt32 :=
  BlockStates.execute arguments
