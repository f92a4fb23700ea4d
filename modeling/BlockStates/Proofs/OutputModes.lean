import BlockStates.Command.Run
import BlockStates.Proofs.FileGeneration

/-!
# Printing and writing agree

A command prints its unit or writes it to a file.  Both ways read the same files
and generate the same unit, so that they fail alike before anything is written,
and the file holds what would have been printed, whichever file it is.
-/

set_option autoImplicit false

namespace BlockStates.Command

open FileTree (bind_tree readText_tree)

variable {tree : FileTree} {command : Command} {options : Options} {text : String}

/-! ## The options -/

/-- What the options of a command come to on a tree. -/
def optionsOn (command : Command) (tree : FileTree) : Except RunError Options :=
  ((command.options : StateM FileTree _) tree).1

theorem options_tree (command : Command) (tree : FileTree) :
    (command.options : StateM FileTree _) tree = (command.optionsOn tree, tree) := by
  have unchanged : ((command.options : StateM FileTree _) tree).2 = tree := by
    unfold options
    cases command.licenseFile with
    | none => rfl
    | some path =>
      dsimp only
      rw [bind_tree, readText_tree]
      cases tree.readText path <;> rfl
  exact Prod.ext rfl unchanged

/-! ## Printing -/

theorem print_of_unread {error : FileError} (reading : tree.readText command.input = .error error) :
    (command.print options : StateM FileTree _) tree =
      (⟨.error (.input command.input error), "", []⟩, tree) := by
  rw [print, bind_tree, readText_tree, reading]
  rfl

theorem print_of_failed {error : GenerationError} (reading : tree.readText command.input = .ok text)
    (failed : (generate text options).value = .error error) :
    (command.print options : StateM FileTree _) tree =
      (⟨.error (.printing command.input error), "", (generate text options).events⟩, tree) := by
  rw [print, bind_tree, readText_tree, reading]
  dsimp only
  rw [failed]
  rfl

theorem print_of_generated {code : String} (reading : tree.readText command.input = .ok text)
    (generated : (generate text options).value = .ok code) :
    (command.print options : StateM FileTree _) tree =
      (⟨.ok (), code, (generate text options).events ++ [.unitPrinted code.utf8ByteSize]⟩, tree) := by
  rw [print, bind_tree, readText_tree, reading]
  dsimp only
  rw [generated]
  rfl

/-! ## Writing -/

theorem write_tree (command : Command) (tree : FileTree) (options : Options) (output : String) :
    ((command.write options output : StateM FileTree _) tree).1.result =
        ((generateToFile command.input output options : StateM FileTree _) tree).1.value.mapError
          (.writing output command.input) ∧
      ((command.write options output : StateM FileTree _) tree).2 =
        ((generateToFile command.input output options : StateM FileTree _) tree).2 := by
  rw [write, bind_tree]
  generalize (generateToFile command.input output options : StateM FileTree _) tree = run
  rcases run with ⟨⟨error | ⟨⟨⟩⟩, events⟩, after⟩ <;> exact ⟨rfl, rfl⟩

/-- A file that was written by a path is read by the same path. -/
theorem readText_of_writeFile {after : FileTree} {output content : String}
    (written : (writeFile output content : StateM FileTree _) tree = (.ok (), after)) :
    after.readText output = .ok content := by
  obtain ⟨directory, name, room, rfl⟩ := FileTree.writeFile_eq_ok written
  exact room.readText_put content

theorem print_agrees (command : Command) (tree : FileTree) (options : Options) (output : String) :
    let printed := (command.print options : StateM FileTree _) tree
    let written := (generateToFile command.input output options : StateM FileTree _) tree
    printed.2 = tree ∧
      (∀ error, printed.1.result = .error error →
        (∃ other, written.1.value = .error other) ∧ written.2 = tree) ∧
      (printed.1.result = .ok () → written.1.value = .ok () →
        written.2.readText output = .ok printed.1.printed) := by
  intro printed written
  cases reading : tree.readText command.input with
  | error error =>
    have unprinted : printed = _ := print_of_unread reading
    have unwritten : written = _ := FileTree.generateToFile_of_unread output reading
    rw [unprinted, unwritten]
    exact ⟨rfl, fun _ _ => ⟨⟨_, rfl⟩, rfl⟩, nofun⟩
  | ok text =>
    cases generated : (generate text options).value with
    | error error =>
      have unprinted : printed = _ := print_of_failed reading generated
      have unwritten : written = _ := FileTree.generateToFile_of_failed output reading generated
      rw [unprinted, unwritten]
      exact ⟨rfl, fun _ _ => ⟨⟨_, rfl⟩, rfl⟩, nofun⟩
    | ok code =>
      have isPrinted : printed = _ := print_of_generated reading generated
      obtain ⟨value, after⟩ : written.1.value = _ ∧ written.2 = _ :=
        FileTree.generateToFile_of_generated output reading generated
      rw [isPrinted, value, after]
      refine ⟨rfl, nofun, fun _ success => ?_⟩
      cases file : (writeFile output code : StateM FileTree _) tree with
      | mk result left =>
        rw [file] at success
        cases result with
        | error error => cases success
        | ok done => exact readText_of_writeFile file

/-! ## Runs -/

theorem eq_ok_of_mapError {Cause Error Value : Type} {wrap : Cause → Error}
    {result : Except Cause Value} {value : Value} (mapped : result.mapError wrap = .ok value) :
    result = .ok value := by
  cases result with
  | error cause => cases mapped
  | ok found => exact congrArg _ (Except.ok.inj mapped)

theorem run_of_refused {error : RunError} (refused : command.optionsOn tree = .error error) :
    (command.run : StateM FileTree _) tree = (⟨.error error, "", []⟩, tree) := by
  rw [run, bind_tree, options_tree, refused]
  rfl

theorem run_of_printing (chosen : command.optionsOn tree = .ok options)
    (noOutput : command.output = none) :
    ((command.run : StateM FileTree _) tree).1.result =
        ((command.print options : StateM FileTree _) tree).1.result ∧
      ((command.run : StateM FileTree _) tree).1.printed =
        ((command.print options : StateM FileTree _) tree).1.printed ∧
      ((command.run : StateM FileTree _) tree).2 =
        ((command.print options : StateM FileTree _) tree).2 := by
  rw [run, bind_tree, options_tree, chosen, noOutput]
  dsimp only
  rw [bind_tree]
  generalize (command.print options : StateM FileTree _) tree = printed
  exact ⟨rfl, rfl, rfl⟩

theorem run_of_writing {output : String} (chosen : command.optionsOn tree = .ok options)
    (toFile : command.output = some output) :
    ((command.run : StateM FileTree _) tree).1.result =
        ((generateToFile command.input output options : StateM FileTree _) tree).1.value.mapError
          (.writing output command.input) ∧
      ((command.run : StateM FileTree _) tree).2 =
        ((generateToFile command.input output options : StateM FileTree _) tree).2 := by
  obtain ⟨result, after⟩ := write_tree command tree options output
  rw [← result, ← after, run, bind_tree, options_tree, chosen, toFile]
  dsimp only
  rw [bind_tree]
  generalize (command.write options output : StateM FileTree _) tree = written
  exact ⟨rfl, rfl⟩

def printing (command : Command) : Command :=
  { command with output := none }

def writing (command : Command) (path : String) : Command :=
  { command with output := some path }

/-- Printing changes no file.  If it fails, so does writing to any file, and
changes nothing either; if it succeeds, a file that is written holds the text that
is printed. -/
theorem output_modes_agree (command : Command) (tree : FileTree) :
    let printed := (command.printing.run : StateM FileTree _) tree
    let written (path : String) := ((command.writing path).run : StateM FileTree _) tree
    printed.2 = tree ∧
      (∀ error, printed.1.result = .error error →
        ∀ path, (∃ other, (written path).1.result = .error other) ∧ (written path).2 = tree) ∧
      (printed.1.result = .ok () →
        ∀ path, (written path).1.result = .ok () →
          (written path).2.readText path = .ok printed.1.printed) := by
  intro printed written
  cases chosen : command.optionsOn tree with
  | error error =>
    have forPrint : command.printing.optionsOn tree = .error error := chosen
    have forFile (path : String) : (command.writing path).optionsOn tree = .error error := chosen
    have unprinted : printed = _ := run_of_refused forPrint
    have unwritten (path : String) : written path = _ := run_of_refused (forFile path)
    rw [unprinted]
    refine ⟨rfl, fun _ _ path => ?_, nofun⟩
    rw [unwritten path]
    exact ⟨⟨error, rfl⟩, rfl⟩
  | ok options =>
    have forPrint : command.printing.optionsOn tree = .ok options := chosen
    have forFile (path : String) : (command.writing path).optionsOn tree = .ok options := chosen
    obtain ⟨result, text, after⟩ : printed.1.result = _ ∧ printed.1.printed = _ ∧ printed.2 = _ :=
      run_of_printing forPrint rfl
    have toFile (path : String) : (written path).1.result = _ ∧ (written path).2 = _ :=
      run_of_writing (forFile path) rfl
    rw [result, text, after]
    obtain ⟨unchanged, -, -⟩ := print_agrees command.printing tree options ""
    refine ⟨unchanged, fun error failed path => ?_, fun success path done => ?_⟩
    · obtain ⟨-, failure, -⟩ := print_agrees command.printing tree options path
      obtain ⟨⟨other, value⟩, same⟩ := failure error failed
      rw [(toFile path).1, (toFile path).2]
      exact ⟨⟨.writing path command.input other, congrArg _ value⟩, same⟩
    · obtain ⟨-, -, sameText⟩ := print_agrees command.printing tree options path
      rw [(toFile path).1] at done
      rw [(toFile path).2]
      exact sameText success (eq_ok_of_mapError done)

/-- A catalog without blocks and the header of its unit, which both can be written over. -/
def licensedTree : FileTree :=
  .ofEntries ["work"]
    [("in.json", .file "\x7b\x7d".toUTF8), ("license.txt", .file "Free for all.".toUTF8)]

def licensedCommand (licenseFile : String) : Command where
  input := "in.json"
  output := none
  traitPath := Options.standard.traitPath
  licenseFile := some licenseFile
  stateTable := true
  verbose := false

/-- The unit takes the place of its own header and of its own catalog; without the
header nothing is written. -/
theorem output_modes_agree_of_licensedTree :
    let printed := ((licensedCommand "license.txt").run : StateM FileTree _) licensedTree
    let written (path : String) :=
      (((licensedCommand "license.txt").writing path).run : StateM FileTree _) licensedTree
    (written "license.txt").2.readText "license.txt" = .ok printed.1.printed ∧
      (written "in.json").2.readText "in.json" = .ok printed.1.printed ∧
      ((((licensedCommand "none.txt").writing "new/out.rs").run : StateM FileTree _)
        licensedTree).2 = licensedTree := by
  intro printed written
  obtain ⟨-, -, agree⟩ := output_modes_agree (licensedCommand "license.txt") licensedTree
  obtain ⟨-, refused, -⟩ := output_modes_agree (licensedCommand "none.txt") licensedTree
  have success : printed.1.result = .ok () := by decide
  have overLicense : (written "license.txt").1.result = .ok () := by decide
  have overInput : (written "in.json").1.result = .ok () := by decide
  have failure : (((licensedCommand "none.txt").run : StateM FileTree _) licensedTree).1.result =
      .error (.licenseFile "none.txt" .notFound) := by
    decide
  exact ⟨agree success "license.txt" overLicense, agree success "in.json" overInput,
    (refused _ failure "new/out.rs").2⟩

end BlockStates.Command
