import BlockStates.File.Generation
import BlockStates.Proofs.DirectoryTrees
import BlockStates.Proofs.GeneratedUnit

/-!
# Generation with files changes all or nothing

A run that writes a unit to a file leaves the file and the directories above it.
A run that fails leaves the tree as it was, except where the path itself is
refused only when the directories above it are there already.
-/

set_option autoImplicit false

namespace BlockStates

open FileTree (Proper Short DirectoriesMade)

/-! ## Paths of files -/

/-- A path that goes down to a file: it neither stays nor goes back on its way,
and does not ask for a directory. -/
structure Path.NamesFile (path : Path) : Prop where
  proper : Proper path.names
  noSlash : path.asksDirectory = false

/-- A path that no access refuses for its spelling. -/
structure Path.WithinLimits (path : Path) : Prop where
  noNul : '\x00' ∉ path.text.toList
  size : path.text.utf8ByteSize ≤ Path.greatestSize
  short : Short path.names

theorem Path.WithinLimits.check_eq {path : Path} (within : path.WithinLimits) :
    path.check = .ok () := by
  simp [check, within.noNul, Nat.not_lt.mpr within.size]

theorem Path.NamesFile.noDot {path : Path} (namesFile : path.NamesFile) : "." ∉ path.names := by
  intro dot
  simpa [FileTree.isDots] using namesFile.proper "." dot

namespace FileTree

/-! ## Runs on a tree -/

theorem bind_tree {First Second : Type} (first : StateM FileTree First)
    (second : First → StateM FileTree Second) (tree : FileTree) :
    (first >>= second) tree = second (first tree).1 (first tree).2 := rfl

theorem readText_tree (tree : FileTree) (path : String) :
    (FileAccess.readText path : StateM FileTree _) tree = (tree.readText path, tree) := rfl

theorem createDirectories_tree (tree : FileTree) (path : String) :
    (FileAccess.createDirectories path : StateM FileTree _) tree =
      (tree.createDirectories path).swap := rfl

theorem generateFromFile_tree (tree : FileTree) (input : String) (options : Options) :
    (generateFromFile input options : StateM FileTree _) tree =
      (match tree.readText input with
        | .error error => ⟨.error (.file error), []⟩
        | .ok text => generate text options, tree) := by
  rw [generateFromFile, bind_tree, readText_tree]
  cases tree.readText input <;> rfl

def createAbove (tree : FileTree) (output : String) : FileTree × Except FileError Unit :=
  match (Path.ofText output).parent? with
  | none => (tree, .ok ())
  | some directory => tree.createDirectories directory.text

theorem writeFile_tree (tree : FileTree) (output text : String) :
    (writeFile output text : StateM FileTree _) tree =
      match tree.createAbove output with
      | (made, .error error) => (.error error, made)
      | (made, .ok ()) => (made.writeText output text).swap := by
  unfold writeFile createAbove
  cases (Path.ofText output).parent? with
  | none => rfl
  | some directory =>
    dsimp only
    rw [bind_tree, createDirectories_tree]
    generalize tree.createDirectories directory.text = created
    rcases created with ⟨made, error | ⟨⟨⟩⟩⟩ <;> rfl

section GenerateToFile

variable {tree : FileTree} {input text : String} {options : Options}

theorem generateToFile_of_unread {error : FileError} (output : String)
    (reading : tree.readText input = .error error) :
    (generateToFile input output options : StateM FileTree _) tree =
      (⟨.error (.file error), []⟩, tree) := by
  rw [generateToFile, bind_tree, generateFromFile_tree, reading]
  rfl

theorem generateToFile_of_failed {error : GenerationError} (output : String)
    (reading : tree.readText input = .ok text)
    (failed : (generate text options).value = .error error) :
    (generateToFile input output options : StateM FileTree _) tree =
      (⟨.error error, (generate text options).events⟩, tree) := by
  rw [generateToFile, bind_tree, generateFromFile_tree, reading]
  dsimp only
  rw [failed]
  rfl

theorem generateToFile_of_generated {code : String} (output : String)
    (reading : tree.readText input = .ok text)
    (generated : (generate text options).value = .ok code) :
    ((generateToFile input output options : StateM FileTree _) tree).1.value =
        ((writeFile output code : StateM FileTree _) tree).1.mapError .file ∧
      ((generateToFile input output options : StateM FileTree _) tree).2 =
        ((writeFile output code : StateM FileTree _) tree).2 := by
  rw [generateToFile, bind_tree, generateFromFile_tree, reading]
  dsimp only
  rw [generated]
  dsimp only
  rw [bind_tree]
  generalize (writeFile output code : StateM FileTree _) tree = written
  rcases written with ⟨error | ⟨⟨⟩⟩, after⟩ <;> exact ⟨rfl, rfl⟩

end GenerateToFile

/-! ## The directories above a file -/

def placeAbove (tree : FileTree) (path : Path) : Location :=
  tree.start path ++ path.names.dropLast

theorem placeOf_eq {path : Path} {name : String} (tree : FileTree)
    (last : path.names.getLast? = some name) :
    tree.placeOf path = tree.placeAbove path ++ [name] := by
  rw [placeOf, placeAbove, List.append_assoc, List.dropLast_append_getLast? name last]

theorem placeOf_parent {output : String} {directory : Path} (tree : FileTree)
    (noDot : "." ∉ (Path.ofText output).names)
    (found : (Path.ofText output).parent? = some directory) :
    tree.placeOf (Path.ofText directory.text) = tree.placeAbove (Path.ofText output) := by
  rw [placeOf, placeAbove, start, start, Path.absolute_ofText_parent found,
    (Path.names_ofText_parent noDot found).2]

section CreateAbove

variable {tree : FileTree} {output : String} (wellFormed : tree.WellFormed)
  (namesFile : (Path.ofText output).NamesFile)

include wellFormed namesFile

theorem createAbove_made :
    DirectoriesMade (tree.placeAbove (Path.ofText output)) tree (tree.createAbove output).1 := by
  unfold createAbove
  split
  · exact .none tree
  · next directory found =>
    have names := (Path.names_ofText_parent namesFile.noDot found).2
    have proper : Proper (Path.ofText directory.text).names := by
      rw [names]
      exact namesFile.proper.dropLast
    rw [← placeOf_parent tree namesFile.noDot found]
    exact createDirectories_made wellFormed proper

/-- The directory of a file is there as before, or it is new and empty. -/
theorem createAbove_all_or_nothing (short : Short (Path.ofText output).names) :
    (tree.createAbove output).1 = tree ∨
      ((tree.createAbove output).2 = .ok () ∧ (Path.ofText output).names ≠ [] ∧
        (tree.createAbove output).1.IsEmptyDirectory (tree.placeAbove (Path.ofText output))) := by
  unfold createAbove
  split
  · exact Or.inl rfl
  · next directory found =>
    obtain ⟨named, names⟩ := Path.names_ofText_parent namesFile.noDot found
    have proper : Proper (Path.ofText directory.text).names := by
      rw [names]
      exact namesFile.proper.dropLast
    have shortAbove : Short (Path.ofText directory.text).names := by
      rw [names]
      exact short.dropLast
    rw [← placeOf_parent tree namesFile.noDot found]
    rcases createDirectories_all_or_nothing wellFormed proper shortAbove with
      same | ⟨success, isEmpty⟩
    · exact Or.inl same
    · exact Or.inr ⟨success, named, isEmpty⟩

end CreateAbove

theorem IsEmptyDirectory.roomFor {tree : FileTree} {path : Path} (wellFormed : tree.WellFormed)
    (namesFile : path.NamesFile) (within : path.WithinLimits) {name : String}
    (last : path.names.getLast? = some name)
    (isEmpty : tree.IsEmptyDirectory (tree.placeAbove path)) :
    tree.RoomFor path (tree.placeAbove path) name where
  checked := within.check_eq
  found := by
    refine (directoryOf_eq_ok_iff _ _ _).mpr ⟨?_, isEmpty.directory⟩
    exact wellFormed.follow_of_directory namesFile.proper.dropLast within.short.dropLast
      isEmpty.directory
  last := last
  noSlash := namesFile.noSlash
  proper := namesFile.proper name (List.mem_of_getLast? last)
  short := within.short name (List.mem_of_getLast? last)
  noDirectory := by simp [isEmpty.empty name []]

/-! ## What a run leaves -/

/-- A text is the file at a place, all above it are directories, which were so or
were missing, and nothing else is new. -/
structure FileWritten (before after : FileTree) (place : Location) (content : String) : Prop where
  workingDirectory : after.workingDirectory = before.workingDirectory
  written : after.entry? place = some (.file content.toUTF8)
  above : ∀ location, location <+: place → location ≠ place →
    after.entry? location = some .directory ∧
      (before.entry? location = some .directory ∨ before.entry? location = none)
  elsewhere : ∀ location, ¬ location <+: place → after.entry? location = before.entry? location

/-- At most directories above a place are new, where nothing stood. -/
structure OnlyDirectoriesAbove (before after : FileTree) (place : Location) : Prop where
  workingDirectory : after.workingDirectory = before.workingDirectory
  entries : ∀ location, after.entry? location = before.entry? location ∨
    (location <+: place ∧ location ≠ place ∧ before.entry? location = none ∧
      after.entry? location = some .directory)

theorem writeFile_eq_ok {tree after : FileTree} {output content : String}
    (run : (writeFile output content : StateM FileTree _) tree = (.ok (), after)) :
    ∃ directory name,
      (tree.createAbove output).1.RoomFor (Path.ofText output) directory name ∧
        after = (tree.createAbove output).1.put (directory ++ [name]) (.file content.toUTF8) := by
  rw [writeFile_tree] at run
  split at run
  · cases run
  · next made created =>
    rw [created]
    unfold writeText at run
    split at run
    · next changed written =>
      obtain rfl : changed = after := (Prod.mk.inj run).2
      exact (withText_eq_ok_iff made changed output content).mp written
    · cases run

/-- A failure leaves what was made for the file, and there is no room for it. -/
theorem writeFile_eq_error {tree after : FileTree} {output content : String} {error : FileError}
    (run : (writeFile output content : StateM FileTree _) tree = (.error error, after)) :
    after = (tree.createAbove output).1 ∧
      ((tree.createAbove output).2 = .ok () → ∀ directory name,
        ¬ (tree.createAbove output).1.RoomFor (Path.ofText output) directory name) := by
  rw [writeFile_tree] at run
  split at run
  · next made _ created =>
    obtain rfl : made = after := (Prod.mk.inj run).2
    rw [created]
    exact ⟨rfl, nofun⟩
  · next made created =>
    rw [created]
    unfold writeText at run
    split at run
    · cases run
    · next refused written =>
      obtain rfl : made = after := (Prod.mk.inj run).2
      refine ⟨rfl, ?_⟩
      intro _ directory name room
      have written' := (withText_eq_ok_iff made _ output content).mpr ⟨directory, name, room, rfl⟩
      rw [written] at written'
      cases written'

/-- A last name that is too long is found only when the directories are there. -/
theorem writeFile_of_long_name {tree : FileTree} {output name : String} (content : String)
    (last : (Path.ofText output).names.getLast? = some name)
    (long : Path.greatestNameSize < name.utf8ByteSize) :
    ∃ error, (writeFile output content : StateM FileTree _) tree =
      (.error error, (tree.createAbove output).1) := by
  cases written : (writeFile output content : StateM FileTree _) tree with
  | mk result after =>
    cases result with
    | ok done =>
      obtain ⟨directory, found, room, -⟩ := writeFile_eq_ok written
      obtain rfl : name = found := Option.some.inj (last.symm.trans room.last)
      exact absurd room.short (Nat.not_le.mpr long)
    | error error => exact ⟨error, by rw [(writeFile_eq_error written).1]⟩

section WriteFile

variable {tree after : FileTree} {output content : String} (wellFormed : tree.WellFormed)
  (namesFile : (Path.ofText output).NamesFile)

include wellFormed namesFile

theorem fileWritten_of_writeFile
    (run : (writeFile output content : StateM FileTree _) tree = (.ok (), after)) :
    FileWritten tree after (tree.placeOf (Path.ofText output)) content := by
  obtain ⟨directory, name, room, rfl⟩ := writeFile_eq_ok run
  have made := createAbove_made wellFormed namesFile
  have isDirectory := ((directoryOf_eq_ok_iff _ _ _).mp room.found).2
  have place : directory ++ [name] = tree.placeOf (Path.ofText output) := by
    rw [placeOf_of_directoryOf namesFile.proper room.found room.last, placeOf, placeOf, start,
      start, made.workingDirectory_eq]
  obtain rfl : directory = tree.placeAbove (Path.ofText output) := by
    rw [placeOf_eq tree room.last] at place
    exact List.append_cancel_right place
  rw [← place]
  refine ⟨made.workingDirectory_eq, entry?_put_self _ _ _ _, ?_, ?_⟩
  · intro location isAbove apart
    have onTheWay : location <+: tree.placeAbove (Path.ofText output) := by
      rcases List.prefix_concat_iff.mp isAbove with same | inside
      · exact absurd same apart
      · exact inside
    rw [entry?_put_of_ne (Ne.symm apart)]
    have isOuter : entry? (tree.createAbove output).1 location = some .directory :=
      (made.wellFormed wellFormed).directory_of_isPrefix onTheWay isDirectory
    refine ⟨isOuter, ?_⟩
    rcases made.entry?_cases location with kept | ⟨-, missing, -⟩
    · exact Or.inl (kept.symm.trans isOuter)
    · exact Or.inr missing
  · intro location apart
    rw [entry?_put_of_ne (fun same => apart (same ▸ List.prefix_refl _))]
    rcases made.entry?_cases location with kept | ⟨onTheWay, -, -⟩
    · exact kept
    · exact absurd (onTheWay.trans (List.prefix_append _ _)) apart

theorem onlyDirectoriesAbove_of_createAbove :
    OnlyDirectoriesAbove tree (tree.createAbove output).1
      (tree.placeOf (Path.ofText output)) := by
  have made := createAbove_made wellFormed namesFile
  refine ⟨made.workingDirectory_eq, ?_⟩
  intro location
  rcases made.entry?_cases location with kept | ⟨onTheWay, missing, isNew⟩
  · exact Or.inl kept
  · have inside : tree.placeAbove (Path.ofText output) <+: tree.placeOf (Path.ofText output) :=
      (List.prefix_append_right_inj _).mpr (List.dropLast_prefix _)
    refine Or.inr ⟨onTheWay.trans inside, ?_, missing, isNew⟩
    -- Only a path without names stands for its own directory, and that one is there.
    intro same
    have lengths := onTheWay.length_le
    rw [same, placeOf, placeAbove, List.length_append, List.length_append,
      List.length_dropLast] at lengths
    have noNames : (Path.ofText output).names = [] := List.length_eq_zero_iff.mp (by omega)
    rw [same, placeOf, noNames, List.append_nil, wellFormed.entry?_start] at missing
    cases missing

theorem unchanged_of_writeFile {error : FileError}
    (run : (writeFile output content : StateM FileTree _) tree = (.error error, after)) :
    after = tree ∨ (¬ (Path.ofText output).WithinLimits ∧
      OnlyDirectoriesAbove tree after (tree.placeOf (Path.ofText output))) := by
  obtain ⟨rfl, noRoom⟩ := writeFile_eq_error run
  by_cases within : (Path.ofText output).WithinLimits
  · rcases createAbove_all_or_nothing wellFormed namesFile within.short with
      same | ⟨created, named, isEmpty⟩
    · exact Or.inl same
    · have made := createAbove_made wellFormed namesFile
      obtain ⟨name, last⟩ := Option.ne_none_iff_exists'.mp (mt List.getLast?_eq_none_iff.mp named)
      have samePlace : (tree.createAbove output).1.placeAbove (Path.ofText output) =
          tree.placeAbove (Path.ofText output) := by
        rw [placeAbove, placeAbove, start, start, made.workingDirectory_eq]
      have room := IsEmptyDirectory.roomFor (made.wellFormed wellFormed) namesFile within last
        (samePlace ▸ isEmpty)
      exact absurd room (noRoom created _ name)
  · exact Or.inr ⟨within, onlyDirectoriesAbove_of_createAbove wellFormed namesFile⟩

end WriteFile

end FileTree

/-- A run that writes a unit leaves the file with just the unit and the directories
above it.  A run that fails leaves the tree as it was, unless the path of the file
is beyond the limits; then too it adds nothing but directories above the file. -/
theorem file_generation_atomic (tree : FileTree) (input output : String) (options : Options)
    (wellFormed : tree.WellFormed) (namesFile : (Path.ofText output).NamesFile) :
    let place := tree.placeOf (Path.ofText output)
    let run := (generateToFile input output options : StateM FileTree _) tree
    (∀ error, run.1.value = .error error →
      run.2 = tree ∨
        (¬ (Path.ofText output).WithinLimits ∧ tree.OnlyDirectoriesAbove run.2 place)) ∧
    (run.1.value = .ok () →
      ∃ text code, tree.readText input = .ok text ∧ (generate text options).value = .ok code ∧
        tree.FileWritten run.2 place code) := by
  intro place run
  cases reading : tree.readText input with
  | error error =>
    have unread : run = _ := FileTree.generateToFile_of_unread output reading
    rw [unread]
    exact ⟨fun _ _ => Or.inl rfl, nofun⟩
  | ok text =>
    cases generated : (generate text options).value with
    | error error =>
      have failed : run = _ := FileTree.generateToFile_of_failed output reading generated
      rw [failed]
      exact ⟨fun _ _ => Or.inl rfl, nofun⟩
    | ok code =>
      obtain ⟨value, after⟩ : run.1.value = _ ∧ run.2 = _ :=
        FileTree.generateToFile_of_generated output reading generated
      rw [value, after]
      cases written : (writeFile output code : StateM FileTree _) tree with
      | mk result after =>
        cases result with
        | error error =>
          exact ⟨fun _ _ => FileTree.unchanged_of_writeFile wellFormed namesFile written, nofun⟩
        | ok done =>
          exact ⟨nofun, fun _ => ⟨text, code, rfl, generated,
            FileTree.fileWritten_of_writeFile wellFormed namesFile written⟩⟩

def bareTree : FileTree :=
  .ofEntries ["work"] [("in.json", .file "\x7b\x7d".toUTF8)]

theorem bareTree_wellFormed : bareTree.WellFormed := by
  decide

theorem readText_bareTree : bareTree.readText "in.json" = .ok "\x7b\x7d" := by
  decide

theorem generate_bareText (options : Options) :
    (generate "\x7b\x7d" options).value = .ok (Layout.generate ∅ options).value := by
  have reading : Catalog.read "\x7b\x7d" = .ok ∅ := by decide
  have laidOut : Layout.ofCatalog ∅ = .ok ∅ := by decide
  simp only [generate, reading, laidOut]

/-- Two missing directories are made for the file; below a file none is. -/
theorem file_generation_atomic_of_bareTree :
    let run (output : String) :=
      (generateToFile "in.json" output withTable : StateM FileTree _) bareTree
    (run "gen/deep/out.rs").1.value = .ok () ∧
      bareTree.FileWritten (run "gen/deep/out.rs").2 ["work", "gen", "deep", "out.rs"]
        (Layout.generate ∅ withTable).value ∧
      (run "in.json/gen/out.rs").1.value = .error (.file .notDirectory) ∧
      (run "in.json/gen/out.rs").2 = bareTree := by
  intro run
  have success : (run "gen/deep/out.rs").1.value = .ok () := by decide
  have failure : (run "in.json/gen/out.rs").1.value = .error (.file .notDirectory) := by
    decide
  have writtenFile : (Path.ofText "gen/deep/out.rs").NamesFile :=
    ⟨by decide, by decide⟩
  have refusedFile : (Path.ofText "in.json/gen/out.rs").NamesFile :=
    ⟨by decide, by decide⟩
  have within : (Path.ofText "in.json/gen/out.rs").WithinLimits :=
    ⟨by decide, by decide, by unfold Short; decide⟩
  obtain ⟨-, written⟩ := file_generation_atomic bareTree "in.json" "gen/deep/out.rs" withTable
    bareTree_wellFormed writtenFile
  obtain ⟨refused, -⟩ := file_generation_atomic bareTree "in.json" "in.json/gen/out.rs" withTable
    bareTree_wellFormed refusedFile
  have place : bareTree.placeOf (Path.ofText "gen/deep/out.rs") =
      ["work", "gen", "deep", "out.rs"] := by
    decide
  refine ⟨success, ?_, failure, ?_⟩
  · obtain ⟨text, code, reading, generated, left⟩ := written success
    rw [place] at left
    obtain rfl := Except.ok.inj (readText_bareTree.symm.trans reading)
    obtain rfl := Except.ok.inj ((generate_bareText withTable).symm.trans generated)
    exact left
  · rcases refused _ failure with same | ⟨beyond, -⟩
    · exact same
    · exact absurd within beyond

def longName : String :=
  String.ofList (List.replicate 256 'x')

theorem toList_longName : longName.toList = List.replicate 256 'x' :=
  String.toList_ofList

theorem longName_long : Path.greatestNameSize < longName.utf8ByteSize := by
  decide +kernel

theorem longName_ne {name : String} (short : name.utf8ByteSize ≤ Path.greatestNameSize) :
    longName ≠ name := by
  rintro rfl
  exact absurd short (Nat.not_le.mpr longName_long)

/-- It does not stand for the directory itself or for the one above. -/
theorem longName_moves : Path.isIdle longName = false ∧ FileTree.isDots longName = false := by
  have notEmpty : longName ≠ "" := longName_ne (by decide)
  have notDot : longName ≠ "." := longName_ne (by decide)
  have notDots : longName ≠ ".." := longName_ne (by decide)
  simp [Path.isIdle, FileTree.isDots, notEmpty, notDot, notDots]

def longPath : Path :=
  ⟨false, ["new", longName]⟩

theorem names_longPath : longPath.names = ["new", longName] := by
  have notEmpty : longName ≠ "" := longName_ne (by decide)
  simp [Path.names, longPath, notEmpty]

theorem toList_longPath : longPath.text.toList = "new/".toList ++ longName.toList := by
  simp only [Path.text, longPath]
  simp

theorem ofText_longPath : Path.ofText longPath.text = longPath := by
  have noSlash : '/' ∉ longName.toList := by
    rw [toList_longName]
    exact fun isCharacter => absurd (List.eq_of_mem_replicate isCharacter) (by decide)
  refine Path.ofText_text (List.cons_ne_nil _ _) ?_ ?_
  · intro part isPart
    rcases List.mem_pair.mp isPart with rfl | rfl
    · decide
    · exact noSlash
  · intro _ emptyHead
    exact absurd (Option.some.inj emptyHead) (by decide)

theorem longPath_namesFile : longPath.NamesFile where
  proper := by
    rw [names_longPath]
    intro name isName
    rcases List.mem_pair.mp isName with rfl | rfl
    · decide
    · exact longName_moves.2
  noSlash := by
    rw [Path.asksDirectory, toList_longPath, toList_longName, List.getLast?_append,
      List.getLast?_replicate]
    rfl

theorem createAbove_longPath :
    bareTree.createAbove longPath.text = (bareTree.put ["work", "new"] .directory, .ok ()) := by
  have notIdle : Path.isIdle "new" = false := by decide
  have parent : longPath.parent? = some ⟨false, ["new"]⟩ := by
    simp [Path.parent?, Path.dropIdle, longPath, longName_moves.1, notIdle]
  rw [FileTree.createAbove, ofText_longPath, parent]
  decide

/-- The directory above the file is new, but the file cannot be written. -/
theorem directory_left_by_long_name :
    bareTree.WellFormed ∧ (Path.ofText longPath.text).NamesFile ∧
      ∃ written after,
        (generateToFile "in.json" longPath.text .standard : StateM FileTree _) bareTree =
          (written, after) ∧
        (∃ error, written.value = .error error) ∧
        bareTree.entry? ["work", "new"] = none ∧
        after.entry? ["work", "new"] = some .directory := by
  have generated := FileTree.generateToFile_of_generated longPath.text readText_bareTree
    (generate_bareText .standard)
  have last : (Path.ofText longPath.text).names.getLast? = some longName := by
    simp [ofText_longPath, names_longPath]
  obtain ⟨error, refused⟩ := FileTree.writeFile_of_long_name
    (Layout.generate ∅ .standard).value last longName_long
  rw [refused, createAbove_longPath] at generated
  generalize (generateToFile "in.json" longPath.text .standard : StateM FileTree _) bareTree =
    run at generated ⊢
  obtain ⟨written, after⟩ := run
  obtain ⟨value, left⟩ := generated
  dsimp only at left
  refine ⟨bareTree_wellFormed, ofText_longPath.symm ▸ longPath_namesFile, written, after, rfl,
    ⟨.file error, value⟩, by decide, ?_⟩
  rw [left]
  exact FileTree.entry?_put_self bareTree ["work"] "new" .directory

end BlockStates
