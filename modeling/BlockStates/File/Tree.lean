import BlockStates.OrderedMap
import BlockStates.File.Access
import BlockStates.File.Path

/-!
# Directory trees

A tree of directories and files as a value, without links and permissions, and
a working directory in it.  An access that fails says why in the way of the
operating system.
-/

set_option autoImplicit false

namespace BlockStates

inductive TreeEntry where
  | file (content : ByteArray)
  | directory

instance : DecidableEq TreeEntry
  | .directory, .directory => isTrue rfl
  | .file first, .file second =>
    match ByteArray.instDecidableEq first second with
    | isTrue same => isTrue (congrArg TreeEntry.file same)
    | isFalse differ => isFalse fun same => differ (TreeEntry.file.inj same)
  | .directory, .file _ => isFalse nofun
  | .file _, .directory => isFalse nofun

/-- A place in a tree: the names on the way from the root. -/
abbrev Location := List String

structure FileTree where
  /-- Everything below the root. -/
  entries : OrderedMap Location TreeEntry
  workingDirectory : Location
  deriving DecidableEq

namespace FileTree

def entry? (tree : FileTree) (location : Location) : Option TreeEntry :=
  if location.isEmpty then some .directory else tree.entries.get? location

def isDirectoryAt (tree : FileTree) (location : Location) : Bool :=
  tree.entry? location == some .directory

def put (tree : FileTree) (location : Location) (entry : TreeEntry) : FileTree :=
  { tree with entries := tree.entries.insert location entry }

/-- What a directory has under a name.  A name that is too long for a directory
is refused. -/
def lookUp (tree : FileTree) (directory : Location) (name : String) :
    Except FileError (Option TreeEntry) :=
  if Path.greatestNameSize < name.utf8ByteSize then .error .nameTooLong
  else .ok (tree.entry? (directory ++ [name]))

/-- Goes from a place to what one name of a path names. -/
def step (tree : FileTree) (location : Location) (name : String) : Except FileError Location :=
  match tree.entry? location with
  | none => .error .notFound
  | some (.file _) => .error .notDirectory
  | some .directory =>
    if name = "." then .ok location
    else if name = ".." then .ok location.dropLast
    else
      match tree.lookUp location name with
      | .error error => .error error
      | .ok none => .error .notFound
      | .ok (some _) => .ok (location ++ [name])

def start (tree : FileTree) (path : Path) : Location :=
  if path.absolute then [] else tree.workingDirectory

def follow (tree : FileTree) (location : Location) (names : List String) :
    Except FileError Location :=
  names.foldlM tree.step location

def locate (tree : FileTree) (text : String) : Except FileError Location := do
  let path := Path.ofText text
  path.check
  if text.isEmpty then throw .notFound
  else
    tree.follow (tree.start path)
      (if path.asksDirectory then path.names ++ ["."] else path.names)

def readText (tree : FileTree) (text : String) : Except FileError String :=
  match tree.locate text with
  | .error error => .error error
  | .ok location =>
    match tree.entry? location with
    | none => .error .notFound
    | some .directory => .error .isDirectory
    | some (.file content) =>
      match String.fromUTF8? content with
      | some text => .ok text
      | none => .error .notText

def directoryOf (tree : FileTree) (path : Path) : Except FileError Location := do
  let location ← tree.follow (tree.start path) path.names.dropLast
  if tree.isDirectoryAt location then return location else throw .notDirectory

def isDots (name : String) : Bool :=
  name == "." || name == ".."

def makeDirectory (tree : FileTree) (path : Path) : Except FileError FileTree := do
  path.check
  let directory ← tree.directoryOf path
  match path.names.getLast? with
  | none => throw .alreadyExists
  | some name =>
    if isDots name then throw .alreadyExists
    else
      match ← tree.lookUp directory name with
      | some _ => throw .alreadyExists
      | none => return tree.put (directory ++ [name]) .directory

def namesDirectory (tree : FileTree) (path : Path) : Bool :=
  match tree.follow (tree.start path) path.names with
  | .ok location => tree.isDirectoryAt location
  | .error _ => false

/-- What making a directory comes to when it may be there already. -/
def ensureDirectory (tree : FileTree) (path : Path) : Except FileError FileTree :=
  match tree.makeDirectory path with
  | .error .alreadyExists =>
    if tree.namesDirectory path then .ok tree else .error .alreadyExists
  | made => made

/-- Goes along names from a directory and creates those that are missing.  What
was created before a failure stays. -/
def extend (tree : FileTree) (location : Location) : List String → FileTree × Except FileError Unit
  | [] => (tree, .ok ())
  | name :: later =>
    if name = "." then tree.extend location later
    else if name = ".." then tree.extend location.dropLast later
    else
      match tree.lookUp location name with
      | .error error => (tree, .error error)
      | .ok (some (.file _)) => (tree, .error .alreadyExists)
      | .ok (some .directory) => tree.extend (location ++ [name]) later
      | .ok none =>
        (tree.put (location ++ [name]) .directory).extend (location ++ [name]) later

/-- Creates the directory that a path names.  If a directory above it is missing,
all that are missing are created, from the outermost one on. -/
def createDirectories (tree : FileTree) (text : String) : FileTree × Except FileError Unit :=
  let path := Path.ofText text
  match tree.ensureDirectory path with
  | .ok changed => (changed, .ok ())
  | .error .notFound => tree.extend (tree.start path) path.names
  | .error error => (tree, .error error)

def withText (tree : FileTree) (text content : String) : Except FileError FileTree := do
  let path := Path.ofText text
  path.check
  match path.names.getLast? with
  | none => throw (if text.isEmpty then .notFound else .isDirectory)
  | some name =>
    let directory ← tree.directoryOf path
    if path.asksDirectory ∨ isDots name then throw .isDirectory
    else
      match ← tree.lookUp directory name with
      | some .directory => throw .isDirectory
      | _ => return tree.put (directory ++ [name]) (.file content.toUTF8)

/-- Gives the file that a path names a new content; a failure changes nothing. -/
def writeText (tree : FileTree) (text content : String) : FileTree × Except FileError Unit :=
  match tree.withText text content with
  | .ok changed => (changed, .ok ())
  | .error error => (tree, .error error)

instance : FileAccess (StateM FileTree) where
  readText text := fun tree => (tree.readText text, tree)
  createDirectories text := fun tree => (tree.createDirectories text).swap
  writeText text content := fun tree => (tree.writeText text content).swap

/-- Puts an entry at a place, with the directories above it. -/
def place (tree : FileTree) (location : Location) (entry : TreeEntry) : FileTree :=
  let above := (List.range' 1 (location.length - 1)).map location.take
  (above.foldl
    (fun tree outer =>
      if (tree.entry? outer).isSome then tree else tree.put outer .directory)
    tree).put location entry

def ofEntries (workingDirectory : Location) (entries : List (String × TreeEntry)) : FileTree :=
  entries.foldl
    (fun tree entry => tree.place (workingDirectory ++ (Path.ofText entry.1).names) entry.2)
    ((⟨∅, workingDirectory⟩ : FileTree).place workingDirectory .directory)

/-- What a tree has in its working directory that an earlier one had not, or had
with other content: paths with their entries, in the order of the paths. -/
def changesSince (tree earlier : FileTree) : List (String × TreeEntry) :=
  let depth := tree.workingDirectory.length
  let changed := tree.entries.entries.filter fun entry =>
    tree.workingDirectory.isPrefixOf entry.1 && earlier.entry? entry.1 != some entry.2
  (changed.map fun entry => (String.intercalate "/" (entry.1.drop depth), entry.2)).mergeSort
    fun first second => first.1 ≤ second.1

end FileTree

end BlockStates
