import BlockStates.Catalog.Basic
import BlockStates.File.Error
import BlockStates.Json.Reader

/-!
# Reading catalogs

A catalog is written as a JSON object: a member for each block, with optional
`properties` and required `states`.  Parts of a block and of a state may stand
in any order, and parts with other names are ignored; both may also be written
as lists of their parts in fixed order.
-/

set_option autoImplicit false

namespace BlockStates

inductive ReadError where
  | json (error : Json.Error)
  /-- A block without a list of states. -/
  | missingStates (block : String)
  | file (error : FileError)
  deriving DecidableEq, Repr

def ReadError.message : ReadError → String
  | .json error => "JSON parsing error: " ++ error.message
  | .missingStates block => s!"block '{block}' has no 'states' entry"
  | .file error => "IO error: " ++ error.message

namespace Json

def greatestId : Int := 65535

def stateId : Reader UInt16 where
  run text :=
    match skipBlanks text with
    | [] => .error (.atEnd .endInValue)
    | first :: rest =>
      if first = '-' ∨ first.isDigit then
        match readNumber (first :: rest) with
        | .error fault => .error fault
        | .ok (.whole value, rest) =>
          if 0 ≤ value ∧ value ≤ greatestId then .ok (UInt16.ofNat value.toNat, rest)
          else .error (.before (.wrongNumber value .id) rest)
        | .ok (.binary negative magnitude, rest) =>
          .error (.before (.wrongType (.number (.binary negative magnitude)) .id) rest)
      else .error (mistyped .id (first :: rest))
  leavesSuffix {text _ _} success := by
    have blanksSuffix := skipBlanks_suffix text
    split at success
    · cases success
    · next first rest blanks =>
      rw [blanks] at blanksSuffix
      split at success
      · split at success
        · cases success
        · next numberRead =>
          split at success
          · simp only [Except.ok.injEq, Prod.mk.injEq] at success
            obtain ⟨-, rfl⟩ := success
            exact (readNumber_suffix numberRead).trans blanksSuffix
          · cases success
        · cases success
      · cases success

def properties : Reader Properties :=
  mapOf (listOf string)

def assignment : Reader Assignment :=
  mapOf string

structure StateParts where
  id : Option UInt16
  assignment : Option Assignment

def statePart (parts : StateParts) (name : String) : Reader StateParts :=
  if name = "id" then do
    if parts.id.isSome then duplicate name
    else
      colon
      return { parts with id := some (← stateId) }
  else if name = "properties" then do
    if parts.assignment.isSome then duplicate name
    else
      colon
      return { parts with assignment := some (← assignment) }
  else do
    colon
    ignored
    return parts

/-- A state as an object, from behind its opening bracket. -/
def stateObject : Reader State := do
  let parts ← members statePart ⟨none, none⟩
  match parts.id with
  | none => .fault (.missingField "id")
  | some id => return ⟨id, parts.assignment.getD ∅⟩

def stateList : Reader State := do
  match ← firstItem with
  | .close => .fault (.wrongLength 0 .state)
  | .item =>
    let id ← stateId
    match ← laterItem with
    | .close => return ⟨id, ∅⟩
    | .item =>
      let assignment ← assignment
      endOfItems
      return ⟨id, assignment⟩

def state : Reader State := do
  match ← recordOpener .state with
  | .object => stateObject
  | .list => stateList

structure BlockParts where
  properties : Option Properties
  /-- The states, of which the list itself may be missing. -/
  states : Option (Option (List State))

def states : Reader (Option (List State)) :=
  optional (listOf state)

def blockPart (parts : BlockParts) (name : String) : Reader BlockParts :=
  if name = "properties" then do
    if parts.properties.isSome then duplicate name
    else
      colon
      return { parts with properties := some (← properties) }
  else if name = "states" then do
    if parts.states.isSome then duplicate name
    else
      colon
      return { parts with states := some (← states) }
  else do
    colon
    ignored
    return parts

/-- A block as it is written: its states may be missing. -/
structure BlockEntry where
  properties : Properties
  states : Option (List State)

def blockObject : Reader BlockEntry := do
  let parts ← members blockPart ⟨none, none⟩
  return ⟨parts.properties.getD ∅, parts.states.getD none⟩

def blockList : Reader BlockEntry := do
  match ← firstItem with
  | .close => .fault (.wrongLength 1 .block)
  | .item =>
    let properties ← properties
    match ← laterItem with
    | .close => .fault (.wrongLength 1 .block)
    | .item =>
      let states ← states
      endOfItems
      return ⟨properties, states⟩

def blockEntry : Reader BlockEntry := do
  match ← recordOpener .block with
  | .object => blockObject
  | .list => blockList

def blockEntries (text : String) : Except Error (OrderedMap String BlockEntry) :=
  match (mapOf blockEntry).whole text.toList with
  | .error fault => .error (fault.locate text.toList)
  | .ok entries => .ok entries

end Json

def Json.BlockEntry.toBlock? (entry : Json.BlockEntry) (name : String) : Except ReadError Block :=
  match entry.states with
  | none => .error (.missingStates name)
  | some states => .ok ⟨name, entry.properties, states⟩

/-- Adds the blocks that a list of entries describes; the first one without
states is reported. -/
def Catalog.addEntries (catalog : Catalog) :
    List (String × Json.BlockEntry) → Except ReadError Catalog
  | [] => .ok catalog
  | (name, entry) :: rest =>
    match entry.toBlock? name with
    | .error error => .error error
    | .ok block => (catalog.add block).addEntries rest

def Catalog.read (text : String) : Except ReadError Catalog :=
  match Json.blockEntries text with
  | .error error => .error (.json error)
  | .ok entries => Catalog.empty.addEntries entries.entries

end BlockStates
