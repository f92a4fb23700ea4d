import BlockStates.Catalog.Defect
import BlockStates.Identifier

/-!
# Checking catalogs

A catalog is fit for generation when the kinds of its properties are
consistent, every state assigns exactly the properties that its block declares,
and all generated identifiers are usable and distinct.  The check reports the
first defect: properties come first, then blocks with their states, then
identifiers.
-/

set_option autoImplicit false

namespace BlockStates

/-- The identifiers given out in one scope, each with the raw name that has it. -/
structure Scope where
  title : String
  taken : OrderedMap String String

namespace Scope

def fresh (title : String) : Scope :=
  ⟨title, ∅⟩

def claim (scope : Scope) (raw identifier : String) : Except Defect Scope :=
  match scope.taken.get? identifier with
  | some first => .error (.identifierCollision scope.title identifier first raw)
  | none => .ok { scope with taken := scope.taken.insert identifier raw }

def claimRaw (scope : Scope) (raw : String) : Except Defect Scope :=
  let identifier := Identifier.ofRaw raw
  if Identifier.isUsable identifier then scope.claim raw identifier
  else .error (.invalidIdentifier raw identifier)

def claimAll (scope : Scope) (raws : List String) : Except Defect Scope :=
  raws.foldlM claimRaw scope

end Scope

def decimalValue (digits : List Char) : Nat :=
  digits.foldl (fun value digit => value * 10 + (digit.toNat - 0x30)) 0

/-- The number of one byte that a value stands for: ASCII digits, of which
leading ones may be zero. -/
def numericValue? (value : String) : Option Nat :=
  let digits := value.toList
  if digits ≠ [] ∧ digits.all Char.isDigit ∧ decimalValue digits ≤ 255 then
    some (decimalValue digits)
  else none

def checkNumbers (property : String) (values : List String) : Except Defect Scope :=
  values.foldlM
    (fun scope value =>
      match numericValue? value with
      | some number => scope.claim value (toString number)
      | none => .error (.invalidNumber property value))
    (.fresh s!"values of property '{property}'")

def checkProperty (property : String) (values : List String) : Except Defect Unit :=
  match values with
  | [] => .error (.emptyProperty property)
  | first :: _ =>
    match values.find? fun value => ValueKind.of value != ValueKind.of first with
    | some value => .error (.mixedKinds property value)
    | none =>
      match ValueKind.of first with
      | .symbolic => .ok ()
      | .numeric => (checkNumbers property values).map fun _ => ()

def checkAssignment (block : Block) (state : State) (property : String)
    (values : List String) : Except Defect Unit :=
  match state.assignment.get? property with
  | none => .error (.missingAssignment block.name property state.id)
  | some value =>
    if value ∈ values then .ok ()
    else .error (.unknownValue block.name property value state.id)

/-- The values that a state gives to the declared properties, in their order. -/
def combination (block : Block) (state : State) : List String :=
  block.properties.keys.filterMap state.assignment.get?

/-- The combinations of the states that have been checked, each with the
identifier of its state. -/
abbrev Combinations := OrderedMap (List String) UInt16

/-- Checks that no earlier state of the block has the same combination.  Blocks
without properties are not compared. -/
def checkCombination (block : Block) (seen : Combinations) (state : State) :
    Except Defect Combinations :=
  if block.isSimple then .ok seen
  else
    match seen.get? (combination block state) with
    | some first => .error (.duplicateState block.name first state.id)
    | none => .ok (seen.insert (combination block state) state.id)

def checkDeclared (block : Block) (state : State) : Except Defect Unit :=
  match state.assignment.keys.find? fun property => !block.properties.contains property with
  | some property => .error (.undeclaredAssignment block.name property state.id)
  | none => .ok ()

def checkState (block : Block) (seen : Combinations) (state : State) :
    Except Defect Combinations := do
  block.properties.entries.forM fun entry => checkAssignment block state entry.1 entry.2
  let seen ← checkCombination block seen state
  checkDeclared block state
  return seen

def checkBlock (block : Block) : Except Defect Unit :=
  if block.states.isEmpty then .error (.emptyStates block.name)
  else (block.states.foldlM (checkState block) ∅).map fun _ => ()

/-- The scope of all type names.  Two names are those of the traits that every
generated unit imports. -/
def typeNames : Scope :=
  ⟨"type names",
    .ofList [("BlockProperty", "BlockProperty"), ("BlockState", "BlockState")]⟩

def checkPropertyNames (types : Scope) (property : String) (values : List String) :
    Except Defect Scope := do
  let types ← types.claimRaw property
  match ValueKind.ofValues values with
  | .numeric => return types
  | .symbolic =>
    let _ ← (Scope.fresh s!"variants of property '{property}'").claimAll values
    return types

def checkIdentifiers (catalog : Catalog) (properties : Properties) : Except Defect Scope := do
  let types ← properties.entries.foldlM
    (fun types entry => checkPropertyNames types entry.1 entry.2) typeNames
  types.claimAll catalog.blocks.keys

/-- Checks a catalog together with the properties that are generated for it,
and reports the first defect. -/
def Catalog.check (catalog : Catalog) (properties : Properties) : Except Defect Unit := do
  properties.entries.forM fun entry => checkProperty entry.1 entry.2
  catalog.blocks.values.forM checkBlock
  let _ ← checkIdentifiers catalog properties
  return ()

end BlockStates
