import BlockStates.OrderedMap

/-!
# Block catalogs

A catalog lists blocks by raw name.  A block declares properties with the
values it uses and lists its legal states; a state gives each declared property
one value and carries a numeric identifier.
-/

set_option autoImplicit false

namespace BlockStates

abbrev Properties := OrderedMap String (List String)

abbrev Assignment := OrderedMap String String

inductive ValueKind where
  /-- Whole numbers of one byte. -/
  | numeric
  | symbolic
  deriving DecidableEq, Repr

def ValueKind.of (value : String) : ValueKind :=
  match value.toList with
  | first :: _ => if first.isDigit then .numeric else .symbolic
  | [] => .symbolic

/-- The kind of a list of values is that of the first; without values it is
symbolic. -/
def ValueKind.ofValues : List String → ValueKind
  | [] => .symbolic
  | first :: _ => .of first

structure State where
  id : UInt16
  assignment : Assignment
  deriving DecidableEq, Inhabited

structure Block where
  name : String
  properties : Properties
  states : List State
  deriving DecidableEq, Inhabited

def Block.isSimple (block : Block) : Bool :=
  block.properties.isEmpty

structure Catalog where
  blocks : OrderedMap String Block
  deriving DecidableEq, Inhabited

namespace Catalog

def empty : Catalog :=
  ⟨∅⟩

instance : EmptyCollection Catalog := ⟨empty⟩

/-- Adds a block under its own name, in place of a block of that name. -/
def add (catalog : Catalog) (block : Block) : Catalog :=
  ⟨catalog.blocks.insert block.name block⟩

def get? (catalog : Catalog) (name : String) : Option Block :=
  catalog.blocks.get? name

def size (catalog : Catalog) : Nat :=
  catalog.blocks.size

def isEmpty (catalog : Catalog) : Bool :=
  catalog.blocks.isEmpty

def stateCount (catalog : Catalog) : Nat :=
  catalog.blocks.values.foldr (fun block count => block.states.length + count) 0

end Catalog

def mergeValues (known values : List String) : List String :=
  values.foldl (fun known value => if value ∈ known then known else known ++ [value]) known

namespace Properties

/-- Adds one declaration: a known property takes the values it lacks, a new one
comes last. -/
def declare (union : Properties) (name : String) (values : List String) : Properties :=
  union.insert name (mergeValues ((union.get? name).getD []) values)

def declareAll (union : Properties) (block : Block) : Properties :=
  block.properties.entries.foldl (fun union entry => union.declare entry.1 entry.2) union

end Properties

/-- Every property of the catalog with all values that any block declares for
it, both in the order in which they first come. -/
def Catalog.propertyUnion (catalog : Catalog) : Properties :=
  catalog.blocks.values.foldl Properties.declareAll ∅

end BlockStates
