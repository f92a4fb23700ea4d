import BlockStates.Layout

/-!
# Declarations

The declarations that a layout is turned into, as data: a type for each
property, a type with its look-ups for each block, and the entries of the state
table.  How they are written is left to the printer.
-/

set_option autoImplicit false

namespace BlockStates

inductive PropertyDeclaration where
  /-- A wrapper around a number of one byte. -/
  | wrapper (rawName typeName : String)
  /-- An enumeration with a variant for each value. -/
  | enumeration (rawName typeName : String) (variants : List String)
  deriving DecidableEq, Repr

/-- The part of a value that a look-up matches on. -/
inductive Scrutinee where
  | number
  | field
  | whole
  deriving DecidableEq, Repr

inductive Pattern where
  /-- Numbers, written one behind the other. -/
  | numbers (numbers : List String)
  /-- Values, written one behind the other. -/
  | values (values : List ValueExpr)
  | state (state : StateExpr)
  deriving DecidableEq, Repr

structure Arm where
  pattern : Pattern
  id : UInt16
  name : String
  deriving DecidableEq, Repr

inductive BlockDeclaration where
  /-- A type with one value, whose identifier and name are fixed. -/
  | fixed (rawName typeName : String) (id : UInt16) (name : String)
  /-- A type with fields, whose arms are tried in order. -/
  | matching (rawName typeName : String) (fieldTypes : List String) (scrutinee : Scrutinee)
      (arms : List Arm)
  deriving DecidableEq, Repr

structure TableEntry where
  expr : StateExpr
  id : UInt16
  name : String
  deriving DecidableEq, Repr

def PropertyType.declaration (property : PropertyType) : PropertyDeclaration :=
  match property.kind with
  | .numeric => .wrapper property.name property.typeName
  | .symbolic =>
    .enumeration property.name property.typeName (property.values.map property.variantName)

namespace BlockType

def scrutinee (block : BlockType) : Scrutinee :=
  match block.shape with
  | .numeric => .number
  | .tuple => .field
  | .composite | .simple => .whole

def pattern (block : BlockType) (row : Row) : Pattern :=
  match block.shape with
  | .numeric => .numbers row.values
  | .tuple => .values (block.fieldExprs row)
  | .composite | .simple => .state (block.stateExpr row)

def arm (block : BlockType) (row : Row) : Arm :=
  ⟨block.pattern row, row.id, block.stateName row⟩

/-- The declaration of a block's type.  A simple block only has its first
state, and without one it has no declaration. -/
def declaration? (block : BlockType) : Option BlockDeclaration :=
  match block.shape with
  | .simple =>
    block.rows.head?.map fun row =>
      .fixed block.name block.typeName row.id (block.stateName row)
  | .tuple | .numeric | .composite =>
    some (.matching block.name block.typeName (block.fields.map PropertyType.typeName)
      block.scrutinee (block.rows.map block.arm))

def tableRows (block : BlockType) : List Row :=
  match block.shape with
  | .simple => block.rows.take 1
  | .tuple | .numeric | .composite => block.rows

def tableEntries (block : BlockType) : List TableEntry :=
  block.tableRows.map fun row => ⟨block.stateExpr row, row.id, block.stateName row⟩

end BlockType

namespace Layout

def propertyDeclarations (layout : Layout) : List PropertyDeclaration :=
  layout.properties.values.map PropertyType.declaration

def blockDeclarations (layout : Layout) : List BlockDeclaration :=
  layout.blocks.filterMap BlockType.declaration?

def tableEntries (layout : Layout) : List TableEntry :=
  layout.blocks.flatMap BlockType.tableEntries

end Layout

end BlockStates
