import BlockStates.Catalog.Check

/-!
# Layouts

The types that stand for a catalog: one for each property of the property
union, one for each block.  A block's states become rows of values in the order
of its fields.  `Layout.ofCatalog` lays out checked catalogs; a layout as such
carries no promise.
-/

set_option autoImplicit false

namespace BlockStates

/-- An expression of the generated code that denotes one value of a property.
It also serves as a pattern. -/
inductive ValueExpr where
  /-- A number in the wrapper type of a numeric property. -/
  | wrapped (typeName number : String)
  /-- A variant of the enumeration of a symbolic property. -/
  | variant (typeName variantName : String)
  deriving DecidableEq, Repr

def ValueExpr.text : ValueExpr → String
  | .wrapped typeName number => s!"{typeName}({number})"
  | .variant typeName variantName => s!"{typeName}::{variantName}"

/-- An expression of the generated code that denotes one state of a block.  It
also serves as a pattern. -/
inductive StateExpr where
  /-- The value of a type without fields. -/
  | bare (typeName : String)
  /-- A value with one expression for each field. -/
  | applied (typeName : String) (fields : List ValueExpr)
  deriving DecidableEq, Repr

def StateExpr.text : StateExpr → String
  | .bare typeName => typeName
  | .applied typeName fields =>
    let fields := String.intercalate ", " (fields.map ValueExpr.text)
    s!"{typeName}({fields})"

structure PropertyType where
  name : String
  typeName : String
  kind : ValueKind
  values : List String
  deriving DecidableEq, Repr

namespace PropertyType

def ofValues (name : String) (values : List String) : PropertyType :=
  ⟨name, Identifier.ofRaw name, ValueKind.ofValues values, values⟩

def variantName (_property : PropertyType) (value : String) : String :=
  Identifier.ofRaw value

def expr (property : PropertyType) (value : String) : ValueExpr :=
  match property.kind with
  | .numeric => .wrapped property.typeName value
  | .symbolic => .variant property.typeName (property.variantName value)

end PropertyType

inductive BlockShape where
  /-- No property: one value with a fixed identifier and name. -/
  | simple
  | tuple
  | numeric
  | composite
  deriving DecidableEq, Repr

def BlockShape.ofFields : List PropertyType → BlockShape
  | [] => .simple
  | [field] =>
    match field.kind with
    | .numeric => .numeric
    | .symbolic => .tuple
  | _ => .composite

/-- A state as a row of values in the order of the fields. -/
structure Row where
  id : UInt16
  values : List String
  deriving DecidableEq, Repr

structure BlockType where
  name : String
  typeName : String
  shape : BlockShape
  fields : List PropertyType
  rows : List Row
  deriving DecidableEq, Repr

namespace BlockType

/-- The field for a declared property: the property's type if it is known, and
otherwise one made from the declared values. -/
def field (types : OrderedMap String PropertyType) (name : String) (values : List String) :
    PropertyType :=
  (types.get? name).getD (.ofValues name values)

/-- The row of a state.  A property without a value leaves an empty text. -/
def row (block : Block) (state : State) : Row :=
  ⟨state.id, block.properties.keys.map fun name => (state.assignment.get? name).getD ""⟩

def ofBlock (types : OrderedMap String PropertyType) (block : Block) : BlockType :=
  let fields := block.properties.entries.map fun entry => field types entry.1 entry.2
  { name := block.name
    typeName := Identifier.ofRaw block.name
    shape := .ofFields fields
    fields := fields
    rows := block.states.map (row block) }

def stateName (block : BlockType) (row : Row) : String :=
  if row.values.isEmpty then block.name
  else block.name ++ "::" ++ String.intercalate "," row.values

def fieldExprs (block : BlockType) (row : Row) : List ValueExpr :=
  List.zipWith PropertyType.expr block.fields row.values

def stateExpr (block : BlockType) (row : Row) : StateExpr :=
  if block.fields.isEmpty then .bare block.typeName
  else .applied block.typeName (block.fieldExprs row)

end BlockType

structure Layout where
  properties : OrderedMap String PropertyType
  blocks : List BlockType
  deriving DecidableEq

namespace Layout

def empty : Layout :=
  ⟨∅, []⟩

instance : EmptyCollection Layout := ⟨empty⟩

def property? (layout : Layout) (name : String) : Option PropertyType :=
  layout.properties.get? name

def block? (layout : Layout) (name : String) : Option BlockType :=
  layout.blocks.find? fun block => block.name == name

def stateCount (layout : Layout) : Nat :=
  layout.blocks.foldr (fun block count => block.rows.length + count) 0

/-- Lays out a catalog over given properties, without a check. -/
def unchecked (catalog : Catalog) (properties : Properties) : Layout :=
  let types := properties.mapValues PropertyType.ofValues
  ⟨types, catalog.blocks.values.map (BlockType.ofBlock types)⟩

def ofCatalog (catalog : Catalog) : Except Defect Layout := do
  catalog.check catalog.propertyUnion
  return unchecked catalog catalog.propertyUnion

end Layout

end BlockStates
