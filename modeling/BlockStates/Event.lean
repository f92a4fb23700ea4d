import BlockStates.Layout

/-!
# Events

What a run reports about its progress: events with a level, the part of the
program that they come from, a message and named values.
-/

set_option autoImplicit false

namespace BlockStates

inductive Level where
  | debug
  | info
  | warn
  deriving DecidableEq, Repr

inductive Event where
  | catalogRead (blocks states : Nat)
  | propertyEmitted (property : String) (kind : ValueKind) (values : Nat)
  | blockEmitted (block : String) (shape : BlockShape)
  /-- Of several states of a simple block only the first is used. -/
  | statesDropped (block : String) (states : Nat)
  | unitGenerated (properties blocks states bytes : Nat)
  | fileWritten (input output : String)
  | runStarted (input traitPath : String) (stateTable : Bool)
  | unitPrinted (bytes : Nat)
  deriving DecidableEq, Repr

def ValueKind.text : ValueKind → String
  | .numeric => "Numeric"
  | .symbolic => "Symbolic"

def BlockShape.text : BlockShape → String
  | .simple => "Simple"
  | .tuple => "Tuple"
  | .numeric => "Numeric"
  | .composite => "Composite"

namespace Event

def level : Event → Level
  | .catalogRead .. | .propertyEmitted .. | .blockEmitted .. => .debug
  | .statesDropped .. => .warn
  | .unitGenerated .. | .fileWritten .. | .runStarted .. | .unitPrinted .. => .info

def source : Event → String
  | .catalogRead .. => "blockgen_schema::parser"
  | .propertyEmitted .. => "blockgen_codegen::rust::properties"
  | .blockEmitted .. | .statesDropped .. => "blockgen_codegen::rust::blocks"
  | .unitGenerated .. => "blockgen_codegen::generator"
  | .fileWritten .. => "blockgen_codegen"
  | .runStarted .. | .unitPrinted .. => "blockgen::cli"

def message : Event → String
  | .catalogRead .. => "parsed block catalog"
  | .propertyEmitted .. => "emitting property"
  | .blockEmitted .. => "emitting block state"
  | .statesDropped .. => "block without properties has several states, using the first"
  | .unitGenerated .. => "generated block-state definitions"
  | .fileWritten .. => "wrote generated block states"
  | .runStarted .. => "generating block states"
  | .unitPrinted .. => "wrote generated block states to stdout"

def fields : Event → List (String × String)
  | .catalogRead blocks states => [("blocks", toString blocks), ("states", toString states)]
  | .propertyEmitted property kind values =>
    [("property", property), ("kind", kind.text), ("values", toString values)]
  | .blockEmitted block shape => [("block", block), ("shape", shape.text)]
  | .statesDropped block states => [("block", block), ("states", toString states)]
  | .unitGenerated properties blocks states bytes =>
    [("properties", toString properties), ("blocks", toString blocks),
      ("states", toString states), ("bytes", toString bytes)]
  | .fileWritten input output => [("input", input), ("output", output)]
  | .runStarted input traitPath stateTable =>
    [("input", input), ("trait_path", traitPath),
      ("state_table", if stateTable then "true" else "false")]
  | .unitPrinted bytes => [("bytes", toString bytes)]

end Event

/-- A result together with the events reported on the way to it. -/
structure Logged (Value : Type) where
  value : Value
  events : List Event

def Catalog.readEvent (catalog : Catalog) : Event :=
  .catalogRead catalog.size catalog.stateCount

def PropertyType.event (property : PropertyType) : Event :=
  .propertyEmitted property.name property.kind property.values.length

/-- The warning about states of a simple block that are not used. -/
def BlockType.warnings (block : BlockType) : List Event :=
  if block.shape = .simple ∧ 1 < block.rows.length then
    [.statesDropped block.name block.rows.length]
  else []

def BlockType.events (block : BlockType) : List Event :=
  .blockEmitted block.name block.shape :: block.warnings

namespace Layout

def propertyEvents (layout : Layout) : List Event :=
  layout.properties.values.map PropertyType.event

def blockEvents (layout : Layout) : List Event :=
  layout.blocks.flatMap BlockType.events

end Layout

end BlockStates
