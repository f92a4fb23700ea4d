import BlockStates.Proofs.GeneratedUnit

/-!
# Shapes of blocks

The kind of a field is that of the first value in the property union, which may
come from another block.  A block by itself shows a kind as well: that of the
values which its own states assign.  `shapes_agree_with_states` says that both
are the same in an accepted catalog, so that a block's shape can be read off its
properties and its first state.
-/

set_option autoImplicit false

namespace BlockStates

/-! ## What a block shows by itself -/

def startsWithDigit (value : String) : Bool :=
  value.toList.head?.any Char.isDigit

def Block.firstValue? (block : Block) (property : String) : Option String :=
  block.states.head?.bind fun state => state.assignment.get? property

/-- The shape of a block by its own properties and its own first state. -/
def Block.ownShape (block : Block) : BlockShape :=
  match block.properties.keys with
  | [] => .simple
  | [property] =>
    if (block.firstValue? property).any startsWithDigit then .numeric else .tuple
  | _ :: _ :: _ => .composite

def PropertyDeclaration.kind : PropertyDeclaration → ValueKind
  | .wrapper .. => .numeric
  | .enumeration .. => .symbolic

/-- Under a name a unit declares a type, and only one for values of this kind. -/
structure SourceUnit.DeclaresKind (unit : SourceUnit) (typeName : String) (kind : ValueKind) :
    Prop where
  declared : typeName ∈ unit.properties.map PropertyDeclaration.typeName
  kind : ∀ declaration ∈ unit.properties, declaration.typeName = typeName →
    declaration.kind = kind

/-- A type fits the states of a block: it has the shape that the block shows, and
every value that a state assigns is of the kind of its field. -/
structure BlockType.FitsStates (unit : SourceUnit) (block : Block) (type : BlockType) : Prop where
  shape : type.shape = block.ownShape
  kinds : ∀ state ∈ block.states, List.Forall₂
    (fun property field => ∃ value, state.assignment.get? property = some value ∧
      field.kind = .of value ∧ unit.DeclaresKind field.typeName (.of value))
    block.properties.keys type.fields

/-! ## Kinds of values and of fields -/

theorem ValueKind.of_eq_numeric_iff (value : String) :
    ValueKind.of value = .numeric ↔ startsWithDigit value = true := by
  unfold ValueKind.of startsWithDigit
  cases value.toList with
  | nil => simp
  | cons first rest => simp

theorem PropertyType.kind_declaration (property : PropertyType) :
    property.declaration.kind = property.kind := by
  unfold declaration
  cases kind : property.kind <;> rfl

/-- All values of a property are of the kind that the first one has. -/
theorem PropertyType.Settled.kind_of_listed {property : PropertyType} (settled : property.Settled)
    {value : String} (listed : value ∈ property.values) : property.kind = .of value := by
  rw [settled.kind_eq, settled.values.oneKind value listed]

theorem PropertyType.DeclaredIn.declaresKind {unit : SourceUnit} {property : PropertyType}
    (declaredIn : property.DeclaredIn unit)
    (distinct : (unit.properties.map PropertyDeclaration.typeName).Nodup) :
    unit.DeclaresKind property.typeName property.kind where
  declared := property.typeName_declaration ▸ List.mem_map_of_mem declaredIn.declared
  kind := by
    intro declaration declared sameName
    rw [← property.typeName_declaration] at sameName
    rw [List.inj_on_of_nodup_map distinct declared declaredIn.declared sameName,
      property.kind_declaration]

/-! ## Shapes -/

/-- Fields of the kinds that the first state shows make the shape that it shows. -/
theorem Block.ofFields_eq_ownShape {block : Block} {first : State} {rest : List State}
    (states : block.states = first :: rest) {fields : List PropertyType}
    (kinds : List.Forall₂ (fun property field =>
        ∃ value, first.assignment.get? property = some value ∧ field.kind = .of value)
      block.properties.keys fields) : BlockShape.ofFields fields = block.ownShape := by
  have firstValue (property : String) :
      block.firstValue? property = first.assignment.get? property := by
    rw [firstValue?, states]
    rfl
  unfold ownShape
  generalize block.properties.keys = properties at kinds ⊢
  -- The cases are those of the shapes: no property, one, or more.
  cases kinds with
  | nil => rfl
  | @cons property field _ _ assigned others =>
    cases others with
    | nil =>
      obtain ⟨value, isAssigned, kind⟩ := assigned
      simp only [firstValue, isAssigned, Option.any_some, ← ValueKind.of_eq_numeric_iff, ← kind]
      cases isKind : field.kind <;> simp [BlockShape.ofFields, isKind]
    | cons => rfl

namespace Catalog.Accepted

variable {catalog : Catalog} {block : Block} (options : Options)

theorem forall₂_kinds (accepted : catalog.Accepted) (member : block ∈ catalog.blocks.values)
    {state : State} (isState : state ∈ block.states) :
    List.Forall₂ (fun property field => ∃ value,
        state.assignment.get? property = some value ∧ field.kind = .of value ∧
          (catalog.unit options).DeclaresKind field.typeName (.of value))
      block.properties.keys (BlockType.ofBlock catalog.propertyTypes block).fields := by
  rw [OrderedMap.keys, BlockType.ofBlock, List.forall₂_map_left_iff, List.forall₂_map_right_iff,
    List.forall₂_same]
  rintro ⟨property, declared⟩ entry
  obtain ⟨value, isDeclared, assigned⟩ :=
    ((accepted.blocks block member).states state isState).assigns _ entry
  have isField : (BlockType.field catalog.propertyTypes property declared).DeclaredIn
      (catalog.unit options) ∧ _ :=
    accepted.field_declaredIn member entry
  obtain ⟨declaredIn, inside⟩ := isField
  have kind := declaredIn.settled.kind_of_listed (inside value isDeclared)
  exact ⟨value, assigned, kind, kind ▸ declaredIn.declaresKind accepted.propertyTypes_distinct⟩

theorem fitsStates (accepted : catalog.Accepted) (member : block ∈ catalog.blocks.values) :
    (BlockType.ofBlock catalog.propertyTypes block).FitsStates (catalog.unit options) block where
  shape := by
    obtain ⟨first, rest, states⟩ :=
      List.exists_cons_of_ne_nil (accepted.blocks block member).nonempty
    have isFirst : first ∈ block.states := by
      rw [states]
      exact List.mem_cons_self
    apply Block.ofFields_eq_ownShape states
    apply (accepted.forall₂_kinds options member isFirst).imp
    rintro property field ⟨value, assigned, kind, -⟩
    exact ⟨value, assigned, kind⟩
  kinds := fun _ isState => accepted.forall₂_kinds options member isState

end Catalog.Accepted

/-- In an accepted catalog every block has the shape that its own properties and
its first state show, and every value that a state assigns is of the kind of the
type that is declared for its field. -/
theorem shapes_agree_with_states (catalog : Catalog) (layout : Layout) (options : Options)
    (laidOut : Layout.ofCatalog catalog = .ok layout) :
    List.Forall₂ (BlockType.FitsStates (layout.sourceUnit options)) catalog.blocks.values
      layout.blocks := by
  obtain ⟨accepted, rfl⟩ := (Layout.ofCatalog_eq_ok_iff catalog layout).mp laidOut
  rw [Layout.unchecked, List.forall₂_map_right_iff, List.forall₂_same]
  exact fun block member => accepted.fitsStates options member

/-- In the sample the snow is numeric, as its only state shows, and the union gives
the cake's number of layers the same kind. -/
theorem shapes_agree_with_states_of_sampleCatalog :
    ∃ layout stone snow cake layers lit, Layout.ofCatalog sampleCatalog = .ok layout ∧
      layout.blocks = [stone, snow, cake] ∧ stone.shape = .simple ∧ snow.shape = .numeric ∧
      cake.shape = .composite ∧ cake.fields = [layers, lit] ∧ layers.kind = .of "1" ∧
      lit.kind = .of "off" := by
  have fits := shapes_agree_with_states sampleCatalog _ withTable ofCatalog_sampleCatalog
  have values : sampleCatalog.blocks.values = [sampleStone, sampleSnow, sampleCake] := by
    decide +kernel
  rw [values] at fits
  obtain ⟨stone, _, ofStone, afterStone, blocks⟩ := List.forall₂_cons_left_iff.mp fits
  obtain ⟨snow, _, ofSnow, afterSnow, rfl⟩ := List.forall₂_cons_left_iff.mp afterStone
  obtain ⟨cake, _, ofCake, afterCake, rfl⟩ := List.forall₂_cons_left_iff.mp afterSnow
  obtain rfl := List.forall₂_nil_left_iff.mp afterCake
  have kinds := ofCake.kinds _ (List.mem_singleton_self _)
  have keys : sampleCake.properties.keys = ["layers", "lit"] := by decide +kernel
  rw [keys] at kinds
  obtain ⟨layers, _, ⟨layersValue, isOne, layersKind, -⟩, afterLayers, fields⟩ :=
    List.forall₂_cons_left_iff.mp kinds
  obtain ⟨lit, _, ⟨litValue, isOff, litKind, -⟩, afterLit, rfl⟩ :=
    List.forall₂_cons_left_iff.mp afterLayers
  obtain rfl := List.forall₂_nil_left_iff.mp afterLit
  obtain rfl : "1" = layersValue := Option.some.inj (Eq.trans (by decide +kernel) isOne)
  obtain rfl : "off" = litValue := Option.some.inj (Eq.trans (by decide +kernel) isOff)
  exact ⟨_, stone, snow, cake, layers, lit, ofCatalog_sampleCatalog, blocks,
    ofStone.shape.trans (by decide +kernel), ofSnow.shape.trans (by decide +kernel),
    ofCake.shape.trans (by decide +kernel), fields, layersKind, litKind⟩

end BlockStates
