import BlockStates.Declaration.Lookup
import BlockStates.Proofs.AcceptedLayout

/-!
# Generated units

The unit for an accepted catalog, read back in the terms of the catalog: one
declaration for each property of the union and one for each block.  A state's
row gives each field a value of the field's own declared type, and there are
three ways in which such a row becomes a pattern.
-/

set_option autoImplicit false

namespace BlockStates

/-! ## Catalogs that are read -/

theorem Catalog.KeyedByName.add {catalog : Catalog} (keyed : catalog.KeyedByName)
    (block : Block) : (catalog.add block).KeyedByName :=
  OrderedMap.forall_entries_insert keyed rfl

theorem Catalog.KeyedByName.addEntries {catalog final : Catalog} (keyed : catalog.KeyedByName)
    (entries : List (String × Json.BlockEntry))
    (success : catalog.addEntries entries = .ok final) : final.KeyedByName := by
  induction entries generalizing catalog with
  | nil =>
    rw [Catalog.addEntries, Except.ok.injEq] at success
    exact success ▸ keyed
  | cons entry rest restKeyed =>
    rw [Catalog.addEntries] at success
    cases described : entry.2.toBlock? entry.1 with
    | error error => simp [described] at success
    | ok block =>
      rw [described] at success
      exact restKeyed (keyed.add block) success

theorem Catalog.keyedByName_of_read {text : String} {catalog : Catalog}
    (success : Catalog.read text = .ok catalog) : catalog.KeyedByName := by
  unfold Catalog.read at success
  cases reading : Json.blockEntries text with
  | error error => simp [reading] at success
  | ok entries =>
    rw [reading] at success
    have emptyKeyed : Catalog.empty.KeyedByName := by simp [Catalog.KeyedByName, Catalog.empty]
    exact emptyKeyed.addEntries entries.entries success

/-! ## Names and their declarations -/

namespace PropertyDeclaration

def rawName : PropertyDeclaration → String
  | .wrapper rawName _ => rawName
  | .enumeration rawName _ _ => rawName

def typeName : PropertyDeclaration → String
  | .wrapper _ typeName => typeName
  | .enumeration _ typeName _ => typeName

end PropertyDeclaration

def BlockDeclaration.rawName : BlockDeclaration → String
  | .fixed rawName _ _ _ => rawName
  | .matching rawName _ _ _ _ => rawName

def SourceUnit.typeNames (unit : SourceUnit) : List String :=
  unit.properties.map PropertyDeclaration.typeName ++ unit.blocks.map BlockDeclaration.typeName

/-! ## The unit of an accepted catalog -/

theorem PropertyType.rawName_declaration (property : PropertyType) :
    property.declaration.rawName = property.name := by
  unfold declaration
  cases property.kind <;> rfl

theorem PropertyType.typeName_declaration (property : PropertyType) :
    property.declaration.typeName = property.typeName := by
  unfold declaration
  cases property.kind <;> rfl

theorem BlockType.names_of_declaration? {block : BlockType} {declaration : BlockDeclaration}
    (declared : block.declaration? = some declaration) :
    declaration.rawName = block.name ∧ declaration.typeName = block.typeName := by
  unfold declaration? at declared
  cases shape : block.shape with
  | simple =>
    simp only [shape, Option.map_eq_some_iff] at declared
    obtain ⟨first, -, rfl⟩ := declared
    exact ⟨rfl, rfl⟩
  | tuple | numeric | composite =>
    simp only [shape, Option.some.injEq] at declared
    subst declared
    exact ⟨rfl, rfl⟩

namespace Catalog

variable {catalog : Catalog} {options : Options}

/-- The unit for a catalog, without a check. -/
def unit (catalog : Catalog) (options : Options) : SourceUnit :=
  (Layout.unchecked catalog catalog.propertyUnion).sourceUnit options

theorem properties_unit :
    (catalog.unit options).properties = catalog.propertyUnion.entries.map fun entry =>
      (PropertyType.ofValues entry.1 entry.2).declaration := by
  simp [unit, Layout.sourceUnit, Layout.propertyDeclarations, Layout.unchecked,
    OrderedMap.values, Function.comp_def]

theorem blocks_unit :
    (catalog.unit options).blocks = catalog.blocks.values.filterMap fun block =>
      (BlockType.ofBlock catalog.propertyTypes block).declaration? := by
  rw [unit, Layout.sourceUnit, Layout.blockDeclarations, Layout.unchecked, List.filterMap_map]
  rfl

theorem mem_properties_unit {name : String} {values : List String}
    (found : catalog.propertyUnion.get? name = some values) :
    (PropertyType.ofValues name values).declaration ∈ (catalog.unit options).properties := by
  rw [properties_unit]
  exact List.mem_map.mpr ⟨(name, values), (OrderedMap.get?_eq_some_iff _ _ _).mp found, rfl⟩

theorem rawNames_properties_unit :
    (catalog.unit options).properties.map PropertyDeclaration.rawName =
      catalog.propertyUnion.keys := by
  rw [properties_unit, List.map_map]
  apply List.map_congr_left
  intro entry _
  exact PropertyType.rawName_declaration _

theorem typeNames_properties_unit :
    (catalog.unit options).properties.map PropertyDeclaration.typeName =
      catalog.propertyUnion.keys.map Identifier.ofRaw := by
  rw [properties_unit, OrderedMap.keys, List.map_map, List.map_map]
  apply List.map_congr_left
  intro entry _
  exact PropertyType.typeName_declaration _

theorem Accepted.exists_declaration (accepted : catalog.Accepted) {block : Block}
    (member : block ∈ catalog.blocks.values) :
    ∃ declaration, (BlockType.ofBlock catalog.propertyTypes block).declaration? =
      some declaration := by
  rcases (accepted.blocks block member).declaration?_cases catalog.propertyTypes with
    ⟨-, first, rest, -, declared⟩ | ⟨-, declared⟩
  · exact ⟨_, declared⟩
  · exact ⟨_, declared⟩

/-- Every block of an accepted catalog is declared, in order. -/
theorem Accepted.forall₂_blocks (accepted : catalog.Accepted) :
    List.Forall₂ (fun block declaration => block ∈ catalog.blocks.values ∧
        (BlockType.ofBlock catalog.propertyTypes block).declaration? = some declaration)
      catalog.blocks.values (catalog.unit options).blocks := by
  rw [blocks_unit]
  apply forall₂_filterMap
  intro block member
  obtain ⟨declaration, declared⟩ := accepted.exists_declaration member
  exact ⟨declaration, declared, member, declared⟩

theorem Accepted.map_blocks_unit (accepted : catalog.Accepted) (nameOf : BlockDeclaration → String)
    (sourceOf : Block → String)
    (same : ∀ block declaration,
      (BlockType.ofBlock catalog.propertyTypes block).declaration? = some declaration →
        nameOf declaration = sourceOf block) :
    (catalog.unit options).blocks.map nameOf = catalog.blocks.values.map sourceOf := by
  rw [← List.forall₂_eq_eq_eq, List.forall₂_map_left_iff, List.forall₂_map_right_iff]
  apply accepted.forall₂_blocks.flip.imp
  rintro declaration block ⟨-, declared⟩
  exact same block declaration declared

theorem Accepted.rawNames_blocks_unit (accepted : catalog.Accepted) :
    (catalog.unit options).blocks.map BlockDeclaration.rawName =
      catalog.blocks.values.map Block.name :=
  accepted.map_blocks_unit _ _ fun _ _ declared => (BlockType.names_of_declaration? declared).1

theorem Accepted.typeNames_unit (accepted : catalog.Accepted) :
    (catalog.unit options).typeNames =
      (Layout.unchecked catalog catalog.propertyUnion).typeNames := by
  have blockNames : (catalog.unit options).blocks.map BlockDeclaration.typeName =
      catalog.blocks.values.map fun block => Identifier.ofRaw block.name :=
    accepted.map_blocks_unit _ _ fun _ _ declared => (BlockType.names_of_declaration? declared).2
  rw [SourceUnit.typeNames, typeNames_properties_unit, blockNames, typeNames_unchecked]

theorem Accepted.typeNames_nodup (accepted : catalog.Accepted)
    (sound : (Layout.unchecked catalog catalog.propertyUnion).TypeNamesSound) :
    (catalog.unit options).typeNames.Nodup := by
  rw [accepted.typeNames_unit]
  exact (List.nodup_append.mp sound.distinct).2.1

theorem Accepted.propertyTypes_distinct (accepted : catalog.Accepted) :
    ((catalog.unit options).properties.map PropertyDeclaration.typeName).Nodup := by
  have distinct := accepted.names.distinct
  rw [typeSources, List.map_append, ← List.append_assoc] at distinct
  rw [typeNames_properties_unit]
  exact (List.nodup_append.mp (List.nodup_append.mp distinct).1).2.1

end Catalog

/-! ## Fields and their values -/

structure PropertyType.DeclaredIn (property : PropertyType) (unit : SourceUnit) : Prop where
  settled : property.Settled
  declared : property.declaration ∈ unit.properties

structure PropertyType.Offers (unit : SourceUnit) (property : PropertyType) (value : String) :
    Prop where
  declaredIn : property.DeclaredIn unit
  listed : value ∈ property.values

theorem PropertyType.Settled.isByteNumber {property : PropertyType} (settled : property.Settled)
    (numeric : property.kind = .numeric) {value : String} (listed : value ∈ property.values) :
    IsByteNumber value := by
  rw [settled.kind_eq] at numeric
  exact (isByteNumber_iff_numericValue?_isSome value).mpr
    ((settled.values.numbers numeric).1 value listed)

namespace Catalog.Accepted

variable {catalog : Catalog} {options : Options}

theorem field_declaredIn (accepted : catalog.Accepted) {block : Block}
    (member : block ∈ catalog.blocks.values) {name : String} {declared : List String}
    (isDeclared : (name, declared) ∈ block.properties.entries) :
    (BlockType.field catalog.propertyTypes name declared).DeclaredIn (catalog.unit options) ∧
      ∀ value ∈ declared, value ∈ (BlockType.field catalog.propertyTypes name declared).values := by
  obtain ⟨values, found, isField, settled, inside⟩ := accepted.exists_field member isDeclared
  rw [isField]
  exact ⟨⟨settled, mem_properties_unit found⟩, inside⟩

theorem fields_declaredIn (accepted : catalog.Accepted) {block : Block}
    (member : block ∈ catalog.blocks.values) :
    ∀ field ∈ (BlockType.ofBlock catalog.propertyTypes block).fields,
      field.DeclaredIn (catalog.unit options) := by
  intro field isField
  obtain ⟨⟨name, declared⟩, entry, rfl⟩ := List.mem_map.mp isField
  exact (accepted.field_declaredIn member entry).1

theorem typeName_field (accepted : catalog.Accepted) {block : Block}
    (member : block ∈ catalog.blocks.values) :
    (BlockType.ofBlock catalog.propertyTypes block).fields.map PropertyType.typeName =
      block.properties.keys.map Identifier.ofRaw := by
  rw [BlockType.ofBlock, OrderedMap.keys, List.map_map, List.map_map]
  apply List.map_congr_left
  rintro ⟨name, declared⟩ entry
  obtain ⟨values, -, isField, -⟩ := accepted.exists_field member entry
  rw [Function.comp_apply, isField]
  rfl

/-- The values of a state stand in the order of the fields, each among those of
its field. -/
theorem forall₂_combination (accepted : catalog.Accepted) {block : Block}
    (member : block ∈ catalog.blocks.values) {state : State} (isState : state ∈ block.states) :
    List.Forall₂ (PropertyType.Offers (catalog.unit options))
      (BlockType.ofBlock catalog.propertyTypes block).fields (combination block state) := by
  have stateFit := (accepted.blocks block member).states state isState
  apply stateFit.forall₂_combination
  intro name declared entry value isValue
  obtain ⟨declaredIn, inside⟩ := accepted.field_declaredIn member entry
  exact ⟨declaredIn, inside value isValue⟩

theorem forall₂_row (accepted : catalog.Accepted) {block : Block}
    (member : block ∈ catalog.blocks.values) {state : State} (isState : state ∈ block.states) :
    List.Forall₂ (PropertyType.Offers (catalog.unit options))
      (BlockType.ofBlock catalog.propertyTypes block).fields
      (BlockType.row block state).values := by
  rw [((accepted.blocks block member).states state isState).values_row]
  exact accepted.forall₂_combination member isState

end Catalog.Accepted

/-! ## Patterns -/

/-- The three ways in which a state of a block with fields is matched. -/
theorem BlockType.pattern_cases (block : BlockType) (row : Row)
    (shaped : block.shape = .ofFields block.fields) (composed : block.fields ≠ [])
    (sameLength : block.fields.length = row.values.length) :
    (∃ field value, block.fields = [field] ∧ row.values = [value] ∧ field.kind = .numeric ∧
      block.scrutinee = .number ∧ block.pattern row = .numbers [value]) ∨
    (∃ field value, block.fields = [field] ∧ row.values = [value] ∧ block.scrutinee = .field ∧
      block.pattern row = .values [field.expr value]) ∨
    (block.scrutinee = .whole ∧
      block.pattern row = .state (.applied block.typeName (block.fieldExprs row))) := by
  unfold scrutinee pattern
  -- The cases are those of the shape, which only looks at the fields.
  match fields : block.fields with
  | [] => exact absurd fields composed
  | [field] =>
    rw [fields] at shaped sameLength
    obtain ⟨value, values⟩ := List.length_eq_one_iff.mp sameLength.symm
    cases kind : field.kind with
    | numeric =>
      have shape : block.shape = .numeric := by rw [shaped, BlockShape.ofFields, kind]
      exact Or.inl ⟨field, value, rfl, values, kind, by rw [shape], by rw [shape, values]⟩
    | symbolic =>
      have shape : block.shape = .tuple := by rw [shaped, BlockShape.ofFields, kind]
      have exprs : block.fieldExprs row = [field.expr value] := by
        rw [fieldExprs, fields, values]
        rfl
      exact Or.inr (Or.inl ⟨field, value, rfl, values, by rw [shape], by rw [shape, exprs]⟩)
  | first :: second :: rest =>
    have shape : block.shape = .composite := by
      rw [shaped, fields]
      rfl
    have applied : block.stateExpr row = .applied block.typeName (block.fieldExprs row) := by
      rw [stateExpr, fields]
      rfl
    exact Or.inr (Or.inr ⟨by rw [shape], by rw [shape, applied]⟩)

/-! ## A sample -/

/-- Three blocks: without properties, with a number, and with two properties of
which only one combination is a state. -/
def sampleText : String :=
  "\x7b\"stone\":[\x7b\x7d,[[1]]]," ++
    "\"snow\":[\x7b\"layers\":[\"1\",\"02\"]\x7d,[[2,\x7b\"layers\":\"02\"\x7d]]]," ++
    "\"cake\":[\x7b\"layers\":[\"1\"],\"lit\":[\"on\",\"off\"]\x7d," ++
      "[[3,\x7b\"lit\":\"off\",\"layers\":\"1\"\x7d]]]\x7d"

def sampleStone : Block :=
  ⟨"stone", ∅, [⟨1, ∅⟩]⟩

def sampleSnow : Block :=
  ⟨"snow", .ofList [("layers", ["1", "02"])], [⟨2, .ofList [("layers", "02")]⟩]⟩

def sampleCake : Block :=
  ⟨"cake", .ofList [("layers", ["1"]), ("lit", ["on", "off"])],
    [⟨3, .ofList [("lit", "off"), ("layers", "1")]⟩]⟩

def sampleCatalog : Catalog :=
  ((Catalog.empty.add sampleStone).add sampleSnow).add sampleCake

def withTable : Options :=
  { stateTable := true }

theorem read_sampleText : Catalog.read sampleText = .ok sampleCatalog := by
  decide +kernel

theorem ofCatalog_sampleCatalog :
    Layout.ofCatalog sampleCatalog =
      .ok (Layout.unchecked sampleCatalog sampleCatalog.propertyUnion) := by
  decide +kernel

theorem generate_sampleText :
    (generate sampleText withTable).value = .ok (sampleCatalog.unit withTable).text :=
  (generate_value_eq_ok_iff _ _ _).mpr
    ⟨sampleCatalog, _, read_sampleText, ofCatalog_sampleCatalog, rfl⟩

end BlockStates
