import BlockStates.Proofs.GeneratedUnit

/-!
# Names in generated units

A unit that is generated from the text of a catalog declares every name that it
uses.  The declarations come from the property union of the whole catalog, the
uses from the states of single blocks; `names_resolve` says that they agree in
names, in kinds and in the number of fields.
-/

set_option autoImplicit false

namespace BlockStates

/-! ## What it means to resolve -/

inductive ValueExpr.Resolves (unit : SourceUnit) : ValueExpr → String → Prop where
  /-- A number that fits into one byte, inside a declared wrapper. -/
  | wrapped (rawName : String) {typeName number : String}
      (declared : .wrapper rawName typeName ∈ unit.properties) (fits : IsByteNumber number) :
      Resolves unit (.wrapped typeName number) typeName
  /-- A variant that the declared enumeration has. -/
  | variant (rawName : String) (variants : List String) {typeName variantName : String}
      (declared : .enumeration rawName typeName variants ∈ unit.properties)
      (listed : variantName ∈ variants) :
      Resolves unit (.variant typeName variantName) typeName

inductive StateExpr.Resolves (unit : SourceUnit) : StateExpr → Prop where
  | bare (rawName : String) (id : UInt16) (name : String) {typeName : String}
      (declared : .fixed rawName typeName id name ∈ unit.blocks) :
      Resolves unit (.bare typeName)
  | applied (rawName : String) (fieldTypes : List String) (scrutinee : Scrutinee)
      (arms : List Arm) {typeName : String} {exprs : List ValueExpr}
      (declared : .matching rawName typeName fieldTypes scrutinee arms ∈ unit.blocks)
      (fields : List.Forall₂ (ValueExpr.Resolves unit) exprs fieldTypes) :
      Resolves unit (.applied typeName exprs)

inductive Pattern.Resolves (unit : SourceUnit) (typeName : String) :
    List String → Scrutinee → Pattern → Prop where
  /-- A number, against the number in the only field. -/
  | number (rawName : String) {fieldType number : String}
      (declared : .wrapper rawName fieldType ∈ unit.properties) (fits : IsByteNumber number) :
      Resolves unit typeName [fieldType] .number (.numbers [number])
  | field {fieldType : String} {expr : ValueExpr} (resolves : expr.Resolves unit fieldType) :
      Resolves unit typeName [fieldType] .field (.values [expr])
  /-- A state of the type itself, against the whole value. -/
  | whole {fieldTypes : List String} {exprs : List ValueExpr}
      (fields : List.Forall₂ (ValueExpr.Resolves unit) exprs fieldTypes) :
      Resolves unit typeName fieldTypes .whole (.state (.applied typeName exprs))

structure SourceUnit.NamesResolve (unit : SourceUnit) : Prop where
  /-- No type is declared twice or named as an imported trait. -/
  types : (importedNames ++ unit.typeNames).Nodup
  variants : ∀ rawName typeName variants,
    .enumeration rawName typeName variants ∈ unit.properties → variants.Nodup
  fields : ∀ declaration ∈ unit.blocks, ∀ fieldType ∈ declaration.fieldTypes,
    fieldType ∈ unit.properties.map PropertyDeclaration.typeName
  /-- A type without fields has nothing to match on. -/
  composed : ∀ rawName typeName fieldTypes scrutinee arms,
    .matching rawName typeName fieldTypes scrutinee arms ∈ unit.blocks → fieldTypes ≠ []
  patterns : ∀ rawName typeName fieldTypes scrutinee arms,
    .matching rawName typeName fieldTypes scrutinee arms ∈ unit.blocks →
      ∀ arm ∈ arms, arm.pattern.Resolves unit typeName fieldTypes scrutinee
  table : ∀ entries, unit.table = some entries → ∀ entry ∈ entries, entry.expr.Resolves unit

/-! ## Expressions and patterns -/

/-- Any value of a declared property is written in the terms of the declaration. -/
theorem PropertyType.DeclaredIn.expr_resolves {property : PropertyType} {unit : SourceUnit}
    (declaredIn : property.DeclaredIn unit) {value : String} (listed : value ∈ property.values) :
    (property.expr value).Resolves unit property.typeName := by
  have declared := declaredIn.declared
  cases kind : property.kind with
  | numeric =>
    simp only [PropertyType.declaration, kind] at declared
    simp only [PropertyType.expr, kind]
    exact .wrapped property.name declared (declaredIn.settled.isByteNumber kind listed)
  | symbolic =>
    simp only [PropertyType.declaration, kind] at declared
    simp only [PropertyType.expr, kind]
    exact .variant property.name _ declared (List.mem_map_of_mem listed)

theorem forall₂_zipWith_map {First Second Made Source : Type} {given : First → Second → Prop}
    {related : Made → Source → Prop} (make : First → Second → Made) (sourceOf : First → Source)
    (each : ∀ first second, given first second → related (make first second) (sourceOf first))
    {firsts : List First} {seconds : List Second} (all : List.Forall₂ given firsts seconds) :
    List.Forall₂ related (List.zipWith make firsts seconds) (firsts.map sourceOf) := by
  induction all with
  | nil => exact List.Forall₂.nil
  | cons isGiven _ restRelated => exact List.Forall₂.cons (each _ _ isGiven) restRelated

theorem BlockType.fieldExprs_resolve {unit : SourceUnit} (block : BlockType) (row : Row)
    (typed : List.Forall₂ (PropertyType.Offers unit) block.fields row.values) :
    List.Forall₂ (ValueExpr.Resolves unit) (block.fieldExprs row)
      (block.fields.map PropertyType.typeName) := by
  apply forall₂_zipWith_map _ _ _ typed
  rintro field value ⟨declaredIn, listed⟩
  exact declaredIn.expr_resolves listed

theorem BlockType.pattern_resolves {unit : SourceUnit} (block : BlockType) (row : Row)
    (shaped : block.shape = .ofFields block.fields) (composed : block.fields ≠ [])
    (typed : List.Forall₂ (PropertyType.Offers unit) block.fields row.values) :
    (block.pattern row).Resolves unit block.typeName (block.fields.map PropertyType.typeName)
      block.scrutinee := by
  rcases block.pattern_cases row shaped composed typed.length_eq with
    ⟨field, value, fields, values, numeric, scrutinee, pattern⟩ |
    ⟨field, value, fields, values, scrutinee, pattern⟩ | ⟨scrutinee, pattern⟩
  · rw [fields, values, List.forall₂_cons] at typed
    obtain ⟨⟨declaredIn, listed⟩, -⟩ := typed
    have declared := declaredIn.declared
    simp only [PropertyType.declaration, numeric] at declared
    rw [scrutinee, pattern, fields]
    exact .number field.name declared (declaredIn.settled.isByteNumber numeric listed)
  · rw [fields, values, List.forall₂_cons] at typed
    obtain ⟨⟨declaredIn, listed⟩, -⟩ := typed
    rw [scrutinee, pattern, fields]
    exact .field (declaredIn.expr_resolves listed)
  · rw [scrutinee, pattern]
    exact .whole (block.fieldExprs_resolve row typed)

namespace Catalog.Accepted

variable {catalog : Catalog} {options : Options}

/-- The variants of a declared enumeration come from values with usable names. -/
theorem exists_values_of_enumeration (accepted : catalog.Accepted) {rawName typeName : String}
    {variants : List String}
    (declared : .enumeration rawName typeName variants ∈ (catalog.unit options).properties) :
    ∃ values : List String, variants = values.map Identifier.ofRaw ∧
      (∀ value ∈ values, Identifier.isUsable (Identifier.ofRaw value) = true) ∧
      (values.map Identifier.ofRaw).Nodup := by
  rw [properties_unit] at declared
  obtain ⟨⟨name, values⟩, entry, isDeclared⟩ := List.mem_map.mp declared
  have settled := accepted.settled ((OrderedMap.get?_eq_some_iff _ _ _).mpr entry)
  cases kind : ValueKind.ofValues values with
  | numeric => simp [PropertyType.declaration, PropertyType.ofValues, kind] at isDeclared
  | symbolic =>
    simp only [PropertyType.declaration, PropertyType.ofValues, kind,
      PropertyDeclaration.enumeration.injEq] at isDeclared
    obtain ⟨-, -, rfl⟩ := isDeclared
    exact ⟨values, rfl, settled.variants kind⟩

theorem variants_nodup (accepted : catalog.Accepted) {rawName typeName : String}
    {variants : List String}
    (declared : .enumeration rawName typeName variants ∈ (catalog.unit options).properties) :
    variants.Nodup := by
  obtain ⟨values, rfl, -, distinct⟩ := accepted.exists_values_of_enumeration declared
  exact distinct

/-- What a declaration with fields says about its block. -/
theorem exists_block_of_matching (accepted : catalog.Accepted) {rawName typeName : String}
    {fieldTypes : List String} {scrutinee : Scrutinee} {arms : List Arm}
    (declared : .matching rawName typeName fieldTypes scrutinee arms ∈
      (catalog.unit options).blocks) :
    ∃ block ∈ catalog.blocks.values, block.isSimple = false ∧
      .matching rawName typeName fieldTypes scrutinee arms =
        block.matching catalog.propertyTypes := by
  rw [blocks_unit] at declared
  obtain ⟨block, member, isDeclared⟩ := List.mem_filterMap.mp declared
  rcases (accepted.blocks block member).declaration?_cases catalog.propertyTypes with
    ⟨-, first, rest, -, isFixed⟩ | ⟨composed, isMatching⟩
  · rw [isFixed] at isDeclared
    cases Option.some.inj isDeclared
  · rw [isMatching] at isDeclared
    exact ⟨block, member, composed, (Option.some.inj isDeclared).symm⟩

theorem patterns_resolve (accepted : catalog.Accepted) {rawName typeName : String}
    {fieldTypes : List String} {scrutinee : Scrutinee} {arms : List Arm}
    (declared : .matching rawName typeName fieldTypes scrutinee arms ∈
      (catalog.unit options).blocks) :
    ∀ arm ∈ arms, arm.pattern.Resolves (catalog.unit options) typeName fieldTypes scrutinee := by
  obtain ⟨block, member, composed, same⟩ := accepted.exists_block_of_matching declared
  obtain ⟨-, rfl, rfl, rfl, rfl⟩ := BlockDeclaration.matching.inj same
  intro arm isArm
  obtain ⟨row, isRow, rfl⟩ := List.mem_map.mp isArm
  obtain ⟨state, isState, rfl⟩ := List.mem_map.mp isRow
  exact BlockType.pattern_resolves _ _ rfl (BlockType.fields_ne_nil _ composed)
    (accepted.forall₂_row member isState)

theorem fieldTypes_declared (accepted : catalog.Accepted) {declaration : BlockDeclaration}
    (declared : declaration ∈ (catalog.unit options).blocks) :
    ∀ fieldType ∈ declaration.fieldTypes,
      fieldType ∈ (catalog.unit options).properties.map PropertyDeclaration.typeName := by
  intro fieldType isField
  cases declaration with
  | fixed rawName typeName id name => exact absurd isField List.not_mem_nil
  | matching rawName typeName fieldTypes scrutinee arms =>
    obtain ⟨block, member, -, same⟩ := accepted.exists_block_of_matching declared
    obtain ⟨-, -, rfl, -, -⟩ := BlockDeclaration.matching.inj same
    obtain ⟨field, inBlock, rfl⟩ := List.mem_map.mp isField
    rw [← PropertyType.typeName_declaration]
    exact List.mem_map_of_mem (accepted.fields_declaredIn member field inBlock).declared

theorem mem_blocks_unit {block : Block} (member : block ∈ catalog.blocks.values)
    {declaration : BlockDeclaration}
    (declared : (BlockType.ofBlock catalog.propertyTypes block).declaration? = some declaration) :
    declaration ∈ (catalog.unit options).blocks := by
  rw [blocks_unit]
  exact List.mem_filterMap.mpr ⟨block, member, declared⟩

theorem stateExpr_resolves (accepted : catalog.Accepted) {block : Block}
    (member : block ∈ catalog.blocks.values) {state : State} (isState : state ∈ block.states) :
    ((BlockType.ofBlock catalog.propertyTypes block).stateExpr
      (BlockType.row block state)).Resolves (catalog.unit options) := by
  rw [BlockType.stateExpr, BlockType.isEmpty_fields]
  rcases (accepted.blocks block member).declaration?_cases catalog.propertyTypes with
    ⟨simple, first, rest, -, declared⟩ | ⟨composed, declared⟩
  · rw [if_pos simple]
    exact .bare _ _ _ (mem_blocks_unit member declared)
  · rw [composed]
    exact .applied _ _ _ _ (mem_blocks_unit member declared)
      (BlockType.fieldExprs_resolve _ _ (accepted.forall₂_row member isState))

/-- Every line of the table is an expression of a declared block type. -/
theorem tableEntries_resolve (accepted : catalog.Accepted) :
    ∀ entry ∈ (Layout.unchecked catalog catalog.propertyUnion).tableEntries,
      entry.expr.Resolves (catalog.unit options) := by
  intro entry isEntry
  obtain ⟨type, isType, inType⟩ := List.mem_flatMap.mp isEntry
  obtain ⟨block, member, rfl⟩ := List.mem_map.mp isType
  obtain ⟨row, isTableRow, rfl⟩ := List.mem_map.mp inType
  have isRow : row ∈ (BlockType.ofBlock catalog.propertyTypes block).rows := by
    unfold BlockType.tableRows at isTableRow
    split at isTableRow
    · exact List.mem_of_mem_take isTableRow
    all_goals exact isTableRow
  obtain ⟨state, isState, rfl⟩ := List.mem_map.mp isRow
  exact accepted.stateExpr_resolves member isState

theorem names_resolve (accepted : catalog.Accepted)
    (sound : (Layout.unchecked catalog catalog.propertyUnion).TypeNamesSound) :
    (catalog.unit options).NamesResolve where
  types := by
    rw [accepted.typeNames_unit]
    exact sound.distinct
  variants := fun _ _ _ declared => accepted.variants_nodup declared
  fields := fun _ declared => accepted.fieldTypes_declared declared
  composed := by
    intro rawName typeName fieldTypes scrutinee arms declared
    obtain ⟨block, -, composed, same⟩ := accepted.exists_block_of_matching declared
    obtain ⟨-, -, rfl, -, -⟩ := BlockDeclaration.matching.inj same
    exact mt List.map_eq_nil_iff.mp (BlockType.fields_ne_nil _ composed)
  patterns := fun _ _ _ _ _ declared => accepted.patterns_resolve declared
  table := by
    intro entries isTable
    rw [unit, Layout.sourceUnit, Option.ite_none_right_eq_some, Option.some.injEq] at isTable
    obtain ⟨-, rfl⟩ := isTable
    exact accepted.tableEntries_resolve

end Catalog.Accepted

end BlockStates
