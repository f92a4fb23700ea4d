import BlockStates.Proofs.Code.Unit
import BlockStates.Proofs.RawNames

/-!
# Names in generated code

What a reader of generated code finds has a declaration for every name that it
uses.  Declarations and uses are told from the code alone: a type by its item, a
use by the place where the name stands.
-/

set_option autoImplicit false

namespace BlockStates

open Code

/-! ## What it means for code to resolve -/

/-- In code a value expression denotes a value of a declared type. -/
inductive ValueExpr.ResolvesIn (code : Code) : ValueExpr → String → Prop where
  /-- A number that fits into one byte, inside a declared wrapper of a byte. -/
  | wrapped {typeName number : String} (declared : .struct typeName [byteType] ∈ code)
      (fits : IsByteNumber number) : ResolvesIn code (.wrapped typeName number) typeName
  /-- A variant that the declared enumeration has. -/
  | variant (variants : List String) {typeName variantName : String}
      (declared : .enumeration typeName variants ∈ code) (listed : variantName ∈ variants) :
      ResolvesIn code (.variant typeName variantName) typeName

/-- In code a state expression denotes a value of a declared type: it has one
expression of the declared type for each field. -/
inductive StateExpr.ResolvesIn (code : Code) : StateExpr → Prop where
  | bare {typeName : String} (declared : .struct typeName [] ∈ code) :
      ResolvesIn code (.bare typeName)
  | applied (fieldTypes : List String) {typeName : String} {exprs : List ValueExpr}
      (declared : .struct typeName fieldTypes ∈ code)
      (fields : List.Forall₂ (ValueExpr.ResolvesIn code) exprs fieldTypes) :
      ResolvesIn code (.applied typeName exprs)

/-- In code a pattern can be compared with the scrutinee of a type with these
fields. -/
inductive Pattern.ResolvesIn (code : Code) (typeName : String) :
    List String → Scrutinee → Pattern → Prop where
  /-- A number, against the number in the only field. -/
  | number {fieldType number : String} (declared : .struct fieldType [byteType] ∈ code)
      (fits : IsByteNumber number) :
      ResolvesIn code typeName [fieldType] .number (.numbers [number])
  | field {fieldType : String} {expr : ValueExpr} (resolves : expr.ResolvesIn code fieldType) :
      ResolvesIn code typeName [fieldType] .field (.values [expr])
  /-- A state of the type itself, against the whole value. -/
  | whole {fieldTypes : List String} {exprs : List ValueExpr}
      (fields : List.Forall₂ (ValueExpr.ResolvesIn code) exprs fieldTypes) :
      ResolvesIn code typeName fieldTypes .whole (.state (.applied typeName exprs))

def Body.ResolvesIn {Result : Type} (code : Code) (typeName : String) (fieldTypes : List String) :
    Body Result → Prop
  | .constant _ => True
  | .selection scrutinee arms _ =>
    ∀ arm ∈ arms, Pattern.ResolvesIn code typeName fieldTypes scrutinee arm.1

/-- Every name that code uses has one meaning, and that meaning fits the use. -/
structure Code.NamesResolve (code : Code) : Prop where
  /-- No type is declared twice or named as an imported trait. -/
  types : (importedNames ++ code.typeNames).Nodup
  /-- No type has the name of a built-in one, of a keyword or of the table. -/
  unreserved : ∀ typeName ∈ code.typeNames, typeName ∉ Identifier.reservedWords
  variants : ∀ typeName variants, .enumeration typeName variants ∈ code → variants.Nodup
  fields : ∀ typeName fieldTypes, .struct typeName fieldTypes ∈ code →
    ∀ fieldType ∈ fieldTypes, fieldType = byteType ∨ fieldType ∈ code.typeNames
  properties : ∀ typeName, .property typeName ∈ code → typeName ∈ code.typeNames
  lookups : ∀ implementation ∈ code.implementations, ∃ fieldTypes,
    .struct implementation.typeName fieldTypes ∈ code ∧
    implementation.getId.ResolvesIn code implementation.typeName fieldTypes ∧
    implementation.getName.ResolvesIn code implementation.typeName fieldTypes
  table : ∀ entries ∈ code.tables, ∀ entry ∈ entries, entry.expr.ResolvesIn code

/-- Code declares one type for each property that some block has, and one type
with look-ups for each block. -/
structure Code.Declares (code : Code) (catalog : Catalog) : Prop where
  types : ∃ properties : List String, properties.Nodup ∧
    (∀ property, property ∈ properties ↔
      ∃ block ∈ catalog.blocks.values, property ∈ block.properties.keys) ∧
    code.typeNames = properties.map Identifier.ofRaw ++
      catalog.blocks.values.map fun block => Identifier.ofRaw block.name
  lookups : code.implementations.map Implementation.typeName =
    catalog.blocks.values.map fun block => Identifier.ofRaw block.name

/-! ## From units to their code -/

section Resolves

variable {unit : SourceUnit}

theorem ValueExpr.Resolves.resolvesIn {expr : ValueExpr} {fieldType : String}
    (resolves : expr.Resolves unit fieldType) : expr.ResolvesIn unit.content fieldType := by
  cases resolves with
  | wrapped rawName declared fits =>
    exact .wrapped (SourceUnit.struct_mem_content_iff.mpr (Or.inl ⟨rawName, declared, rfl⟩)) fits
  | variant rawName variants declared listed =>
    exact .variant variants (SourceUnit.enumeration_mem_content_iff.mpr ⟨rawName, declared⟩) listed

theorem StateExpr.Resolves.resolvesIn {expr : StateExpr} (resolves : expr.Resolves unit) :
    expr.ResolvesIn unit.content := by
  cases resolves with
  | bare rawName id name declared =>
    exact .bare (SourceUnit.struct_mem_content declared)
  | applied rawName fieldTypes scrutinee arms declared fields =>
    exact .applied fieldTypes (SourceUnit.struct_mem_content declared)
      (fields.imp fun _ _ => ValueExpr.Resolves.resolvesIn)

theorem Pattern.Resolves.resolvesIn {pattern : Pattern} {typeName : String}
    {fieldTypes : List String} {scrutinee : Scrutinee}
    (resolves : pattern.Resolves unit typeName fieldTypes scrutinee) :
    pattern.ResolvesIn unit.content typeName fieldTypes scrutinee := by
  cases resolves with
  | number rawName declared fits =>
    exact .number (SourceUnit.struct_mem_content_iff.mpr (Or.inl ⟨rawName, declared, rfl⟩)) fits
  | field resolves => exact .field resolves.resolvesIn
  | whole fields => exact .whole (fields.imp fun _ _ => ValueExpr.Resolves.resolvesIn)

theorem BlockDeclaration.lookups_resolveIn (resolve : unit.NamesResolve)
    {declaration : BlockDeclaration} (declared : declaration ∈ unit.blocks) :
    declaration.implementation.getId.ResolvesIn unit.content declaration.typeName
        declaration.fieldTypes ∧
      declaration.implementation.getName.ResolvesIn unit.content declaration.typeName
        declaration.fieldTypes := by
  cases declaration with
  | fixed => exact ⟨trivial, trivial⟩
  | matching rawName typeName fieldTypes scrutinee arms =>
    have patterns : ∀ arm ∈ arms,
        arm.pattern.ResolvesIn unit.content typeName fieldTypes scrutinee :=
      fun arm member => (resolve.patterns _ _ _ _ _ declared arm member).resolvesIn
    constructor
    · exact List.forall_mem_map.mpr patterns
    · exact List.forall_mem_map.mpr patterns

/-- What resolves in a unit resolves for a reader of its code. -/
theorem SourceUnit.NamesResolve.content (resolve : unit.NamesResolve)
    (unreserved : ∀ typeName ∈ unit.typeNames, typeName ∉ Identifier.reservedWords) :
    unit.content.NamesResolve where
  types := typeNames_content ▸ resolve.types
  unreserved := typeNames_content ▸ unreserved
  variants := by
    intro typeName variants declared
    obtain ⟨rawName, isDeclared⟩ := enumeration_mem_content_iff.mp declared
    exact resolve.variants rawName typeName variants isDeclared
  fields := by
    intro typeName fieldTypes declared fieldType isField
    rw [typeNames_content]
    rcases struct_mem_content_iff.mp declared with ⟨rawName, -, rfl⟩ |
      ⟨declaration, isDeclared, -, rfl⟩
    · exact Or.inl (List.mem_singleton.mp isField)
    · exact Or.inr (List.mem_append_left _ (resolve.fields declaration isDeclared _ isField))
  properties := by
    intro typeName declared
    rw [typeNames_content]
    obtain ⟨declaration, isDeclared, isMarker⟩ | ⟨declaration, -, isMarker⟩ |
      ⟨entries, -, isMarker⟩ := mem_content_iff.mp declared
    · have sameName : typeName = declaration.typeName := by
        cases declaration <;>
          simpa [PropertyDeclaration.content, PropertyDeclaration.typeName] using isMarker
      exact List.mem_append_left _ (sameName ▸ List.mem_map_of_mem isDeclared)
    · simp [BlockDeclaration.content] at isMarker
    · simp at isMarker
  lookups := by
    rw [implementations_content, List.forall_mem_map]
    intro declaration declared
    rw [BlockDeclaration.typeName_implementation]
    exact ⟨declaration.fieldTypes, SourceUnit.struct_mem_content declared,
      BlockDeclaration.lookups_resolveIn resolve declared⟩
  table := by
    intro entries isTable entry isEntry
    rw [tables_content, Option.mem_toList] at isTable
    exact (resolve.table entries isTable entry isEntry).resolvesIn

end Resolves

/-! ## Units of accepted catalogs -/

namespace Catalog.Accepted

variable {catalog : Catalog} {options : Options}

theorem unreserved_unit (accepted : catalog.Accepted)
    (sound : (Layout.unchecked catalog catalog.propertyUnion).TypeNamesSound) :
    ∀ typeName ∈ (catalog.unit options).typeNames, typeName ∉ Identifier.reservedWords := by
  rw [accepted.typeNames_unit]
  intro typeName isType
  have usable := sound.usable typeName isType
  rw [typeNames_unchecked] at isType
  obtain ⟨raw, rfl⟩ : ∃ raw, Identifier.ofRaw raw = typeName := by
    rcases List.mem_append.mp isType with isProperty | isBlock
    · obtain ⟨raw, -, isName⟩ := List.mem_map.mp isProperty
      exact ⟨raw, isName⟩
    · obtain ⟨block, -, isName⟩ := List.mem_map.mp isBlock
      exact ⟨block.name, isName⟩
  exact Identifier.not_reserved_of_isUsable usable

theorem content_resolves (accepted : catalog.Accepted)
    (sound : (Layout.unchecked catalog catalog.propertyUnion).TypeNamesSound) :
    (catalog.unit options).content.NamesResolve :=
  (accepted.names_resolve sound).content (accepted.unreserved_unit sound)

theorem content_declares (accepted : catalog.Accepted) :
    (catalog.unit options).content.Declares catalog where
  types := by
    refine ⟨catalog.propertyUnion.keys, catalog.propertyUnion.nodup_keys,
      catalog.mem_keys_propertyUnion_iff, ?_⟩
    rw [SourceUnit.typeNames_content, accepted.typeNames_unit, typeNames_unchecked]
  lookups := by
    rw [SourceUnit.implementations_content, List.map_map]
    apply accepted.map_blocks_unit
    intro block declaration declared
    rw [Function.comp_apply, BlockDeclaration.typeName_implementation]
    exact (BlockType.names_of_declaration? declared).2

end Catalog.Accepted

/-- Whatever text a unit is generated from, and with or without the table, a reader
of the unit finds the declarations of the catalog, and all names there resolve. -/
theorem generated_names_resolve (text : String) (options : Options) (source : String)
    (success : (generate text options).value = .ok source) :
    ∃ catalog code, Catalog.read text = .ok catalog ∧ Code.ReadIn options source code ∧
      code.Declares catalog ∧ (code.tables.length = if options.stateTable then 1 else 0) ∧
      code.NamesResolve := by
  obtain ⟨catalog, reading, accepted, sound, isRead⟩ := readIn_generate success
  refine ⟨catalog, (catalog.unit options).content, reading, isRead, accepted.content_declares, ?_,
    accepted.content_resolves sound⟩
  rw [SourceUnit.tables_content]
  cases stateTable : options.stateTable <;> simp [Catalog.unit, Layout.sourceUnit, stateTable]

theorem generated_names_resolve_of_sampleText :
    ∃ source code, (generate sampleText withTable).value = .ok source ∧
      Code.ReadIn withTable source code ∧
      code.implementations.map Implementation.typeName = ["Stone", "Snow", "Cake"] ∧
      code.tables.length = 1 ∧ code.NamesResolve := by
  obtain ⟨catalog, code, reading, isRead, declares, table, resolve⟩ :=
    generated_names_resolve sampleText withTable _ generate_sampleText
  obtain rfl := Except.ok.inj (read_sampleText.symm.trans reading)
  exact ⟨_, code, generate_sampleText, isRead, declares.lookups.trans (by decide +kernel), table,
    resolve⟩

end BlockStates
