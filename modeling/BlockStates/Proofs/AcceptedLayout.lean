import BlockStates.Generation
import BlockStates.Proofs.Fitness
import BlockStates.Proofs.PropertyUnion
import Mathlib.Data.List.Forall2

/-!
# Layouts of accepted catalogs

A catalog that passes the check over its own property union is laid out without
loss: every field has the type of its property, every row holds the values that
its state assigns, and every block is declared.
-/

set_option autoImplicit false

namespace BlockStates

abbrev Catalog.Accepted (catalog : Catalog) : Prop :=
  catalog.Fit catalog.propertyUnion

def Catalog.propertyTypes (catalog : Catalog) : OrderedMap String PropertyType :=
  catalog.propertyUnion.mapValues PropertyType.ofValues

namespace Layout

theorem ofCatalog_eq_ok_iff (catalog : Catalog) (layout : Layout) :
    ofCatalog catalog = .ok layout ↔
      catalog.Accepted ∧ unchecked catalog catalog.propertyUnion = layout := by
  simp only [ofCatalog, bind_eq_ok_iff, pure_eq_ok_iff]
  have checkIff := catalog.check_eq_ok_iff catalog.propertyUnion
  constructor
  · rintro ⟨_, checked, laidOut⟩
    exact ⟨checkIff.mp checked, laidOut⟩
  · rintro ⟨accepted, laidOut⟩
    exact ⟨(), checkIff.mpr accepted, laidOut⟩

end Layout

/-- A unit is generated exactly for the readable texts of accepted catalogs. -/
theorem generate_value_eq_ok_iff (text : String) (options : Options) (code : String) :
    (generate text options).value = .ok code ↔
      ∃ catalog layout, Catalog.read text = .ok catalog ∧
        Layout.ofCatalog catalog = .ok layout ∧ (layout.sourceUnit options).text = code := by
  unfold generate
  cases reading : Catalog.read text with
  | error error => simp
  | ok catalog =>
    cases laidOut : Layout.ofCatalog catalog with
    | error defect => simp [laidOut]
    | ok layout => simp [laidOut, Layout.generate]

/-! ## Types of properties -/

structure PropertyType.Settled (property : PropertyType) : Prop where
  formed : property = .ofValues property.name property.values
  values : ValuesFit property.values
  variants : VariantsFit property.values

theorem PropertyType.Settled.kind_eq {property : PropertyType} (settled : property.Settled) :
    property.kind = ValueKind.ofValues property.values :=
  congrArg PropertyType.kind settled.formed

namespace Catalog

variable {catalog : Catalog}

theorem get?_propertyTypes (property : String) :
    catalog.propertyTypes.get? property =
      (catalog.propertyUnion.get? property).map (PropertyType.ofValues property) :=
  OrderedMap.get?_mapValues _ _ _

theorem Accepted.settled (accepted : catalog.Accepted) {name : String} {values : List String}
    (found : catalog.propertyUnion.get? name = some values) :
    (PropertyType.ofValues name values).Settled := by
  have entry := (OrderedMap.get?_eq_some_iff _ _ _).mp found
  exact ⟨rfl, accepted.values _ entry, accepted.names.variants _ entry⟩

/-- A declared property has a field of the property's own type, with the values
of the whole union. -/
theorem Accepted.exists_field (accepted : catalog.Accepted) {block : Block}
    (member : block ∈ catalog.blocks.values) {name : String} {declared : List String}
    (isDeclared : (name, declared) ∈ block.properties.entries) :
    ∃ values, catalog.propertyUnion.get? name = some values ∧
      BlockType.field catalog.propertyTypes name declared = .ofValues name values ∧
      (PropertyType.ofValues name values).Settled ∧ ∀ value ∈ declared, value ∈ values := by
  have isKey : name ∈ catalog.propertyUnion.keys :=
    (mem_keys_propertyUnion_iff catalog name).mpr
      ⟨block, member, OrderedMap.mem_keys_of_mem_entries _ isDeclared⟩
  obtain ⟨values, found⟩ := (OrderedMap.mem_keys_iff _ name).mp isKey
  refine ⟨values, found, ?_, accepted.settled found, ?_⟩
  · rw [BlockType.field, get?_propertyTypes, found]
    rfl
  · intro value isValue
    exact (mem_propertyUnion_iff catalog found value).mpr
      ⟨block, member, declared, (OrderedMap.get?_eq_some_iff _ _ _).mpr isDeclared, isValue⟩

end Catalog

/-! ## Blocks by name -/

def Catalog.KeyedByName (catalog : Catalog) : Prop :=
  ∀ entry ∈ catalog.blocks.entries, entry.1 = entry.2.name

theorem Catalog.KeyedByName.keys_eq {catalog : Catalog} (keyed : catalog.KeyedByName) :
    catalog.blocks.keys = catalog.blocks.values.map Block.name := by
  rw [OrderedMap.keys, OrderedMap.values, List.map_map]
  exact List.map_congr_left keyed

def Catalog.IdentifiedByKey (catalog : Catalog) : Prop :=
  ∀ entry ∈ catalog.blocks.entries, Identifier.ofRaw entry.1 = Identifier.ofRaw entry.2.name

theorem Catalog.KeyedByName.identifiedByKey {catalog : Catalog} (keyed : catalog.KeyedByName) :
    catalog.IdentifiedByKey :=
  fun entry member => congrArg Identifier.ofRaw (keyed entry member)

theorem Catalog.IdentifiedByKey.map_ofRaw_keys {catalog : Catalog}
    (identified : catalog.IdentifiedByKey) :
    catalog.blocks.keys.map Identifier.ofRaw =
      catalog.blocks.values.map fun block => Identifier.ofRaw block.name := by
  rw [OrderedMap.keys, OrderedMap.values, List.map_map, List.map_map]
  exact List.map_congr_left identified

theorem find?_laidOut (types : OrderedMap String PropertyType) (entries : List (String × Block))
    (keyed : ∀ entry ∈ entries, entry.1 = entry.2.name) (name : String) :
    (entries.map fun entry => BlockType.ofBlock types entry.2).find?
        (fun block => block.name == name) =
      (OrderedMap.find? name entries).map (BlockType.ofBlock types) := by
  induction entries with
  | nil => rfl
  | cons entry rest restFound =>
    obtain ⟨key, block⟩ := entry
    obtain ⟨keyIsName, restKeyed⟩ := List.forall_mem_cons.mp keyed
    have typeName : (BlockType.ofBlock types block).name = key := keyIsName.symm
    rw [List.map_cons, List.find?_cons, typeName, OrderedMap.find?]
    by_cases same : key = name
    · simp [same]
    · have differs : (key == name) = false := beq_eq_false_iff_ne.mpr same
      simp [same, differs, restFound restKeyed]

/-- In the layout, a name gives the type of the block of that name. -/
theorem Catalog.KeyedByName.block?_unchecked {catalog : Catalog} (keyed : catalog.KeyedByName)
    (name : String) :
    (Layout.unchecked catalog catalog.propertyUnion).block? name =
      (catalog.get? name).map (BlockType.ofBlock catalog.propertyTypes) := by
  have laidOut := find?_laidOut catalog.propertyTypes catalog.blocks.entries keyed name
  rw [← Function.comp_def (BlockType.ofBlock catalog.propertyTypes), ← List.map_map] at laidOut
  exact laidOut

/-! ## Names of types -/

def Layout.typeNames (layout : Layout) : List String :=
  layout.properties.values.map PropertyType.typeName ++ layout.blocks.map BlockType.typeName

/-- All types have usable names, which differ from each other and from those of
the imported traits. -/
structure Layout.TypeNamesSound (layout : Layout) : Prop where
  usable : ∀ name ∈ layout.typeNames, Identifier.isUsable name = true
  distinct : (importedNames ++ layout.typeNames).Nodup

namespace Catalog

variable {catalog : Catalog}

theorem typeNames_unchecked :
    (Layout.unchecked catalog catalog.propertyUnion).typeNames =
      catalog.propertyUnion.keys.map Identifier.ofRaw ++
        catalog.blocks.values.map fun block => Identifier.ofRaw block.name := by
  have propertyNames : (Layout.unchecked catalog catalog.propertyUnion).properties.values.map
      PropertyType.typeName = catalog.propertyUnion.keys.map Identifier.ofRaw := by
    simp [Layout.unchecked, OrderedMap.values, OrderedMap.keys, Function.comp_def,
      PropertyType.ofValues]
  rw [Layout.typeNames, propertyNames, Layout.unchecked, List.map_map]
  rfl

theorem Accepted.typeNamesSound (accepted : catalog.Accepted)
    (identified : catalog.IdentifiedByKey) :
    (Layout.unchecked catalog catalog.propertyUnion).TypeNamesSound := by
  have typeNames : (Layout.unchecked catalog catalog.propertyUnion).typeNames =
      (typeSources catalog catalog.propertyUnion).map Identifier.ofRaw := by
    rw [typeNames_unchecked, typeSources, List.map_append, identified.map_ofRaw_keys]
  constructor
  · rw [typeNames]
    intro name member
    obtain ⟨raw, isSource, rfl⟩ := List.mem_map.mp member
    exact accepted.names.usable raw isSource
  · rw [typeNames]
    exact accepted.names.distinct

theorem KeyedByName.typeNamesSound {layout : Layout} (keyed : catalog.KeyedByName)
    (laidOut : Layout.ofCatalog catalog = .ok layout) : layout.TypeNamesSound := by
  obtain ⟨accepted, rfl⟩ := (Layout.ofCatalog_eq_ok_iff catalog layout).mp laidOut
  exact accepted.typeNamesSound keyed.identifiedByKey

theorem isUsable_name
    (sound : (Layout.unchecked catalog catalog.propertyUnion).TypeNamesSound) {block : Block}
    (member : block ∈ catalog.blocks.values) :
    Identifier.isUsable (Identifier.ofRaw block.name) = true := by
  apply sound.usable
  rw [typeNames_unchecked]
  exact List.mem_append_right _ (List.mem_map_of_mem member)

end Catalog

/-! ## Lists related one by one -/

section Related

variable {Item Other Result : Type} {related : Item → Other → Prop} {items : List Item}
  {others : List Other}

theorem exists_related_of_mem (all : List.Forall₂ related items others) {other : Other}
    (member : other ∈ others) : ∃ item ∈ items, related item other := by
  induction all with
  | nil => simp at member
  | @cons item head _ _ isRelated _ restExists =>
    rcases List.mem_cons.mp member with rfl | inRest
    · exact ⟨item, List.mem_cons_self, isRelated⟩
    · obtain ⟨found, isItem, foundRelated⟩ := restExists inRest
      exact ⟨found, List.mem_cons_of_mem _ isItem, foundRelated⟩

theorem map_eq_map_of_forall₂ {change : Item → Result} {otherChange : Other → Result}
    (all : List.Forall₂ related items others)
    (same : ∀ item other, related item other → change item = otherChange other) :
    items.map change = others.map otherChange := by
  induction all with
  | nil => rfl
  | cons isRelated _ restSame => rw [List.map_cons, List.map_cons, same _ _ isRelated, restSame]

end Related

theorem forall₂_filterMap {Item Found : Type} (related : Item → Found → Prop)
    (find : Item → Option Found) (items : List Item)
    (all : ∀ item ∈ items, ∃ found, find item = some found ∧ related item found) :
    List.Forall₂ related items (items.filterMap find) := by
  induction items with
  | nil => exact List.Forall₂.nil
  | cons item rest restAll =>
    obtain ⟨⟨found, isFound, isRelated⟩, laterAll⟩ := List.forall_mem_cons.mp all
    rw [List.filterMap_cons_some isFound]
    exact List.Forall₂.cons isRelated (restAll laterAll)

/-! ## Rows -/

theorem StateFit.row_eq {block : Block} {state : State} (stateFit : StateFit block state) :
    BlockType.row block state = ⟨state.id, combination block state⟩ := by
  have values : (block.properties.keys.map fun name => (state.assignment.get? name).getD "") =
      combination block state := by
    have lookups := congrArg (List.map fun found : Option String => found.getD "")
      stateFit.map_some_combination
    simpa [List.map_map, Function.comp_def] using lookups.symm
  rw [BlockType.row, values]

theorem StateFit.values_row {block : Block} {state : State} (stateFit : StateFit block state) :
    (BlockType.row block state).values = combination block state := by
  rw [stateFit.row_eq]

/-- The fields of a block and the values of a state go together one by one. -/
theorem StateFit.forall₂_combination {block : Block} {state : State}
    (stateFit : StateFit block state) (types : OrderedMap String PropertyType)
    (related : PropertyType → String → Prop)
    (all : ∀ property declared, (property, declared) ∈ block.properties.entries →
      ∀ value ∈ declared, related (BlockType.field types property declared) value) :
    List.Forall₂ related (BlockType.ofBlock types block).fields (combination block state) := by
  have combined : combination block state =
      block.properties.entries.filterMap fun entry => state.assignment.get? entry.1 := by
    rw [combination, OrderedMap.keys, List.filterMap_map]
    rfl
  rw [combined]
  simp only [BlockType.ofBlock, List.forall₂_map_left_iff]
  apply forall₂_filterMap
  rintro ⟨property, declared⟩ entry
  obtain ⟨value, isDeclared, assigned⟩ := stateFit.assigns _ entry
  exact ⟨value, assigned, all property declared entry value isDeclared⟩

/-! ## Declarations of blocks -/

def Block.matching (types : OrderedMap String PropertyType) (block : Block) : BlockDeclaration :=
  .matching block.name (Identifier.ofRaw block.name)
    ((BlockType.ofBlock types block).fields.map PropertyType.typeName)
    (BlockType.ofBlock types block).scrutinee
    ((BlockType.ofBlock types block).rows.map (BlockType.ofBlock types block).arm)

namespace BlockType

variable (types : OrderedMap String PropertyType) {block : Block}

theorem isEmpty_fields : (ofBlock types block).fields.isEmpty = block.isSimple :=
  List.isEmpty_map

theorem fields_eq_nil_iff : (ofBlock types block).fields = [] ↔ block.isSimple = true := by
  rw [← isEmpty_fields types, List.isEmpty_iff]

theorem fields_ne_nil (composed : block.isSimple = false) : (ofBlock types block).fields ≠ [] := by
  rw [Ne, fields_eq_nil_iff, composed]
  exact Bool.false_ne_true

theorem shape_eq_simple_iff : (ofBlock types block).shape = .simple ↔ block.isSimple = true := by
  rw [← fields_eq_nil_iff types]
  have shapeOf : (ofBlock types block).shape = .ofFields (ofBlock types block).fields := rfl
  rw [shapeOf]
  match (ofBlock types block).fields with
  | [] => simp [BlockShape.ofFields]
  | [field] => cases kind : field.kind <;> simp [BlockShape.ofFields, kind]
  | _ :: _ :: _ => simp [BlockShape.ofFields]

/-- A block without properties is declared by its first state. -/
theorem declaration?_of_simple (simple : block.isSimple = true) {first : State}
    {rest : List State} (states : block.states = first :: rest) :
    (ofBlock types block).declaration? =
      some (.fixed block.name (Identifier.ofRaw block.name) first.id block.name) := by
  have noValues : (row block first).values = [] := by
    have noKeys := block.isSimple_iff.mp simple
    simp [row, noKeys]
  have rows : (ofBlock types block).rows = row block first :: rest.map (row block) := by
    simp [ofBlock, states]
  have isName : (ofBlock types block).stateName (row block first) = block.name := by
    rw [stateName, noValues]
    rfl
  rw [declaration?, (shape_eq_simple_iff types).mpr simple, rows, List.head?_cons,
    Option.map_some, isName]
  rfl

/-- A block with properties is declared with an arm for every state. -/
theorem declaration?_of_composed (composed : block.isSimple = false) :
    (ofBlock types block).declaration? = some (block.matching types) := by
  have notSimple : (ofBlock types block).shape ≠ .simple := by
    rw [Ne, shape_eq_simple_iff, composed]
    exact Bool.false_ne_true
  rw [declaration?]
  cases shape : (ofBlock types block).shape with
  | simple => exact absurd shape notSimple
  | tuple => rfl
  | numeric => rfl
  | composite => rfl

end BlockType

/-- The two ways in which a fit block is declared. -/
theorem BlockFit.declaration?_cases {block : Block} (blockFit : BlockFit block)
    (types : OrderedMap String PropertyType) :
    (block.isSimple = true ∧ ∃ first rest, block.states = first :: rest ∧
      (BlockType.ofBlock types block).declaration? =
        some (.fixed block.name (Identifier.ofRaw block.name) first.id block.name)) ∨
    (block.isSimple = false ∧
      (BlockType.ofBlock types block).declaration? = some (block.matching types)) := by
  cases simple : block.isSimple with
  | true =>
    obtain ⟨first, rest, states⟩ := List.exists_cons_of_ne_nil blockFit.nonempty
    exact Or.inl ⟨rfl, first, rest, states, BlockType.declaration?_of_simple types simple states⟩
  | false => exact Or.inr ⟨rfl, BlockType.declaration?_of_composed types simple⟩

end BlockStates
