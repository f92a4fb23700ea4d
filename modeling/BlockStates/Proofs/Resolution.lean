import BlockStates.Proofs.GeneratedUnit

/-!
# Layouts keep all that a catalog says

Laying out a catalog replaces assignments by rows in the order of the declared
properties.  Two defaults stand in for what could be missing there: a type made
from the declared values, and an empty text.  `resolution_lossless` says that an
accepted catalog needs neither, and that its rows still hold every assignment.
-/

set_option autoImplicit false

namespace BlockStates

/-! ## What it means to lose nothing -/

structure Row.Holds (row : Row) (fields : List PropertyType) (state : State) : Prop where
  id : row.id = state.id
  /-- Every value is one that the state assigns; none is made up. -/
  values : List.Forall₂ (fun field value => state.assignment.get? field.name = some value)
    fields row.values
  /-- The names of the fields with their values are all that the state assigns. -/
  assignment : ((fields.map PropertyType.name).zip row.values).Perm state.assignment.entries

/-- A type stands for a block: its fields are the layout's own types of the
declared properties, and its rows are the states. -/
structure BlockType.StandsFor (layout : Layout) (block : Block) (type : BlockType) : Prop where
  name : type.name = block.name
  fieldNames : type.fields.map PropertyType.name = block.properties.keys
  fields : ∀ field ∈ type.fields, layout.property? field.name = some field
  rows : List.Forall₂ (fun state row => row.Holds type.fields state) block.states type.rows

/-! ## Rows -/

/-- Declared properties paired with a fit state's values are its assignment, in
declared order. -/
theorem StateFit.zip_perm_entries {block : Block} {state : State}
    (stateFit : StateFit block state) :
    (block.properties.keys.zip (BlockType.row block state).values).Perm
      state.assignment.entries := by
  have pairs : block.properties.keys.zip (BlockType.row block state).values =
      block.properties.keys.map fun name => (name, (state.assignment.get? name).getD "") :=
    List.map_prod_left_eq_zip.symm
  rw [pairs]
  have pairsDistinct : (block.properties.keys.map fun name =>
      (name, (state.assignment.get? name).getD "")).Nodup :=
    List.Nodup.of_map Prod.fst (by simpa [Function.comp_def] using block.properties.nodup_keys)
  rw [List.perm_ext_iff_of_nodup pairsDistinct (List.Nodup.of_map _ state.assignment.keysDistinct)]
  rintro ⟨name, value⟩
  rw [← OrderedMap.get?_eq_some_iff, List.mem_map]
  constructor
  · rintro ⟨declared, isDeclared, pair⟩
    obtain ⟨rfl, rfl⟩ := Prod.mk.inj pair
    obtain ⟨assigned, isAssigned⟩ := stateFit.get?_of_declared isDeclared
    rw [isAssigned, Option.getD_some]
  · intro isAssigned
    have isDeclared := stateFit.onlyDeclared name
      ((OrderedMap.mem_keys_iff _ name).mpr ⟨value, isAssigned⟩)
    exact ⟨name, isDeclared, by rw [isAssigned, Option.getD_some]⟩

/-! ## Blocks -/

namespace Catalog.Accepted

variable {catalog : Catalog}

/-- A field of a block is the type that the layout has for its property. -/
theorem field_eq_some (accepted : catalog.Accepted) {block : Block}
    (member : block ∈ catalog.blocks.values) {name : String} {declared : List String}
    (isDeclared : (name, declared) ∈ block.properties.entries) :
    (BlockType.field catalog.propertyTypes name declared).name = name ∧
      catalog.propertyTypes.get? name =
        some (BlockType.field catalog.propertyTypes name declared) := by
  obtain ⟨values, found, isField, -, -⟩ := accepted.exists_field member isDeclared
  rw [isField, get?_propertyTypes, found]
  exact ⟨rfl, rfl⟩

theorem fieldNames_eq (accepted : catalog.Accepted) {block : Block}
    (member : block ∈ catalog.blocks.values) :
    (BlockType.ofBlock catalog.propertyTypes block).fields.map PropertyType.name =
      block.properties.keys := by
  rw [BlockType.ofBlock, OrderedMap.keys, List.map_map]
  apply List.map_congr_left
  rintro ⟨name, declared⟩ entry
  exact (accepted.field_eq_some member entry).1

theorem row_holds (accepted : catalog.Accepted) {block : Block}
    (member : block ∈ catalog.blocks.values) {state : State} (isState : state ∈ block.states) :
    (BlockType.row block state).Holds (BlockType.ofBlock catalog.propertyTypes block).fields
      state where
  id := rfl
  values := by
    have stateFit := (accepted.blocks block member).states state isState
    have values : (BlockType.row block state).values.map some =
        block.properties.keys.map state.assignment.get? := by
      rw [stateFit.row_eq, stateFit.map_some_combination]
    rw [← accepted.fieldNames_eq member, List.map_map, ← List.forall₂_eq_eq_eq,
      List.forall₂_map_left_iff, List.forall₂_map_right_iff] at values
    exact values.flip.imp fun _ _ same => same.symm
  assignment := by
    rw [accepted.fieldNames_eq member]
    exact ((accepted.blocks block member).states state isState).zip_perm_entries

/-- The type of a block stands for the block. -/
theorem standsFor (accepted : catalog.Accepted) {block : Block}
    (member : block ∈ catalog.blocks.values) :
    BlockType.StandsFor (Layout.unchecked catalog catalog.propertyUnion) block
      (BlockType.ofBlock catalog.propertyTypes block) where
  name := rfl
  fieldNames := accepted.fieldNames_eq member
  fields := by
    intro field isField
    obtain ⟨⟨name, declared⟩, entry, rfl⟩ := List.mem_map.mp isField
    obtain ⟨isName, found⟩ := accepted.field_eq_some member entry
    rw [isName]
    exact found
  rows := by
    rw [BlockType.ofBlock, List.forall₂_map_right_iff, List.forall₂_same]
    exact fun state isState => accepted.row_holds member isState

end Catalog.Accepted

/-! ## Layouts -/

theorem Layout.stateCount_unchecked (catalog : Catalog) (properties : Properties) :
    (unchecked catalog properties).stateCount = catalog.stateCount := by
  rw [stateCount, unchecked, Catalog.stateCount, List.foldr_map]
  simp only [BlockType.ofBlock, List.length_map]

/-- A name leads to the block and to its type at one and the same place. -/
theorem Catalog.KeyedByName.block?_rel {catalog : Catalog} (keyed : catalog.KeyedByName)
    (name : String) :
    Option.Rel (fun block type => (block, type) ∈ catalog.blocks.values.zip
        (Layout.unchecked catalog catalog.propertyUnion).blocks)
      (catalog.get? name) ((Layout.unchecked catalog catalog.propertyUnion).block? name) := by
  rw [keyed.block?_unchecked]
  cases found : catalog.get? name with
  | none => exact Option.Rel.none
  | some block =>
    apply Option.Rel.some
    have member := catalog.blocks.mem_values_of_get? found
    have pairs : catalog.blocks.values.zip
        (Layout.unchecked catalog catalog.propertyUnion).blocks =
          catalog.blocks.values.map fun block =>
            (block, BlockType.ofBlock catalog.propertyTypes block) :=
      List.map_prod_left_eq_zip.symm
    rw [pairs]
    exact List.mem_map_of_mem member

/-- The layout of an accepted catalog has the catalog's blocks, fields and states
in their order, with all that they assign and nothing else, and finds the same
blocks by name. -/
theorem resolution_lossless (catalog : Catalog) (layout : Layout)
    (keyed : catalog.KeyedByName) (accepted : Layout.ofCatalog catalog = .ok layout) :
    List.Forall₂ (BlockType.StandsFor layout) catalog.blocks.values layout.blocks ∧
      layout.stateCount = catalog.stateCount ∧
      ∀ name, Option.Rel
        (fun block type => (block, type) ∈ catalog.blocks.values.zip layout.blocks)
        (catalog.get? name) (layout.block? name) := by
  obtain ⟨isAccepted, rfl⟩ := (Layout.ofCatalog_eq_ok_iff catalog layout).mp accepted
  refine ⟨?_, Layout.stateCount_unchecked _ _, keyed.block?_rel⟩
  rw [Layout.unchecked, List.forall₂_map_right_iff, List.forall₂_same]
  exact fun block member => isAccepted.standsFor member

/-- In the sample, the cake's row gives back what its only state assigns, though
the state lists it the other way round. -/
theorem resolution_lossless_of_sampleCatalog :
    ∃ layout cake row, Layout.ofCatalog sampleCatalog = .ok layout ∧
      layout.block? "cake" = some cake ∧ cake.rows = [row] ∧ layout.stateCount = 3 ∧
      ((cake.fields.map PropertyType.name).zip row.values).Perm
        [("lit", "off"), ("layers", "1")] := by
  have keyed := Catalog.keyedByName_of_read read_sampleText
  obtain ⟨blocks, count, names⟩ :=
    resolution_lossless sampleCatalog _ keyed ofCatalog_sampleCatalog
  have isCake : sampleCatalog.get? "cake" = some sampleCake := by decide +kernel
  have found := names "cake"
  rw [isCake] at found
  cases isType : (Layout.unchecked sampleCatalog sampleCatalog.propertyUnion).block? "cake" with
  | none =>
    rw [isType] at found
    cases found
  | some cake =>
    rw [isType] at found
    obtain ⟨pair⟩ := found
    have standsFor := (List.forall₂_iff_zip.mp blocks).2 pair
    obtain ⟨row, _, holds, noMore, rows⟩ := List.forall₂_cons_left_iff.mp standsFor.rows
    obtain rfl := List.forall₂_nil_left_iff.mp noMore
    refine ⟨_, cake, row, ofCatalog_sampleCatalog, isType, rows, ?_, ?_⟩
    · exact count.trans (by decide +kernel)
    · exact holds.assignment.trans (List.Perm.of_eq (by decide +kernel))

end BlockStates
