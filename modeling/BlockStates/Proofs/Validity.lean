import BlockStates.Proofs.Fitness

/-!
# Valid catalogs

What a catalog promises to the generator, stated without the checks: no scan, no
table of names, no order.  `check_succeeds_iff_valid` says that the checks decide
exactly this, for any catalog and any properties, also where the properties are
not those of the catalog.
-/

set_option autoImplicit false

namespace BlockStates

/-- A property is symbolic unless its first value starts with a digit. -/
def IsSymbolic (values : List String) : Prop :=
  ∀ first rest, values = first :: rest → ValueKind.of first = .symbolic

/-- Two states assign the same when every property has the same value in both,
whatever the order in which they list them. -/
def State.AssignsLike (first second : State) : Prop :=
  ∀ property, first.assignment.get? property = second.assignment.get? property

/-- A block whose states are told apart by values that the block declares. -/
structure Block.Valid (block : Block) : Prop where
  hasState : block.states ≠ []
  assignsDeclared : ∀ state ∈ block.states, ∀ property,
    property ∈ state.assignment.keys ↔ property ∈ block.properties.keys
  usesDeclared : ∀ state ∈ block.states, ∀ property value,
    state.assignment.get? property = some value →
      ∃ values, block.properties.get? property = some values ∧ value ∈ values
  statesDiffer : block.properties.keys ≠ [] →
    block.states.Pairwise fun first second => ¬ first.AssignsLike second

structure Catalog.Valid (catalog : Catalog) (properties : Properties) : Prop where
  /-- Every property has values, all of one kind. -/
  kinds : ∀ property values, properties.get? property = some values →
    values ≠ [] ∧ ∀ first ∈ values, ∀ second ∈ values, ValueKind.of first = ValueKind.of second
  /-- The values of a numeric property are different numbers of one byte. -/
  numbers : ∀ property values, properties.get? property = some values → ¬ IsSymbolic values →
    (∀ value ∈ values, IsByteNumber value) ∧
      (values.map fun value => decimalValue value.toList).Nodup
  blocks : ∀ block ∈ catalog.blocks.values, block.Valid
  /-- Names of properties and keys of blocks become different type names. -/
  types : (∀ raw ∈ properties.keys ++ catalog.blocks.keys,
      Identifier.isUsable (Identifier.ofRaw raw) = true ∧
        Identifier.ofRaw raw ≠ "BlockProperty" ∧ Identifier.ofRaw raw ≠ "BlockState") ∧
    ((properties.keys ++ catalog.blocks.keys).map Identifier.ofRaw).Nodup
  /-- The values of a symbolic property become different variant names. -/
  variants : ∀ property values, properties.get? property = some values → IsSymbolic values →
    (∀ value ∈ values, Identifier.isUsable (Identifier.ofRaw value) = true) ∧
      (values.map Identifier.ofRaw).Nodup

/-! ## The same in the terms of the checks -/

theorem isSymbolic_iff_kind (values : List String) :
    IsSymbolic values ↔ ValueKind.ofValues values = .symbolic := by
  cases values with
  | nil => simp [IsSymbolic, ValueKind.ofValues]
  | cons first rest => simp [IsSymbolic, ValueKind.ofValues]

theorem not_isSymbolic_iff_kind (values : List String) :
    ¬ IsSymbolic values ↔ ValueKind.ofValues values = .numeric := by
  rw [isSymbolic_iff_kind]
  cases ValueKind.ofValues values <;> simp

/-- All values are of one kind exactly when all are of the kind of the first. -/
theorem oneKind_iff_kind_of_first (values : List String) :
    (∀ first ∈ values, ∀ second ∈ values, ValueKind.of first = ValueKind.of second) ↔
      ∀ value ∈ values, ValueKind.of value = ValueKind.ofValues values := by
  cases values with
  | nil => simp
  | cons head rest =>
    constructor
    · intro oneKind value member
      exact oneKind value member head List.mem_cons_self
    · intro likeFirst first firstMember second secondMember
      rw [likeFirst first firstMember, likeFirst second secondMember]

theorem valuesFit_iff (values : List String) :
    ValuesFit values ↔
      (values ≠ [] ∧
        ∀ first ∈ values, ∀ second ∈ values, ValueKind.of first = ValueKind.of second) ∧
      (¬ IsSymbolic values → (∀ value ∈ values, IsByteNumber value) ∧
        (values.map fun value => decimalValue value.toList).Nodup) := by
  simp only [oneKind_iff_kind_of_first, not_isSymbolic_iff_kind,
    isByteNumber_iff_numericValue?_isSome]
  constructor
  · intro valuesFit
    exact ⟨⟨valuesFit.nonempty, valuesFit.oneKind⟩, valuesFit.numbers⟩
  · rintro ⟨⟨nonempty, oneKind⟩, numbers⟩
    exact ⟨nonempty, oneKind, numbers⟩

theorem blockFit_iff_valid (block : Block) : BlockFit block ↔ block.Valid := by
  have distinctIff (statesFit : ∀ state ∈ block.states, StateFit block state) :
      (block.states.map (combination block)).Nodup ↔
        block.states.Pairwise fun first second => ¬ first.AssignsLike second := by
    rw [List.Nodup, List.pairwise_map]
    apply List.Pairwise.iff_of_mem
    intro first second firstMember secondMember
    exact not_congr
      ((statesFit first firstMember).combination_eq_iff (statesFit second secondMember))
  constructor
  · intro blockFit
    refine ⟨blockFit.nonempty, ?_, ?_, ?_⟩
    · intro state member property
      have stateFit := blockFit.states state member
      refine ⟨stateFit.onlyDeclared property, ?_⟩
      intro declared
      exact (OrderedMap.mem_keys_iff _ property).mpr (stateFit.get?_of_declared declared)
    · intro state member property value assigned
      have stateFit := blockFit.states state member
      have declared := stateFit.onlyDeclared property
        ((OrderedMap.mem_keys_iff _ property).mpr ⟨value, assigned⟩)
      obtain ⟨values, found⟩ := (OrderedMap.mem_keys_iff _ property).mp declared
      obtain ⟨used, usedMember, usedAssigned⟩ :=
        stateFit.assigns (property, values) ((OrderedMap.get?_eq_some_iff _ _ _).mp found)
      obtain rfl : used = value := Option.some.inj (usedAssigned.symm.trans assigned)
      exact ⟨values, found, usedMember⟩
    · intro composed
      exact (distinctIff blockFit.states).mp
        (blockFit.distinct (block.isSimple_eq_false_iff.mpr composed))
  · intro valid
    have statesFit : ∀ state ∈ block.states, StateFit block state := by
      intro state member
      refine ⟨?_, fun property => (valid.assignsDeclared state member property).mp⟩
      rintro ⟨property, values⟩ entry
      have assignedKey := (valid.assignsDeclared state member property).mpr
        (OrderedMap.mem_keys_of_mem_entries _ entry)
      obtain ⟨value, assigned⟩ := (OrderedMap.mem_keys_iff _ property).mp assignedKey
      obtain ⟨declaredValues, found, isDeclared⟩ :=
        valid.usesDeclared state member property value assigned
      have sameValues : declaredValues = values := Option.some.inj
        (found.symm.trans ((OrderedMap.get?_eq_some_iff _ _ _).mpr entry))
      exact ⟨value, sameValues ▸ isDeclared, assigned⟩
    refine ⟨valid.hasState, statesFit, ?_⟩
    intro composed
    exact (distinctIff statesFit).mpr
      (valid.statesDiffer (block.isSimple_eq_false_iff.mp composed))

theorem namesFit_iff (catalog : Catalog) (properties : Properties) :
    NamesFit catalog properties ↔
      (∀ entry ∈ properties.entries, VariantsFit entry.2) ∧
      (∀ raw ∈ properties.keys ++ catalog.blocks.keys,
        Identifier.isUsable (Identifier.ofRaw raw) = true ∧
          Identifier.ofRaw raw ≠ "BlockProperty" ∧ Identifier.ofRaw raw ≠ "BlockState") ∧
      ((properties.keys ++ catalog.blocks.keys).map Identifier.ofRaw).Nodup := by
  have distinctIff (names : List String) :
      (importedNames ++ names).Nodup ↔
        names.Nodup ∧ ∀ name ∈ names, name ≠ "BlockProperty" ∧ name ≠ "BlockState" := by
    simp only [importedNames, List.cons_append, List.nil_append, List.nodup_cons,
      List.mem_cons, not_or]
    constructor
    · rintro ⟨⟨-, noProperty⟩, noState, distinct⟩
      exact ⟨distinct, fun name member =>
        ⟨fun same => noProperty (same ▸ member), fun same => noState (same ▸ member)⟩⟩
    · rintro ⟨distinct, free⟩
      exact ⟨⟨by decide, fun member => (free _ member).1 rfl⟩,
        fun member => (free _ member).2 rfl, distinct⟩
  constructor
  · intro namesFit
    obtain ⟨distinct, free⟩ := (distinctIff _).mp namesFit.distinct
    refine ⟨namesFit.variants, ?_, distinct⟩
    intro raw member
    exact ⟨namesFit.usable raw member, free _ (List.mem_map_of_mem member)⟩
  · rintro ⟨variants, names, distinct⟩
    refine ⟨variants, fun raw member => (names raw member).1, (distinctIff _).mpr ⟨distinct, ?_⟩⟩
    intro name member
    obtain ⟨raw, rawMember, rfl⟩ := List.mem_map.mp member
    exact (names raw rawMember).2

/-- The check of a catalog succeeds exactly for valid catalogs. -/
theorem check_succeeds_iff_valid (catalog : Catalog) (properties : Properties) :
    catalog.check properties = .ok () ↔ catalog.Valid properties := by
  have entriesIff (Fits : List String → Prop) :
      (∀ entry ∈ properties.entries, Fits entry.2) ↔
        ∀ property values, properties.get? property = some values → Fits values := by
    simp only [OrderedMap.get?_eq_some_iff, Prod.forall]
  rw [Catalog.check_eq_ok_iff]
  constructor
  · intro catalogFit
    obtain ⟨variants, names, distinct⟩ := (namesFit_iff catalog properties).mp catalogFit.names
    have values := (entriesIff _).mp catalogFit.values
    refine ⟨?_, ?_, ?_, ⟨names, distinct⟩, ?_⟩
    · intro property propertyValues found
      exact ((valuesFit_iff _).mp (values property propertyValues found)).1
    · intro property propertyValues found
      exact ((valuesFit_iff _).mp (values property propertyValues found)).2
    · intro block member
      exact (blockFit_iff_valid block).mp (catalogFit.blocks block member)
    · intro property propertyValues found isSymbolic
      exact (entriesIff _).mp variants property propertyValues found
        ((isSymbolic_iff_kind _).mp isSymbolic)
  · intro valid
    refine ⟨(entriesIff _).mpr ?_, ?_, (namesFit_iff _ _).mpr ⟨(entriesIff _).mpr ?_, valid.types⟩⟩
    · intro property propertyValues found
      exact (valuesFit_iff _).mpr
        ⟨valid.kinds property propertyValues found, valid.numbers property propertyValues found⟩
    · intro block member
      exact (blockFit_iff_valid block).mpr (valid.blocks block member)
    · intro property propertyValues found isSymbolic
      exact valid.variants property propertyValues found
        ((isSymbolic_iff_kind _).mpr isSymbolic)

end BlockStates
