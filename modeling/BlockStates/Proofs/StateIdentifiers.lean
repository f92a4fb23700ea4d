import BlockStates.Proofs.AssignmentOrder
import BlockStates.Proofs.EmissionLocality
import BlockStates.Proofs.TableAgreement

/-!
# Identifiers of states

A host program keeps a state by its identifier, so two states of a block should
not share one.  The check does not see to that: it never looks at identifiers.
What holds is that the look-ups neither merge nor part identifiers:
`ids_injective_iff_distinct` says that the identifiers of the listed values are
different exactly if those of the states are.
-/

set_option autoImplicit false

namespace BlockStates

open Code

structure Block.Lists (block : Block) (IsValue : List Field → Prop) (fields : List Field) :
    Prop where
  isValue : IsValue fields
  listed : ∃ state ∈ block.states, state.Denotes block fields

def Implementation.IdentifiesValues (implementation : Implementation)
    (IsValue : List Field → Prop) (block : Block) : Prop :=
  ∀ fields others, block.Lists IsValue fields → block.Lists IsValue others →
    implementation.id fields = implementation.id others → fields = others

/-- The identifiers of the listed values of a block are those of its states. -/
structure Implementation.KeepsIdentifiers (implementation : Implementation)
    (IsValue : List Field → Prop) (block : Block) : Prop where
  answers : ∀ fields, block.Lists IsValue fields →
    ∃ state ∈ block.states, state.Denotes block fields ∧ implementation.id fields = .ok state.id
  injective_iff : implementation.IdentifiesValues IsValue block ↔
    (block.states.map State.id).Nodup

/-! ## One raw value, one value -/

theorem PropertyType.value_unique {property : PropertyType} {first second : Field} {raw : String}
    (firstValue : property.HasValue first) (secondValue : property.HasValue second)
    (byFirst : first.DenotedBy raw) (bySecond : second.DenotedBy raw) : first = second := by
  cases firstValue with
  | number value numeric =>
    cases secondValue with
    | number other _ =>
      have same : value = other := UInt8.toNat_inj.mp (byFirst.2.symm.trans bySecond.2)
      rw [same]
    | variant name symbolic => simp [numeric] at symbolic
  | variant name symbolic =>
    cases secondValue with
    | number other numeric => simp [symbolic] at numeric
    | variant other _ =>
      have same : name = other := Eq.trans (Eq.symm byFirst) bySecond
      rw [same]

/-- Raw values denote one list of values at most. -/
theorem fields_unique {properties : List PropertyType} {raws : List String}
    {fields others : List Field} (valued : List.Forall₂ PropertyType.HasValue properties fields)
    (otherValued : List.Forall₂ PropertyType.HasValue properties others)
    (denoted : List.Forall₂ Field.DenotedBy fields raws)
    (otherDenoted : List.Forall₂ Field.DenotedBy others raws) : fields = others := by
  induction valued generalizing raws others with
  | nil =>
    cases otherValued
    rfl
  | cons isValue _ restUnique =>
    cases otherValued with
    | cons otherIsValue otherRestValued =>
      cases denoted with
      | cons isDenoted restDenoted =>
        obtain ⟨otherIsDenoted, otherRestDenoted⟩ := List.forall₂_cons.mp otherDenoted
        rw [PropertyType.value_unique isValue otherIsValue isDenoted otherIsDenoted,
          restUnique otherRestValued restDenoted otherRestDenoted]

/-! ## Listed values and their states -/

namespace Catalog.Accepted

variable {catalog : Catalog} {block : Block}

/-- Every state stands for some value of its block's fields. -/
theorem exists_value (accepted : catalog.Accepted) (member : block ∈ catalog.blocks.values)
    {state : State} (isState : state ∈ block.states) :
    ∃ fields, List.Forall₂ PropertyType.HasValue
      (BlockType.ofBlock catalog.propertyTypes block).fields fields ∧
      state.Denotes block fields := by
  have stateFit := (accepted.blocks block member).states state isState
  have offers : List.Forall₂ (PropertyType.Offers (catalog.unit .standard)) _ _ :=
    accepted.forall₂_combination member isState
  obtain ⟨valued, denoted⟩ := forall₂_fields offers
  exact ⟨_, valued, (stateFit.denotes_iff _).mpr denoted⟩

/-- Two states that one value stands for are one state. -/
theorem state_unique (accepted : catalog.Accepted) (member : block ∈ catalog.blocks.values)
    (composed : block.isSimple = false) {fields : List Field}
    (valued : List.Forall₂ PropertyType.HasValue
      (BlockType.ofBlock catalog.propertyTypes block).fields fields)
    {state other : State} (isState : state ∈ block.states) (isOther : other ∈ block.states)
    (denotes : state.Denotes block fields) (otherDenotes : other.Denotes block fields) :
    state = other := by
  have distinct := (accepted.blocks block member).distinct composed
  exact List.inj_on_of_nodup_map distinct isState isOther
    (accepted.combination_unique member valued state isState other isOther denotes otherDenotes)

/-- Look-ups that are exact keep identifiers, for any values among which every state
has one. -/
theorem keepsIdentifiers (accepted : catalog.Accepted) (member : block ∈ catalog.blocks.values)
    (someKey : block.properties.keys ≠ []) {implementation : Implementation}
    {IsValue : List Field → Prop} (exact : implementation.ExactFor IsValue block)
    (valued : ∀ fields, IsValue fields → List.Forall₂ PropertyType.HasValue
      (BlockType.ofBlock catalog.propertyTypes block).fields fields)
    (everyState : ∀ state ∈ block.states, ∃ fields, IsValue fields ∧ state.Denotes block fields) :
    implementation.KeepsIdentifiers IsValue block where
  answers := by
    rintro fields ⟨isValue, state, isState, denotes⟩
    exact ⟨state, isState, denotes,
      (exact.listed someKey fields isValue state isState denotes).2.1⟩
  injective_iff := by
    have composed : block.isSimple = false := block.isSimple_eq_false_iff.mpr someKey
    have distinct := List.Nodup.of_map _ ((accepted.blocks block member).distinct composed)
    have idOf {fields : List Field} (isValue : IsValue fields) {state : State}
        (isState : state ∈ block.states) (denotes : state.Denotes block fields) :
        implementation.id fields = .ok state.id :=
      (exact.listed someKey fields isValue state isState denotes).2.1
    rw [List.nodup_map_iff_inj_on distinct]
    constructor
    · intro identifies first isFirst second isSecond sameId
      obtain ⟨fields, isValue, denotes⟩ := everyState first isFirst
      obtain ⟨others, otherIsValue, otherDenotes⟩ := everyState second isSecond
      have sameValue : fields = others :=
        identifies fields others ⟨isValue, first, isFirst, denotes⟩
          ⟨otherIsValue, second, isSecond, otherDenotes⟩
          (by rw [idOf isValue isFirst denotes, idOf otherIsValue isSecond otherDenotes, sameId])
      rw [sameValue] at denotes
      exact accepted.state_unique member composed (valued others otherIsValue) isFirst isSecond
        denotes otherDenotes
    · rintro injective fields others ⟨isValue, first, isFirst, denotes⟩
        ⟨otherIsValue, second, isSecond, otherDenotes⟩ sameAnswer
      rw [idOf isValue isFirst denotes, idOf otherIsValue isSecond otherDenotes] at sameAnswer
      obtain rfl : first = second :=
        injective first isFirst second isSecond (Except.ok.inj sameAnswer)
      have stateFit := (accepted.blocks block member).states first isFirst
      exact fields_unique (valued fields isValue) (valued others otherIsValue)
        ((stateFit.denotes_iff fields).mp denotes)
        ((stateFit.denotes_iff others).mp otherDenotes)

end Catalog.Accepted

namespace Catalog.Accepted

variable {catalog : Catalog} {options : Options} {block : Block}

/-- In the code of a unit, too, every state stands for some value. -/
theorem exists_state (accepted : catalog.Accepted) (member : block ∈ catalog.blocks.values)
    (someKey : block.properties.keys ≠ []) {declaration : BlockDeclaration}
    (declared : (BlockType.ofBlock catalog.propertyTypes block).declaration? = some declaration)
    {state : State} (isState : state ∈ block.states) :
    ∃ fields, (catalog.unit options).content.HasState declaration.typeName fields ∧
      state.Denotes block fields := by
  have isTellable : state ∈ block.tellableStates := by
    rw [Block.tellableStates, if_neg someKey]
    exact isState
  have agrees := accepted.agreesWith_declaration member declared isTellable
  have resolves : ((BlockType.ofBlock catalog.propertyTypes block).stateExpr
      (BlockType.row block state)).Resolves (catalog.unit options) :=
    accepted.stateExpr_resolves member isState
  have hasState := resolves.resolvesIn.hasState
  rw [← declaration.typeName_implementation, ← agrees.typeName]
  exact ⟨_, hasState, agrees.denotes⟩

end Catalog.Accepted

/-- In an accepted catalog the look-ups that are declared for a block with properties
keep the identifiers of its states, and tell the values apart exactly if no two
states share one; if the types have sound names, so do the look-ups that a reader
finds in the unit.  What the identifiers are is not checked: with any others the
catalog is accepted as well. -/
theorem ids_injective_iff_distinct (catalog : Catalog) (layout : Layout) (options : Options)
    (laidOut : Layout.ofCatalog catalog = .ok layout) :
    List.Forall₂ (fun block type => block.properties.keys ≠ [] →
        ∃ declaration, type.declaration? = some declaration ∧
          declaration.implementation.KeepsIdentifiers
            (List.Forall₂ PropertyType.HasValue type.fields) block)
      catalog.blocks.values layout.blocks ∧
    (layout.TypeNamesSound → ∃ code, Code.ReadIn options (layout.generate options).value code ∧
      List.Forall₂ (fun block implementation => block.properties.keys ≠ [] →
          implementation.KeepsIdentifiers (code.HasState implementation.typeName) block)
        catalog.blocks.values code.implementations) ∧
    ∀ renumbered, catalog.AlikeUpTo (fun state other => state.assignment = other.assignment)
      renumbered → ∃ otherLayout, Layout.ofCatalog renumbered = .ok otherLayout := by
  obtain ⟨accepted, rfl⟩ := (Layout.ofCatalog_eq_ok_iff catalog layout).mp laidOut
  refine ⟨?_, ?_, ?_⟩
  · rw [Layout.unchecked, List.forall₂_map_right_iff, List.forall₂_same]
    intro block member someKey
    obtain ⟨declaration, declared⟩ := accepted.exists_declaration member
    exact ⟨declaration, declared, accepted.keepsIdentifiers member someKey
      (accepted.exactFor_declaration member declared) (fun _ valued => valued)
      fun _ isState => accepted.exists_value member isState⟩
  · intro sound
    refine ⟨(catalog.unit options).content, accepted.readIn_unit sound, ?_⟩
    apply accepted.forall₂_implementations
    intro block member declaration declared someKey
    have valued (fields : List Field)
        (hasState : (catalog.unit options).content.HasState declaration.typeName fields) :=
      accepted.forall₂_hasValue_of_hasState sound member declared hasState
    rw [declaration.typeName_implementation]
    exact accepted.keepsIdentifiers member someKey
      ((accepted.exactFor_declaration member declared).imp valued) valued
      fun _ isState => accepted.exists_state member someKey declared isState
  · intro renumbered alike
    have assignsAlike : catalog.AlikeUpTo State.AssignsLike renumbered :=
      alike.imp fun _ _ same property => congrArg (fun map => map.get? property) same
    exact ⟨_, (Layout.ofCatalog_eq_ok_iff _ _).mpr ⟨assignsAlike.accepted accepted, rfl⟩⟩

def sharedLever : Block :=
  { sampleLever with
    states := [⟨10, .ofList [("facing", "north")]⟩, ⟨10, .ofList [("facing", "south")]⟩] }

/-- The levers are told apart by what is generated as long as their identifiers are,
and with one identifier for both the catalog is accepted as well. -/
theorem ids_injective_iff_distinct_of_leverFirst :
    ∃ layout code lever furnace, Layout.ofCatalog leverFirst = .ok layout ∧
      Code.ReadIn withTable (layout.generate withTable).value code ∧
      code.implementations = [lever, furnace] ∧
      lever.IdentifiesValues (code.HasState lever.typeName) sampleLever ∧
      ∃ otherLayout, Layout.ofCatalog ((Catalog.empty.add sharedLever).add sampleFurnace) =
        .ok otherLayout := by
  have laidOut : Layout.ofCatalog leverFirst =
      .ok (Layout.unchecked leverFirst leverFirst.propertyUnion) := by
    decide +kernel
  have keyed : leverFirst.KeyedByName := by
    unfold Catalog.KeyedByName
    decide +kernel
  obtain ⟨-, generated, renumbered⟩ := ids_injective_iff_distinct leverFirst _ withTable laidOut
  obtain ⟨code, isRead, lookups⟩ := generated (keyed.typeNamesSound laidOut)
  have values : leverFirst.blocks.values = [sampleLever, sampleFurnace] := by decide +kernel
  rw [values] at lookups
  obtain ⟨lever, _, ofLever, afterLever, found⟩ := List.forall₂_cons_left_iff.mp lookups
  obtain ⟨furnace, _, -, afterFurnace, rfl⟩ := List.forall₂_cons_left_iff.mp afterLever
  obtain rfl := List.forall₂_nil_left_iff.mp afterFurnace
  have identifies := (ofLever (by decide +kernel)).injective_iff.mpr (by decide +kernel)
  have sameLever : sampleLever.AlikeUpTo (fun state other => state.assignment = other.assignment)
      sharedLever := ⟨rfl, rfl, .cons rfl (.cons rfl .nil)⟩
  have sameFurnace : sampleFurnace.AlikeUpTo
      (fun state other => state.assignment = other.assignment) sampleFurnace :=
    ⟨rfl, rfl, .cons rfl .nil⟩
  exact ⟨_, code, lever, furnace, laidOut, isRead, found, identifies,
    renumbered _ (.cons ⟨rfl, sameLever⟩ (.cons ⟨rfl, sameFurnace⟩ .nil))⟩

/-- Acceptance alone does not keep the identifiers of a block apart: for both
levers the look-up that is generated gives the same one. -/
theorem shared_identifier_accepted :
    ∃ layout code lever, Layout.ofCatalog (Catalog.empty.add sharedLever) = .ok layout ∧
      Code.ReadIn withTable (layout.generate withTable).value code ∧
      code.implementations = [lever] ∧ ¬ (sharedLever.states.map State.id).Nodup ∧
      ¬ lever.IdentifiesValues (code.HasState lever.typeName) sharedLever := by
  let shared := Catalog.empty.add sharedLever
  have laidOut : Layout.ofCatalog shared = .ok (Layout.unchecked shared shared.propertyUnion) := by
    decide +kernel
  have keyed : shared.KeyedByName := by
    unfold Catalog.KeyedByName
    decide +kernel
  have accepted := ((Layout.ofCatalog_eq_ok_iff _ _).mp laidOut).1
  have isRead : Code.ReadIn withTable _ (shared.unit withTable).content :=
    accepted.readIn_unit (keyed.typeNamesSound laidOut)
  refine ⟨_, _, (sharedLever.matching shared.propertyTypes).implementation, laidOut, isRead,
    by decide +kernel, by decide +kernel, ?_⟩
  have isStruct : .struct "Lever" ["Facing"] ∈ (shared.unit withTable).content := by
    decide +kernel
  have lists (direction name : String) (isName : Identifier.ofRaw direction = name)
      (listed : ⟨10, .ofList [("facing", direction)]⟩ ∈ sharedLever.states)
      (isVariant : name ∈ ["North", "South"]) :
      sharedLever.Lists ((shared.unit withTable).content.HasState "Lever")
        [⟨"Facing", .variant name⟩] := by
    have hasValue : (shared.unit withTable).content.HasValue ⟨"Facing", .variant name⟩ :=
      .variant ["North", "South"] (by decide +kernel) isVariant
    exact ⟨⟨isStruct, List.forall_mem_singleton.mpr hasValue⟩, _, listed, [direction], rfl,
      .cons isName .nil⟩
  have typeName : (sharedLever.matching shared.propertyTypes).implementation.typeName =
      "Lever" := by
    decide +kernel
  rw [typeName]
  intro identifies
  have same := identifies [⟨"Facing", .variant "North"⟩] [⟨"Facing", .variant "South"⟩]
    (lists "north" "North" (by decide +kernel) (by decide +kernel) (by decide))
    (lists "south" "South" (by decide +kernel) (by decide +kernel) (by decide))
    (by decide +kernel)
  exact absurd same (by decide)

end BlockStates
