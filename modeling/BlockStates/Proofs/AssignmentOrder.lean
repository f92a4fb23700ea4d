import BlockStates.Proofs.GeneratedUnit
import BlockStates.Proofs.Validity

/-!
# Neither the order of assignments nor identifiers decide acceptance

A state lists its assignments in some order, but all that the check and the
layout ask of it are look-ups.  The check does not look at identifiers either.
So catalogs whose states assign the same are accepted together, and if their
states have the same identifiers too, they are laid out as one and the same
layout.
-/

set_option autoImplicit false

namespace BlockStates

/-! ## Catalogs that differ in their states -/

/-- Two blocks of one name and one declaration, whose states are related one by
one. -/
structure Block.AlikeUpTo (first : Block) (related : State → State → Prop) (second : Block) :
    Prop where
  name : first.name = second.name
  properties : first.properties = second.properties
  states : List.Forall₂ related first.states second.states

/-- Two catalogs with the same keys, whose blocks differ at most in their states,
and these only as far as they may. -/
def Catalog.AlikeUpTo (first : Catalog) (related : State → State → Prop) (second : Catalog) :
    Prop :=
  List.Forall₂ (fun entry other => entry.1 = other.1 ∧ entry.2.AlikeUpTo related other.2)
    first.blocks.entries second.blocks.entries

theorem Catalog.AlikeUpTo.imp {first second : Catalog} {related wider : State → State → Prop}
    (alike : first.AlikeUpTo related second)
    (widens : ∀ state other, related state other → wider state other) :
    first.AlikeUpTo wider second :=
  List.Forall₂.imp
    (fun _ _ same => ⟨same.1, same.2.name, same.2.properties, same.2.states.imp widens⟩) alike

theorem Catalog.AlikeUpTo.symm {first second : Catalog} {related : State → State → Prop}
    (symmetric : ∀ state other, related state other → related other state)
    (alike : first.AlikeUpTo related second) : second.AlikeUpTo related first := by
  apply List.Forall₂.imp _ (List.Forall₂.flip alike)
  rintro entry other ⟨key, same⟩
  exact ⟨key.symm, same.name.symm, same.properties.symm, same.states.flip.imp fun _ _ =>
    symmetric _ _⟩

theorem State.AssignsLike.get?_eq {first second : State} (alike : first.AssignsLike second) :
    first.assignment.get? = second.assignment.get? :=
  funext alike

/-! ## What the check sees of a state -/

section Block

variable {first second : Block}

theorem combination_eq_of_assignsLike (sameProperties : first.properties = second.properties)
    {state other : State} (same : state.AssignsLike other) :
    combination first state = combination second other := by
  rw [combination, combination, sameProperties, same.get?_eq]

theorem StateFit.of_assignsLike (sameProperties : first.properties = second.properties)
    {state other : State} (same : state.AssignsLike other) (stateFit : StateFit first state) :
    StateFit second other where
  assigns := by
    rw [← sameProperties, ← same.get?_eq]
    exact stateFit.assigns
  onlyDeclared := by
    intro property assigned
    rw [← sameProperties]
    apply stateFit.onlyDeclared
    rw [OrderedMap.mem_keys_iff, same property]
    exact (OrderedMap.mem_keys_iff _ _).mp assigned

theorem BlockFit.of_assignsLike (alike : first.AlikeUpTo State.AssignsLike second)
    (blockFit : BlockFit first) : BlockFit second where
  nonempty := by
    intro noStates
    have states := alike.states
    rw [noStates] at states
    exact blockFit.nonempty (List.forall₂_nil_right_iff.mp states)
  states := by
    intro other isState
    obtain ⟨state, member, same⟩ := exists_related_of_mem alike.states isState
    exact (blockFit.states state member).of_assignsLike alike.properties same
  distinct := by
    intro composed
    have combinations : first.states.map (combination first) =
        second.states.map (combination second) :=
      map_eq_map_of_forall₂ alike.states fun _ _ same =>
        combination_eq_of_assignsLike alike.properties same
    have firstComposed : first.isSimple = false := by
      rw [Block.isSimple, alike.properties]
      exact composed
    rw [← combinations]
    exact blockFit.distinct firstComposed

end Block

/-! ## What the check sees of a catalog -/

namespace Catalog.AlikeUpTo

variable {first second : Catalog} {related : State → State → Prop}

theorem keys_eq (alike : first.AlikeUpTo related second) :
    first.blocks.keys = second.blocks.keys :=
  map_eq_map_of_forall₂ alike fun _ _ same => same.1

theorem values (alike : first.AlikeUpTo related second) :
    List.Forall₂ (fun block other => block.AlikeUpTo related other) first.blocks.values
      second.blocks.values := by
  rw [OrderedMap.values, OrderedMap.values, List.forall₂_map_left_iff,
    List.forall₂_map_right_iff]
  exact List.Forall₂.imp (fun _ _ same => same.2) alike

/-- Declarations are no part of the states, so the property unions agree. -/
theorem propertyUnion_eq (alike : first.AlikeUpTo related second) :
    first.propertyUnion = second.propertyUnion := by
  have declared : first.blocks.values.map (fun block => block.properties.entries) =
      second.blocks.values.map fun block => block.properties.entries :=
    map_eq_map_of_forall₂ alike.values fun _ _ same => congrArg OrderedMap.entries same.properties
  rw [propertyUnion_eq_declareList, propertyUnion_eq_declareList, declarations, declarations,
    List.flatMap_def, List.flatMap_def, declared]

theorem accepted (alike : first.AlikeUpTo State.AssignsLike second)
    (isAccepted : first.Accepted) : second.Accepted := by
  have sources : typeSources first first.propertyUnion =
      typeSources second second.propertyUnion := by
    rw [typeSources, typeSources, alike.propertyUnion_eq, alike.keys_eq]
  have unionEq := alike.propertyUnion_eq
  refine ⟨?_, ?_, ?_, ?_, ?_⟩
  · rw [← unionEq]
    exact isAccepted.values
  · intro block member
    obtain ⟨other, isOther, same⟩ := exists_related_of_mem alike.values member
    exact (isAccepted.blocks other isOther).of_assignsLike same
  · rw [← unionEq]
    exact isAccepted.names.variants
  · rw [← sources]
    exact isAccepted.names.usable
  · rw [← sources]
    exact isAccepted.names.distinct

/-- Of catalogs whose states assign the same, whatever their identifiers are, one
is accepted exactly if the other is. -/
theorem accepted_iff (alike : first.AlikeUpTo State.AssignsLike second) :
    first.Accepted ↔ second.Accepted :=
  ⟨alike.accepted, (alike.symm fun _ _ same property => (same property).symm).accepted⟩

end Catalog.AlikeUpTo

/-! ## Assignments in another order -/

structure State.Reordered (first second : State) : Prop where
  id : first.id = second.id
  assignment : first.assignment.entries.Perm second.assignment.entries

theorem State.Reordered.assignsLike {first second : State} (reordered : first.Reordered second) :
    first.AssignsLike second :=
  fun property => OrderedMap.get?_eq_of_perm reordered.assignment property

theorem Block.AlikeUpTo.ofBlock_eq {first second : Block}
    (reordered : first.AlikeUpTo State.Reordered second)
    (types : OrderedMap String PropertyType) :
    BlockType.ofBlock types first = BlockType.ofBlock types second := by
  have rows : first.states.map (BlockType.row first) =
      second.states.map (BlockType.row second) := by
    apply map_eq_map_of_forall₂ reordered.states
    intro state other same
    rw [BlockType.row, BlockType.row, same.id, reordered.properties, same.assignsLike.get?_eq]
  rw [BlockType.ofBlock, BlockType.ofBlock, rows, reordered.name, reordered.properties]

/-- Rows follow the declared properties, so nothing of the order is left. -/
theorem Catalog.AlikeUpTo.unchecked_eq {first second : Catalog}
    (reordered : first.AlikeUpTo State.Reordered second) :
    Layout.unchecked first first.propertyUnion = Layout.unchecked second second.propertyUnion := by
  have blocks (types : OrderedMap String PropertyType) :
      first.blocks.values.map (BlockType.ofBlock types) =
        second.blocks.values.map (BlockType.ofBlock types) :=
    map_eq_map_of_forall₂ reordered.values fun _ _ same => same.ofBlock_eq types
  rw [reordered.propertyUnion_eq, Layout.unchecked, Layout.unchecked, blocks]

/-- Catalogs that differ at most in the order of assignments inside of states are
accepted together, and whatever the options are, the same unit is written for
them. -/
theorem assignment_order_irrelevant (first second : Catalog)
    (reordered : first.AlikeUpTo State.Reordered second) :
    ((∃ layout, Layout.ofCatalog first = .ok layout) ↔
      ∃ layout, Layout.ofCatalog second = .ok layout) ∧
    ∀ firstLayout secondLayout, Layout.ofCatalog first = .ok firstLayout →
      Layout.ofCatalog second = .ok secondLayout → firstLayout = secondLayout ∧
        ∀ options, (firstLayout.generate options).value = (secondLayout.generate options).value := by
  have acceptedIff := (reordered.imp fun _ _ same => same.assignsLike).accepted_iff
  have sameLayout := reordered.unchecked_eq
  simp only [Layout.ofCatalog_eq_ok_iff]
  constructor
  · simp [acceptedIff]
  · rintro firstLayout secondLayout ⟨-, rfl⟩ ⟨-, rfl⟩
    rw [sameLayout]
    exact ⟨rfl, fun _ => rfl⟩

def sortedCatalog : Catalog :=
  ((Catalog.empty.add sampleStone).add sampleSnow).add
    { sampleCake with states := [⟨3, .ofList [("layers", "1"), ("lit", "off")]⟩] }

theorem assignment_order_irrelevant_of_sortedCatalog :
    sampleCatalog ≠ sortedCatalog ∧ ∃ layout, Layout.ofCatalog sortedCatalog = .ok layout ∧
      (layout.generate withTable).value = (sampleCatalog.unit withTable).text := by
  have reordered : sampleCatalog.AlikeUpTo State.Reordered sortedCatalog := by
    have stone : sampleStone.AlikeUpTo State.Reordered sampleStone :=
      ⟨rfl, rfl, .cons ⟨rfl, .refl _⟩ .nil⟩
    have snow : sampleSnow.AlikeUpTo State.Reordered sampleSnow :=
      ⟨rfl, rfl, .cons ⟨rfl, .refl _⟩ .nil⟩
    have cake : sampleCake.AlikeUpTo State.Reordered
        { sampleCake with states := [⟨3, .ofList [("layers", "1"), ("lit", "off")]⟩] } :=
      ⟨rfl, rfl, .cons ⟨rfl, by decide +kernel⟩ .nil⟩
    exact .cons ⟨rfl, stone⟩ (.cons ⟨rfl, snow⟩ (.cons ⟨rfl, cake⟩ .nil))
  obtain ⟨acceptedIff, sameUnit⟩ := assignment_order_irrelevant _ _ reordered
  obtain ⟨layout, accepted⟩ := acceptedIff.mp ⟨_, ofCatalog_sampleCatalog⟩
  obtain ⟨-, units⟩ := sameUnit _ _ ofCatalog_sampleCatalog accepted
  exact ⟨by decide +kernel, layout, accepted, (units withTable).symm⟩

end BlockStates
