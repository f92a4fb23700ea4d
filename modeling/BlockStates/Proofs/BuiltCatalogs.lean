import BlockStates.Proofs.GeneratedUnit

/-!
# Type names of catalogs that are built in steps

The check gives out identifiers for the keys of a catalog, while the types are
named for the blocks that stand there.  `built_type_names_sound` says that this
is enough as long as every block that is put under a key of its own choice has a
key that becomes the same identifier; where it has not, a layout can hold a type
name that was never checked.
-/

set_option autoImplicit false

namespace BlockStates

/-! ## Building -/

inductive Catalog.Edit where
  | new
  /-- Takes the catalog that a text describes, if it describes one. -/
  | read (text : String)
  | add (block : Block)
  /-- Puts a block under any key, whatever the block is called. -/
  | place (key : String) (block : Block)

namespace Catalog

def apply (catalog : Catalog) : Edit → Catalog
  | .new => empty
  | .read text =>
    match Catalog.read text with
    | .ok described => described
    | .error _ => catalog
  | .add block => catalog.add block
  | .place key block => ⟨catalog.blocks.insert key block⟩

def built (edits : List Edit) : Catalog :=
  edits.foldl apply empty

/-- A step that puts no block under a key of another identifier. -/
def Edit.Faithful : Edit → Prop
  | .place key block => Identifier.ofRaw key = Identifier.ofRaw block.name
  | .new | .read _ | .add _ => True

end Catalog

/-! ## What every step keeps -/

namespace Catalog

variable {catalog : Catalog}

theorem IdentifiedByKey.apply (identified : catalog.IdentifiedByKey) {edit : Edit}
    (faithful : edit.Faithful) : (catalog.apply edit).IdentifiedByKey := by
  cases edit with
  | new => exact fun entry member => absurd member List.not_mem_nil
  | read text =>
    simp only [Catalog.apply]
    split
    · next described reading => exact (keyedByName_of_read reading).identifiedByKey
    · exact identified
  | add block =>
    exact OrderedMap.forall_entries_insert identified rfl
  | place key block =>
    exact OrderedMap.forall_entries_insert identified faithful

theorem identifiedByKey_built (edits : List Edit) (faithful : ∀ edit ∈ edits, edit.Faithful) :
    (built edits).IdentifiedByKey := by
  suffices ∀ start : Catalog, start.IdentifiedByKey →
      (edits.foldl Catalog.apply start).IdentifiedByKey from
    this empty fun entry member => absurd member List.not_mem_nil
  induction edits with
  | nil => exact fun start identified => identified
  | cons edit rest restIdentified =>
    obtain ⟨editFaithful, restFaithful⟩ := List.forall_mem_cons.mp faithful
    exact fun start identified =>
      restIdentified restFaithful (start.apply edit) (identified.apply editFaithful)

end Catalog

/-- However a catalog is built, if blocks are only put under keys of their own
identifier, its layout has sound type names. -/
theorem built_type_names_sound (edits : List Catalog.Edit)
    (faithful : ∀ edit ∈ edits, edit.Faithful) (layout : Layout)
    (accepted : Layout.ofCatalog (Catalog.built edits) = .ok layout) : layout.TypeNamesSound := by
  obtain ⟨isAccepted, rfl⟩ := (Layout.ofCatalog_eq_ok_iff _ layout).mp accepted
  exact isAccepted.typeNamesSound (Catalog.identifiedByKey_built edits faithful)

def respelledEdits : List Catalog.Edit :=
  [.read sampleText, .place "oak_log" ⟨"oak:log", ∅, [⟨1, ∅⟩]⟩]

theorem built_type_names_sound_of_respelledEdits :
    ∃ layout, Layout.ofCatalog (Catalog.built respelledEdits) = .ok layout ∧
      layout.typeNames = ["Layers", "Lit", "Stone", "Snow", "Cake", "OakLog"] ∧
      layout.TypeNamesSound := by
  have accepted : Layout.ofCatalog (Catalog.built respelledEdits) =
      .ok (Layout.unchecked (Catalog.built respelledEdits)
        (Catalog.built respelledEdits).propertyUnion) := by
    decide +kernel
  have faithful : ∀ edit ∈ respelledEdits, edit.Faithful := by
    intro edit member
    rcases List.mem_cons.mp member with rfl | isLast
    · trivial
    · obtain rfl := List.mem_singleton.mp isLast
      unfold Catalog.Edit.Faithful
      decide +kernel
  exact ⟨_, accepted, by decide +kernel, built_type_names_sound _ faithful _ accepted⟩

/-- A block under a key that says nothing about its name. -/
def misnamedEdits : List Catalog.Edit :=
  [.new, .place "stone" ⟨"bad.name", ∅, [⟨1, ∅⟩]⟩]

/-- Only the key is checked, so the block brings a name that no type can have. -/
theorem built_type_names_unsound :
    ∃ layout, Layout.ofCatalog (Catalog.built misnamedEdits) = .ok layout ∧
      layout.typeNames = ["Bad.name"] ∧ ¬ layout.TypeNamesSound := by
  have accepted : Layout.ofCatalog (Catalog.built misnamedEdits) =
      .ok (Layout.unchecked (Catalog.built misnamedEdits)
        (Catalog.built misnamedEdits).propertyUnion) := by
    decide +kernel
  have unusable : Identifier.isUsable "Bad.name" = false := by
    decide +kernel
  refine ⟨_, accepted, by decide +kernel, fun sound => ?_⟩
  have usable := sound.usable "Bad.name" (by decide +kernel)
  rw [unusable] at usable
  exact Bool.false_ne_true usable

end BlockStates
