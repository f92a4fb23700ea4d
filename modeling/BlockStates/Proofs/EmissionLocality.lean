import BlockStates.Declaration.Printer
import BlockStates.Proofs.AcceptedLayout

/-!
# Emission is local to a block

A catalog keeps being accepted when blocks are left out or put in another order,
and what is emitted for a block does not depend on the other blocks.  The union
of a property may lose values or list them in another order, but never changes
its kind, and a block's type depends on no more than the kind.
-/

set_option autoImplicit false

namespace BlockStates

/-! ## Leaving values out -/

theorem nodup_map_of_subset {Item Name : Type} (name : Item → Name) {part whole : List Item}
    (distinct : part.Nodup) (subset : part ⊆ whole) (named : (whole.map name).Nodup) :
    (part.map name).Nodup := by
  refine List.Nodup.map_on ?_ distinct
  intro first firstMember second secondMember same
  exact List.inj_on_of_nodup_map named (subset firstMember) (subset secondMember) same

theorem ValuesFit.kind_of_subset {part whole : List String} (wholeFit : ValuesFit whole)
    (nonempty : part ≠ []) (subset : part ⊆ whole) :
    ValueKind.ofValues part = ValueKind.ofValues whole := by
  cases part with
  | nil => exact absurd rfl nonempty
  | cons first rest => exact wholeFit.oneKind first (subset List.mem_cons_self)

/-- Distinct values of a fit property are fit on their own, if there are any. -/
theorem ValuesFit.of_subset {part whole : List String} (wholeFit : ValuesFit whole)
    (nonempty : part ≠ []) (distinct : part.Nodup) (subset : part ⊆ whole) : ValuesFit part := by
  have sameKind := wholeFit.kind_of_subset nonempty subset
  refine ⟨nonempty, ?_, ?_⟩
  · intro value member
    rw [sameKind]
    exact wholeFit.oneKind value (subset member)
  · intro numeric
    obtain ⟨numbers, different⟩ := wholeFit.numbers (sameKind ▸ numeric)
    exact ⟨fun value member => numbers value (subset member),
      nodup_map_of_subset _ distinct subset different⟩

theorem VariantsFit.of_subset {part whole : List String} (wholeFit : VariantsFit whole)
    (sameKind : ValueKind.ofValues part = ValueKind.ofValues whole) (distinct : part.Nodup)
    (subset : part ⊆ whole) : VariantsFit part := by
  intro symbolic
  obtain ⟨usable, different⟩ := wholeFit (sameKind ▸ symbolic)
  exact ⟨fun value member => usable value (subset member),
    nodup_map_of_subset _ distinct subset different⟩

/-! ## Leaving blocks out -/

section Part

variable {part whole : Catalog}

theorem mem_values_of_subset (subset : part.blocks.entries ⊆ whole.blocks.entries)
    {block : Block} (member : block ∈ part.blocks.values) : block ∈ whole.blocks.values := by
  obtain ⟨key, entry⟩ := (OrderedMap.mem_values_iff _ _).mp member
  exact (OrderedMap.mem_values_iff _ _).mpr ⟨key, subset entry⟩

/-- A property of a part is one of the whole, with at least the same values. -/
theorem exists_wider_union (subset : part.blocks.entries ⊆ whole.blocks.entries)
    {property : String} {values : List String}
    (found : part.propertyUnion.get? property = some values) :
    ∃ wider, whole.propertyUnion.get? property = some wider ∧ values ⊆ wider := by
  have isKey : property ∈ part.propertyUnion.keys :=
    (OrderedMap.mem_keys_iff _ _).mpr ⟨values, found⟩
  obtain ⟨block, member, declared⟩ :=
    (Catalog.mem_keys_propertyUnion_iff part property).mp isKey
  have wholeKey : property ∈ whole.propertyUnion.keys :=
    (Catalog.mem_keys_propertyUnion_iff whole property).mpr
      ⟨block, mem_values_of_subset subset member, declared⟩
  obtain ⟨wider, wholeFound⟩ := (OrderedMap.mem_keys_iff _ _).mp wholeKey
  refine ⟨wider, wholeFound, ?_⟩
  intro value isValue
  obtain ⟨source, sourceMember, sourceDeclared⟩ :=
    (Catalog.mem_propertyUnion_iff part found value).mp isValue
  exact (Catalog.mem_propertyUnion_iff whole wholeFound value).mpr
    ⟨source, mem_values_of_subset subset sourceMember, sourceDeclared⟩

/-- A declared property has a value: some state of the block assigns one. -/
theorem BlockFit.declared_nonempty {block : Block} (blockFit : BlockFit block)
    {property : String} {declared : List String}
    (found : block.properties.get? property = some declared) : ∃ value, value ∈ declared := by
  obtain ⟨state, rest, states⟩ := List.exists_cons_of_ne_nil blockFit.nonempty
  have member : state ∈ block.states := by
    rw [states]
    exact List.mem_cons_self
  obtain ⟨value, isDeclared, -⟩ := (blockFit.states state member).assigns (property, declared)
    ((OrderedMap.get?_eq_some_iff _ _ _).mp found)
  exact ⟨value, isDeclared⟩

theorem union_nonempty (blocksFit : ∀ block ∈ part.blocks.values, BlockFit block)
    {property : String} {values : List String}
    (found : part.propertyUnion.get? property = some values) : values ≠ [] := by
  have isKey : property ∈ part.propertyUnion.keys :=
    (OrderedMap.mem_keys_iff _ _).mpr ⟨values, found⟩
  obtain ⟨block, member, declaredKey⟩ :=
    (Catalog.mem_keys_propertyUnion_iff part property).mp isKey
  obtain ⟨declared, isDeclared⟩ := (OrderedMap.mem_keys_iff _ _).mp declaredKey
  -- A block may well declare a property without values, but then it has no fit
  -- state, and no block is without states.
  obtain ⟨value, isValue⟩ := (blocksFit block member).declared_nonempty isDeclared
  have inUnion : value ∈ values :=
    (Catalog.mem_propertyUnion_iff part found value).mpr
      ⟨block, member, declared, isDeclared, isValue⟩
  exact List.ne_nil_of_mem inUnion

theorem typeSources_subset (subset : part.blocks.entries ⊆ whole.blocks.entries) :
    typeSources part part.propertyUnion ⊆ typeSources whole whole.propertyUnion := by
  intro raw member
  rcases List.mem_append.mp member with isProperty | isBlock
  · obtain ⟨values, found⟩ := (OrderedMap.mem_keys_iff _ _).mp isProperty
    obtain ⟨wider, wholeFound, -⟩ := exists_wider_union subset found
    exact List.mem_append_left _ ((OrderedMap.mem_keys_iff _ _).mpr ⟨wider, wholeFound⟩)
  · obtain ⟨entry, isEntry, rfl⟩ := List.mem_map.mp isBlock
    exact List.mem_append_right _ (List.mem_map_of_mem (subset isEntry))

theorem NamesFit.distinct_of_subset (wholeFit : NamesFit whole whole.propertyUnion)
    (subset : part.blocks.entries ⊆ whole.blocks.entries) :
    (importedNames ++ (typeSources part part.propertyUnion).map Identifier.ofRaw).Nodup := by
  have sources := typeSources_subset subset
  obtain ⟨importedDistinct, wholeDistinct, apart⟩ := List.nodup_append.mp wholeFit.distinct
  have wholeRaw : (typeSources whole whole.propertyUnion).Nodup := List.Nodup.of_map _ wholeDistinct
  obtain ⟨-, -, wholeApart⟩ := List.nodup_append.mp wholeRaw
  -- A property may be called like a block only if both become one type name,
  -- which the whole rules out; distinct keys alone would not.
  have partRaw : (typeSources part part.propertyUnion).Nodup := by
    rw [typeSources, List.nodup_append]
    refine ⟨OrderedMap.nodup_keys _, OrderedMap.nodup_keys _, ?_⟩
    intro property isProperty key isKey
    obtain ⟨values, found⟩ := (OrderedMap.mem_keys_iff _ _).mp isProperty
    obtain ⟨wider, wholeFound, -⟩ := exists_wider_union subset found
    obtain ⟨entry, isEntry, rfl⟩ := List.mem_map.mp isKey
    exact wholeApart property ((OrderedMap.mem_keys_iff _ _).mpr ⟨wider, wholeFound⟩) entry.1
      (List.mem_map_of_mem (subset isEntry))
  rw [List.nodup_append]
  refine ⟨importedDistinct, nodup_map_of_subset _ partRaw sources wholeDistinct, ?_⟩
  intro imported isImported name isName
  exact apart imported isImported name (List.map_subset _ sources isName)

/-- A part of an accepted catalog is accepted, in any order of its blocks. -/
theorem Catalog.Accepted.of_subset (accepted : whole.Accepted)
    (subset : part.blocks.entries ⊆ whole.blocks.entries) : part.Accepted := by
  have blocksFit : ∀ block ∈ part.blocks.values, BlockFit block :=
    fun block member => accepted.blocks block (mem_values_of_subset subset member)
  have unionFit : ∀ entry ∈ part.propertyUnion.entries,
      ValuesFit entry.2 ∧ VariantsFit entry.2 := by
    rintro ⟨property, values⟩ entry
    have found := (OrderedMap.get?_eq_some_iff _ _ _).mpr entry
    obtain ⟨wider, wholeFound, inside⟩ := exists_wider_union subset found
    have wholeEntry := (OrderedMap.get?_eq_some_iff _ _ _).mp wholeFound
    have nonempty := union_nonempty blocksFit found
    have distinct := Catalog.nodup_of_get?_propertyUnion part found
    have widerFit := accepted.values _ wholeEntry
    exact ⟨widerFit.of_subset nonempty distinct inside,
      (accepted.names.variants _ wholeEntry).of_subset
        (widerFit.kind_of_subset nonempty inside) distinct inside⟩
  refine ⟨fun entry member => (unionFit entry member).1, blocksFit, ?_⟩
  refine ⟨fun entry member => (unionFit entry member).2, ?_,
    accepted.names.distinct_of_subset subset⟩
  intro raw member
  exact accepted.names.usable raw (typeSources_subset subset member)

end Part

/-! ## What a declaration depends on -/

/-- The part of a property's type on which the declarations of blocks depend. -/
def PropertyType.profile (property : PropertyType) : String × ValueKind :=
  (property.typeName, property.kind)

theorem PropertyType.expr_eq_of_profile {first second : PropertyType}
    (same : first.profile = second.profile) (value : String) :
    first.expr value = second.expr value := by
  obtain ⟨sameType, sameKind⟩ := Prod.mk.inj same
  rw [expr, expr, sameType, sameKind]
  rfl

theorem BlockShape.ofFields_eq_of_profiles : ∀ first second : List PropertyType,
    first.map PropertyType.profile = second.map PropertyType.profile →
      BlockShape.ofFields first = BlockShape.ofFields second := by
  intro first second same
  match first, second with
  | [], [] => rfl
  | [field], [other] =>
    have sameKind : field.kind = other.kind :=
      congrArg Prod.snd (List.singleton_inj.mp same)
    rw [ofFields, ofFields, sameKind]
  | _ :: _ :: _, _ :: _ :: _ => rfl
  | [], _ :: _ => simp at same
  | _ :: _, [] => simp at same
  | [_], _ :: _ :: _ => simp at same
  | _ :: _ :: _, [_] => simp at same

theorem zipWith_expr_eq_of_profiles (first second : List PropertyType) (values : List String)
    (same : first.map PropertyType.profile = second.map PropertyType.profile) :
    List.zipWith PropertyType.expr first values =
      List.zipWith PropertyType.expr second values := by
  induction first generalizing second values with
  | nil =>
    obtain rfl : second = [] := List.map_eq_nil_iff.mp same.symm
    rfl
  | cons field rest restSame =>
    cases second with
    | nil => simp at same
    | cons other others =>
      obtain ⟨sameField, sameRest⟩ := List.cons_eq_cons.mp same
      cases values with
      | nil => rfl
      | cons value values =>
        rw [List.zipWith_cons_cons, List.zipWith_cons_cons,
          PropertyType.expr_eq_of_profile sameField value, restSame others values sameRest]

/-- Types of a block that agree in the profiles of their fields are declared
alike. -/
theorem BlockType.declaration?_eq_of_profiles {types others : OrderedMap String PropertyType}
    {block : Block}
    (same : (ofBlock types block).fields.map PropertyType.profile =
      (ofBlock others block).fields.map PropertyType.profile) :
    (ofBlock types block).declaration? = (ofBlock others block).declaration? := by
  have sameShape : (ofBlock types block).shape = (ofBlock others block).shape :=
    BlockShape.ofFields_eq_of_profiles _ _ same
  have sameTypes : (ofBlock types block).fields.map PropertyType.typeName =
      (ofBlock others block).fields.map PropertyType.typeName := by
    have firsts := congrArg (List.map Prod.fst) same
    simpa only [List.map_map, Function.comp_def, PropertyType.profile] using firsts
  have sameExprs (row : Row) :
      (ofBlock types block).fieldExprs row = (ofBlock others block).fieldExprs row :=
    zipWith_expr_eq_of_profiles _ _ row.values same
  have sameEmpty :
      (ofBlock types block).fields.isEmpty = (ofBlock others block).fields.isEmpty := by
    rw [isEmpty_fields, isEmpty_fields]
  have sameArms : (ofBlock types block).arm = (ofBlock others block).arm := by
    funext row
    simp only [arm, pattern, stateExpr, sameShape, sameExprs, sameEmpty]
    rfl
  simp only [declaration?, scrutinee, sameShape, sameTypes, sameArms]
  rfl

/-! ## Locality -/

theorem text_eq_of_subset {part whole : Catalog} (accepted : whole.Accepted)
    (subset : part.blocks.entries ⊆ whole.blocks.entries) {block : Block}
    (member : block ∈ part.blocks.values) :
    (BlockType.ofBlock part.propertyTypes block).text =
      (BlockType.ofBlock whole.propertyTypes block).text := by
  have partAccepted := accepted.of_subset subset
  have sameProfiles : (BlockType.ofBlock part.propertyTypes block).fields.map PropertyType.profile =
      (BlockType.ofBlock whole.propertyTypes block).fields.map PropertyType.profile := by
    simp only [BlockType.ofBlock, List.map_map]
    apply List.map_congr_left
    rintro ⟨property, declared⟩ entry
    obtain ⟨values, found, partField, partSettled, -⟩ := partAccepted.exists_field member entry
    obtain ⟨wider, wholeFound, wholeField, wholeSettled, -⟩ :=
      accepted.exists_field (mem_values_of_subset subset member) entry
    obtain ⟨known, knownFound, inside⟩ := exists_wider_union subset found
    obtain rfl : known = wider := Option.some.inj (knownFound.symm.trans wholeFound)
    have sameKind : ValueKind.ofValues values = ValueKind.ofValues known :=
      wholeSettled.values.kind_of_subset partSettled.values.nonempty inside
    simp only [Function.comp_apply, partField, wholeField, PropertyType.profile,
      PropertyType.ofValues, sameKind]
  rw [BlockType.text, BlockType.text, BlockType.declaration?_eq_of_profiles sameProfiles]

structure PropertyType.SameUpToOrder (first second : PropertyType) : Prop where
  typeName : first.typeName = second.typeName
  kind : first.kind = second.kind
  values : ∀ value, value ∈ first.values ↔ value ∈ second.values

theorem property?_sameUpToOrder {first second : Catalog} (accepted : second.Accepted)
    (subset : first.blocks.entries ⊆ second.blocks.entries)
    (superset : second.blocks.entries ⊆ first.blocks.entries) (property : String) :
    Option.Rel PropertyType.SameUpToOrder (first.propertyTypes.get? property)
      (second.propertyTypes.get? property) := by
  rw [Catalog.get?_propertyTypes, Catalog.get?_propertyTypes]
  cases firstFound : first.propertyUnion.get? property with
  | none =>
    cases secondFound : second.propertyUnion.get? property with
    | none => exact Option.Rel.none
    | some values =>
      obtain ⟨wider, found, -⟩ := exists_wider_union superset secondFound
      rw [firstFound] at found
      cases found
  | some values =>
    obtain ⟨wider, secondFound, inside⟩ := exists_wider_union subset firstFound
    obtain ⟨back, found, outside⟩ := exists_wider_union superset secondFound
    obtain rfl : values = back := Option.some.inj (firstFound.symm.trans found)
    rw [secondFound]
    have nonempty := union_nonempty (accepted.of_subset subset).blocks firstFound
    have sameKind := (accepted.settled secondFound).values.kind_of_subset nonempty inside
    exact Option.Rel.some ⟨rfl, sameKind, fun value => ⟨@inside value, @outside value⟩⟩

/-- Any blocks of an accepted catalog, in any order, are accepted on their own,
and each is written as before.  If no block is left out, the properties differ at
most in the order of their values. -/
theorem emission_local (whole part : Catalog) (wholeLayout : Layout)
    (keyed : whole.KeyedByName) (accepted : Layout.ofCatalog whole = .ok wholeLayout)
    (subset : part.blocks.entries ⊆ whole.blocks.entries) :
    ∃ partLayout, Layout.ofCatalog part = .ok partLayout ∧
      (∀ name ∈ part.blocks.keys, ∃ inPart inWhole,
        partLayout.block? name = some inPart ∧ wholeLayout.block? name = some inWhole ∧
          inPart.text = inWhole.text) ∧
      (part.blocks.entries.Perm whole.blocks.entries → ∀ property,
        Option.Rel PropertyType.SameUpToOrder (partLayout.property? property)
          (wholeLayout.property? property)) := by
  obtain ⟨wholeAccepted, rfl⟩ := (Layout.ofCatalog_eq_ok_iff whole wholeLayout).mp accepted
  have partAccepted := wholeAccepted.of_subset subset
  have partKeyed : part.KeyedByName := fun entry member => keyed entry (subset member)
  refine ⟨Layout.unchecked part part.propertyUnion,
    (Layout.ofCatalog_eq_ok_iff part _).mpr ⟨partAccepted, rfl⟩, ?_, ?_⟩
  · intro name isKey
    obtain ⟨block, found⟩ := (OrderedMap.mem_keys_iff _ _).mp isKey
    have wholeFound : whole.blocks.get? name = some block :=
      (OrderedMap.get?_eq_some_iff _ _ _).mpr
        (subset ((OrderedMap.get?_eq_some_iff _ _ _).mp found))
    refine ⟨BlockType.ofBlock part.propertyTypes block, BlockType.ofBlock whole.propertyTypes block,
      ?_, ?_, text_eq_of_subset wholeAccepted subset (OrderedMap.mem_values_of_get? _ found)⟩
    · rw [partKeyed.block?_unchecked, Catalog.get?, found]
      rfl
    · rw [keyed.block?_unchecked, Catalog.get?, wholeFound]
      rfl
  · intro reordered property
    exact property?_sameUpToOrder wholeAccepted subset reordered.symm.subset property

def sampleLever : Block :=
  ⟨"lever", .ofList [("facing", ["north", "south"])],
    [⟨10, .ofList [("facing", "north")]⟩, ⟨11, .ofList [("facing", "south")]⟩]⟩

def sampleFurnace : Block :=
  ⟨"furnace", .ofList [("facing", ["east", "north"]), ("level", ["07"])],
    [⟨20, .ofList [("level", "07"), ("facing", "north")]⟩]⟩

def leverFirst : Catalog :=
  (Catalog.empty.add sampleLever).add sampleFurnace

def furnaceFirst : Catalog :=
  (Catalog.empty.add sampleFurnace).add sampleLever

/-- With the furnace first the lever is written as before, though the directions
are now listed in another order. -/
theorem emission_local_of_furnaceFirst :
    ∃ wholeLayout partLayout, Layout.ofCatalog leverFirst = .ok wholeLayout ∧
      Layout.ofCatalog furnaceFirst = .ok partLayout ∧
      (∃ inPart inWhole, partLayout.block? "lever" = some inPart ∧
        wholeLayout.block? "lever" = some inWhole ∧ inPart.text = inWhole.text) ∧
      Option.Rel PropertyType.SameUpToOrder (partLayout.property? "facing")
        (wholeLayout.property? "facing") := by
  have accepted : Layout.ofCatalog leverFirst =
      .ok (Layout.unchecked leverFirst leverFirst.propertyUnion) := by
    decide +kernel
  have reordered : furnaceFirst.blocks.entries.Perm leverFirst.blocks.entries := by
    decide +kernel
  have keyed : leverFirst.KeyedByName := by
    unfold Catalog.KeyedByName
    decide +kernel
  obtain ⟨partLayout, partAccepted, blocks, properties⟩ :=
    emission_local leverFirst furnaceFirst _ keyed accepted reordered.subset
  exact ⟨_, partLayout, accepted, partAccepted, blocks "lever" (by decide +kernel),
    properties reordered "facing"⟩

end BlockStates
