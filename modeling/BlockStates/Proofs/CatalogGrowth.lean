import BlockStates.Declaration.Lookup
import BlockStates.Proofs.EmissionLocality
import BlockStates.Proofs.NameResolution

/-!
# Growing catalogs

The property union lists every name and every value where it is first declared,
so that blocks at the end of a catalog only add to the end of what is there.
Types that a catalog has already keep their places, and variants the bytes that
stand for them, as long as the catalog is accepted.
-/

set_option autoImplicit false

namespace BlockStates

/-! ## First occurrences -/

theorem mergeValues_eq_append (known values : List String) :
    mergeValues known values = known ++ (values.removeAll known).eraseDups := by
  induction values generalizing known with
  | nil => simp [mergeValues]
  | cons value rest restMerged =>
    rw [mergeValues_cons, restMerged]
    by_cases isKnown : value ∈ known
    · simp [isKnown, List.removeAll]
    · have later : rest.removeAll (known ++ [value]) =
          (rest.removeAll known).filter (fun other => !other == value) := by
        rw [List.removeAll, List.removeAll, List.filter_filter]
        apply List.filter_congr
        intro other _
        by_cases same : other = value <;> simp [same]
      have here : (value :: rest).removeAll known = value :: rest.removeAll known := by
        simp [List.removeAll, isKnown]
      rw [if_neg isKnown, here, List.eraseDups_cons, later, List.append_assoc,
        List.singleton_append]

/-- Merged are the first occurrences. -/
theorem mergeValues_nil_eq_eraseDups (values : List String) :
    mergeValues [] values = values.eraseDups := by
  simp [mergeValues_eq_append, List.removeAll]

theorem eraseDups_isPrefix {first second : List String} (isPrefix : first <+: second) :
    first.eraseDups <+: second.eraseDups := by
  obtain ⟨more, rfl⟩ := isPrefix
  rw [List.eraseDups_append]
  exact List.prefix_append _ _

theorem flatMap_isPrefix {Item Part : Type} {first second : List Item} (isPrefix : first <+: second)
    (parts : Item → List Part) : first.flatMap parts <+: second.flatMap parts := by
  obtain ⟨more, rfl⟩ := isPrefix
  rw [List.flatMap_append]
  exact List.prefix_append _ _

/-! ## Declarations of the blocks -/

namespace Catalog

variable {catalog grown : Catalog}

/-- The names that the blocks declare, with repetitions. -/
def declaredNames (catalog : Catalog) : List String :=
  catalog.blocks.values.flatMap fun block => block.properties.keys

def valuesDeclaredFor (catalog : Catalog) (property : String) : List String :=
  catalog.blocks.values.flatMap fun block => (block.properties.get? property).getD []

theorem map_fst_declarations (catalog : Catalog) :
    catalog.declarations.map Prod.fst = catalog.declaredNames :=
  List.map_flatMap

theorem declaredValues_of_distinct (property : String) {entries : List (String × List String)}
    (distinct : (entries.map Prod.fst).Nodup) :
    declaredValues property entries = (OrderedMap.find? property entries).getD [] := by
  induction entries with
  | nil => rfl
  | cons entry rest restValues =>
    obtain ⟨name, values⟩ := entry
    obtain ⟨fresh, restDistinct⟩ := List.nodup_cons.mp distinct
    have split : declaredValues property ((name, values) :: rest) =
        (if name = property then values else []) ++ declaredValues property rest := rfl
    rw [split, restValues restDistinct, OrderedMap.find?]
    by_cases same : name = property
    · subst property
      have notLater : OrderedMap.find? name rest = none := by
        rw [Option.eq_none_iff_forall_ne_some]
        intro later found
        have entry := (OrderedMap.find?_eq_some_iff _ _ _ restDistinct).mp found
        exact fresh (List.mem_map.mpr ⟨(name, later), entry, rfl⟩)
      simp [notLater]
    · simp [same]

theorem declaredValues_declarations (catalog : Catalog) (property : String) :
    declaredValues property catalog.declarations = catalog.valuesDeclaredFor property := by
  rw [declaredValues, declarations, valuesDeclaredFor, List.flatMap_assoc]
  congr 1
  funext block
  exact declaredValues_of_distinct property block.properties.keysDistinct

theorem keys_propertyUnion_eq_eraseDups (catalog : Catalog) :
    catalog.propertyUnion.keys = catalog.declaredNames.eraseDups := by
  rw [keys_propertyUnion, mergeValues_nil_eq_eraseDups, map_fst_declarations]

theorem get?_propertyUnion_eq_some_iff (catalog : Catalog) (property : String)
    (values : List String) :
    catalog.propertyUnion.get? property = some values ↔
      property ∈ catalog.declaredNames ∧
        values = (catalog.valuesDeclaredFor property).eraseDups := by
  rw [get?_propertyUnion, mergeValues_nil_eq_eraseDups, map_fst_declarations,
    declaredValues_declarations]
  split
  case isTrue isDeclared => simp [isDeclared, eq_comm]
  case isFalse notDeclared => simp [notDeclared]

/-! ## Growth -/

/-- The second catalog has the blocks of the first under the same keys, and then
perhaps others. -/
def ExtendedBy (catalog grown : Catalog) : Prop :=
  catalog.blocks.entries <+: grown.blocks.entries

theorem ExtendedBy.add (extended : catalog.ExtendedBy grown) {block : Block}
    (newName : block.name ∉ catalog.blocks.keys) : catalog.ExtendedBy (grown.add block) := by
  obtain ⟨more, entries⟩ := extended
  refine ⟨OrderedMap.place block.name block more, ?_⟩
  rw [← OrderedMap.place_append_of_not_mem newName, entries]
  rfl

/-- Blocks with new names stand behind all that were there. -/
theorem extendedBy_foldl_add (added : List Block)
    (newNames : ∀ block ∈ added, block.name ∉ catalog.blocks.keys) :
    catalog.ExtendedBy (added.foldl Catalog.add catalog) := by
  have fromThere (reached : Catalog) (extended : catalog.ExtendedBy reached) :
      catalog.ExtendedBy (added.foldl Catalog.add reached) := by
    induction added generalizing reached with
    | nil => exact extended
    | cons block rest restExtended =>
      obtain ⟨newName, restNew⟩ := List.forall_mem_cons.mp newNames
      exact restExtended restNew _ (extended.add newName)
  exact fromThere catalog (List.prefix_refl _)

namespace ExtendedBy

variable (extended : catalog.ExtendedBy grown)

include extended

theorem values_isPrefix : catalog.blocks.values <+: grown.blocks.values :=
  extended.map Prod.snd

theorem keys_isPrefix : catalog.propertyUnion.keys <+: grown.propertyUnion.keys := by
  rw [keys_propertyUnion_eq_eraseDups, keys_propertyUnion_eq_eraseDups]
  exact eraseDups_isPrefix (flatMap_isPrefix extended.values_isPrefix _)

theorem exists_get?_append {property : String} {values : List String}
    (found : catalog.propertyUnion.get? property = some values) :
    ∃ more, grown.propertyUnion.get? property = some (values ++ more) := by
  obtain ⟨isDeclared, rfl⟩ := (get?_propertyUnion_eq_some_iff _ _ _).mp found
  obtain ⟨more, longer⟩ := eraseDups_isPrefix (flatMap_isPrefix extended.values_isPrefix
    fun block => (block.properties.get? property).getD [])
  refine ⟨more, (get?_propertyUnion_eq_some_iff _ _ _).mpr ⟨?_, longer⟩⟩
  exact (flatMap_isPrefix extended.values_isPrefix _).subset isDeclared

/-- A property keeps its place in the union. -/
theorem exists_getElem?_entries {position : Nat} {property : String} {values : List String}
    (entry : catalog.propertyUnion.entries[position]? = some (property, values)) :
    ∃ more, grown.propertyUnion.entries[position]? = some (property, values ++ more) := by
  obtain ⟨isKey, found⟩ := (OrderedMap.getElem?_entries_eq_some_iff _ _ _ _).mp entry
  obtain ⟨more, wider⟩ := extended.exists_get?_append found
  refine ⟨more, (OrderedMap.getElem?_entries_eq_some_iff _ _ _ _).mpr ⟨?_, wider⟩⟩
  obtain ⟨inside, rfl⟩ := List.getElem?_eq_some_iff.mp isKey
  exact List.prefix_iff_getElem?.mp extended.keys_isPrefix position inside

end ExtendedBy

end Catalog

/-! ## Declarations of a grown catalog -/

/-- What may become of a declaration: an enumeration may take more variants behind
those that it has. -/
inductive PropertyDeclaration.Grows : PropertyDeclaration → PropertyDeclaration → Prop
  | wrapper (rawName typeName : String) :
    Grows (.wrapper rawName typeName) (.wrapper rawName typeName)
  | enumeration (rawName typeName : String) (variants more : List String) :
    Grows (.enumeration rawName typeName variants) (.enumeration rawName typeName (variants ++ more))

theorem PropertyType.grows_ofValues (name : String) {values : List String} (nonempty : values ≠ [])
    (more : List String) :
    (ofValues name values).declaration.Grows (ofValues name (values ++ more)).declaration := by
  have sameKind : ValueKind.ofValues (values ++ more) = ValueKind.ofValues values := by
    cases values with
    | nil => exact absurd rfl nonempty
    | cons first rest => rfl
  unfold declaration
  simp only [ofValues, sameKind]
  cases ValueKind.ofValues values with
  | numeric => exact .wrapper _ _
  | symbolic =>
    simp only [List.map_append]
    exact .enumeration _ _ _ _

/-- The byte of a variant is its place in the one enumeration of its type. -/
theorem FieldValue.code_variant {declarations : List PropertyDeclaration}
    (distinct : (declarations.map PropertyDeclaration.typeName).Nodup)
    {rawName typeName : String} {variants : List String}
    (declared : .enumeration rawName typeName variants ∈ declarations) (variant : String) :
    code declarations typeName (.variant variant) = variants.idxOf variant := by
  induction declarations with
  | nil => cases declared
  | cons first rest restCode =>
    obtain ⟨fresh, restDistinct⟩ := List.nodup_cons.mp distinct
    rw [code, List.findSome?_cons]
    rcases List.mem_cons.mp declared with rfl | later
    · simp
    · have otherType : first.typeName ≠ typeName := fun same =>
        fresh (same ▸ List.mem_map_of_mem later)
      cases first with
      | wrapper => exact restCode restDistinct later
      | enumeration otherRaw otherName otherVariants =>
        have notThis : otherName ≠ typeName := otherType
        simp only [if_neg notThis]
        exact restCode restDistinct later

namespace Layout

variable {catalog grown : Catalog} {layout grownLayout : Layout}

theorem propertyDeclarations_of_ok (laidOut : ofCatalog catalog = .ok layout) :
    layout.propertyDeclarations = catalog.propertyUnion.entries.map fun entry =>
      (PropertyType.ofValues entry.1 entry.2).declaration := by
  obtain ⟨-, rfl⟩ := (ofCatalog_eq_ok_iff catalog layout).mp laidOut
  exact @Catalog.properties_unit catalog .standard

/-- Every variant stands for its place. -/
theorem code_of_variant (laidOut : ofCatalog catalog = .ok layout)
    {rawName typeName : String} {variants : List String}
    (declared : .enumeration rawName typeName variants ∈ layout.propertyDeclarations)
    {place : Nat} {variant : String} (isVariant : variants[place]? = some variant) :
    FieldValue.code layout.propertyDeclarations typeName (.variant variant) = place := by
  obtain ⟨accepted, rfl⟩ := (ofCatalog_eq_ok_iff catalog layout).mp laidOut
  have distinct : ((unchecked catalog catalog.propertyUnion).propertyDeclarations.map
      PropertyDeclaration.typeName).Nodup := by
    have names := (List.nodup_append.mp accepted.names.distinct).2.1
    rw [typeSources, List.map_append] at names
    exact @Catalog.typeNames_properties_unit catalog .standard ▸ (List.nodup_append.mp names).1
  rw [FieldValue.code_variant distinct declared]
  have variantsDistinct : variants.Nodup :=
    @Catalog.Accepted.variants_nodup catalog .standard accepted _ _ _ declared
  obtain ⟨inside, rfl⟩ := List.getElem?_eq_some_iff.mp isVariant
  exact variantsDistinct.idxOf_getElem place inside

theorem exists_grown_declaration (extended : catalog.ExtendedBy grown)
    (laidOut : ofCatalog catalog = .ok layout) (grownLaidOut : ofCatalog grown = .ok grownLayout)
    {position : Nat} {declaration : PropertyDeclaration}
    (declared : layout.propertyDeclarations[position]? = some declaration) :
    ∃ kept, grownLayout.propertyDeclarations[position]? = some kept ∧ declaration.Grows kept := by
  obtain ⟨accepted, -⟩ := (ofCatalog_eq_ok_iff catalog layout).mp laidOut
  rw [propertyDeclarations_of_ok laidOut, List.getElem?_map] at declared
  obtain ⟨⟨name, values⟩, entry, rfl⟩ := Option.map_eq_some_iff.mp declared
  obtain ⟨more, kept⟩ := extended.exists_getElem?_entries entry
  have found := ((OrderedMap.getElem?_entries_eq_some_iff _ _ _ _).mp entry).2
  have nonempty := union_nonempty accepted.blocks found
  refine ⟨_, ?_, PropertyType.grows_ofValues name nonempty more⟩
  rw [propertyDeclarations_of_ok grownLaidOut, List.getElem?_map, kept]
  rfl

end Layout

/-- The property union has the names in the order of their first declarations and
for each name the values in the order of theirs.  A catalog that takes more blocks
at its end keeps the lists of names and values and adds behind them.  If both are
accepted, every property is declared at the same place, by the same kind of type
with the same name, and every variant stands for the same byte. -/
theorem property_union_stable (catalog : Catalog) :
    catalog.propertyUnion.keys =
        (catalog.blocks.values.flatMap fun block => block.properties.keys).eraseDups ∧
      (∀ property values, catalog.propertyUnion.get? property = some values ↔
        (∃ block ∈ catalog.blocks.values, property ∈ block.properties.keys) ∧
          values = (catalog.blocks.values.flatMap fun block =>
            (block.properties.get? property).getD []).eraseDups) ∧
      ∀ grown : Catalog, catalog.ExtendedBy grown →
        catalog.propertyUnion.keys <+: grown.propertyUnion.keys ∧
        (∀ property values, catalog.propertyUnion.get? property = some values →
          ∃ more, grown.propertyUnion.get? property = some (values ++ more)) ∧
        ∀ layout grownLayout : Layout, Layout.ofCatalog catalog = .ok layout →
          Layout.ofCatalog grown = .ok grownLayout →
          (∀ (position : Nat) (declaration : PropertyDeclaration),
            layout.propertyDeclarations[position]? = some declaration →
            ∃ kept, grownLayout.propertyDeclarations[position]? = some kept ∧
              declaration.Grows kept) ∧
          ∀ rawName typeName variants,
            .enumeration rawName typeName variants ∈ layout.propertyDeclarations →
            ∀ place variant, variants[place]? = some variant →
              FieldValue.code layout.propertyDeclarations typeName (.variant variant) = place ∧
              FieldValue.code grownLayout.propertyDeclarations typeName (.variant variant) =
                place := by
  refine ⟨catalog.keys_propertyUnion_eq_eraseDups, ?_, ?_⟩
  · intro property values
    rw [catalog.get?_propertyUnion_eq_some_iff, Catalog.declaredNames, List.mem_flatMap]
    rfl
  · intro grown extended
    refine ⟨extended.keys_isPrefix, fun _ _ => extended.exists_get?_append, ?_⟩
    intro layout grownLayout laidOut grownLaidOut
    refine ⟨fun _ _ => Layout.exists_grown_declaration extended laidOut grownLaidOut, ?_⟩
    intro rawName typeName variants declared place variant isVariant
    refine ⟨Layout.code_of_variant laidOut declared isVariant, ?_⟩
    obtain ⟨position, isPosition⟩ := List.getElem?_of_mem declared
    obtain ⟨kept, isKept, grows⟩ :=
      Layout.exists_grown_declaration extended laidOut grownLaidOut isPosition
    cases grows with
    | enumeration _ _ _ more =>
      refine Layout.code_of_variant grownLaidOut (List.mem_of_getElem? isKept) ?_
      obtain ⟨inside, -⟩ := List.getElem?_eq_some_iff.mp isVariant
      rw [List.getElem?_append_left inside, isVariant]

def sampleLamp : Block :=
  ⟨"lamp", .ofList [("lit", ["dim", "on", "dim"]), ("powered", ["yes"])],
    [⟨4, .ofList [("lit", "dim"), ("powered", "yes")]⟩]⟩

theorem property_union_stable_of_sampleLamp :
    let grown := [sampleLamp].foldl Catalog.add sampleCatalog
    let layout := Layout.unchecked sampleCatalog sampleCatalog.propertyUnion
    let grownLayout := Layout.unchecked grown grown.propertyUnion
    sampleCatalog.ExtendedBy grown ∧
      sampleCatalog.propertyUnion.get? "lit" = some ["on", "off"] ∧
      grown.propertyUnion.get? "lit" = some ["on", "off", "dim"] ∧
      (∃ kept, grownLayout.propertyDeclarations[1]? = some kept ∧
        PropertyDeclaration.Grows (.enumeration "lit" "Lit" ["On", "Off"]) kept) ∧
      FieldValue.code layout.propertyDeclarations "Lit" (.variant "Off") = 1 ∧
      FieldValue.code grownLayout.propertyDeclarations "Lit" (.variant "Off") = 1 := by
  intro grown layout grownLayout
  have extended : sampleCatalog.ExtendedBy grown :=
    Catalog.extendedBy_foldl_add [sampleLamp] (by decide)
  have grownLaidOut : Layout.ofCatalog grown = .ok grownLayout := by decide
  have declared : layout.propertyDeclarations[1]? =
      some (.enumeration "lit" "Lit" ["On", "Off"]) := by
    decide
  obtain ⟨-, -, growth⟩ := property_union_stable sampleCatalog
  obtain ⟨-, -, stable⟩ := growth grown extended
  obtain ⟨places, codes⟩ := stable layout grownLayout ofCatalog_sampleCatalog grownLaidOut
  refine ⟨extended, by decide, by decide +kernel, places 1 _ declared, ?_⟩
  exact codes "lit" "Lit" ["On", "Off"] (List.mem_of_getElem? declared) 1 "Off" rfl

end BlockStates
