import BlockStates.Catalog.Basic
import BlockStates.Proofs.OrderedMap
import Mathlib.Data.List.Nodup

/-!
# The property union

The union of the properties of a catalog is a function of the declarations of
its blocks, read one after the other: names and values are taken over in order,
and what is known already is left out.  Keys and values are both merged by
`mergeValues`, so that one set of lemmas serves both.
-/

set_option autoImplicit false

namespace BlockStates

/-! ## Merging -/

theorem mergeValues_cons (known : List String) (value : String) (values : List String) :
    mergeValues known (value :: values) =
      mergeValues (if value ∈ known then known else known ++ [value]) values := rfl

theorem mergeValues_append (known first second : List String) :
    mergeValues known (first ++ second) = mergeValues (mergeValues known first) second :=
  List.foldl_append

theorem mem_mergeValues_iff (known values : List String) (wanted : String) :
    wanted ∈ mergeValues known values ↔ wanted ∈ known ∨ wanted ∈ values := by
  induction values generalizing known with
  | nil => simp [mergeValues]
  | cons value rest restMerged =>
    rw [mergeValues_cons, restMerged]
    by_cases isKnown : value ∈ known
    · rw [if_pos isKnown, List.mem_cons]
      constructor
      · rintro (member | member)
        · exact Or.inl member
        · exact Or.inr (Or.inr member)
      · rintro (member | rfl | member)
        · exact Or.inl member
        · exact Or.inl isKnown
        · exact Or.inr member
    · simp [isKnown, or_assoc]

theorem nodup_mergeValues (known values : List String) (distinct : known.Nodup) :
    (mergeValues known values).Nodup := by
  induction values generalizing known with
  | nil => exact distinct
  | cons value rest restDistinct =>
    rw [mergeValues_cons]
    apply restDistinct
    by_cases isKnown : value ∈ known
    · rwa [if_pos isKnown]
    · rw [if_neg isKnown, ← List.concat_eq_append]
      exact distinct.concat isKnown

/-! ## Declarations one after the other -/

def Catalog.declarations (catalog : Catalog) : List (String × List String) :=
  catalog.blocks.values.flatMap fun block => block.properties.entries

def declaredValues (property : String) (declarations : List (String × List String)) :
    List String :=
  declarations.flatMap fun declaration =>
    if declaration.1 = property then declaration.2 else []

theorem mem_declaredValues_iff (property value : String)
    (declarations : List (String × List String)) :
    value ∈ declaredValues property declarations ↔
      ∃ values, (property, values) ∈ declarations ∧ value ∈ values := by
  simp only [declaredValues, List.mem_flatMap]
  constructor
  · rintro ⟨⟨declared, values⟩, declaration, member⟩
    by_cases same : declared = property
    · subst declared
      exact ⟨values, declaration, by simpa using member⟩
    · simp [same] at member
  · rintro ⟨values, declaration, member⟩
    exact ⟨(property, values), declaration, by simpa using member⟩

namespace Properties

def declareList (union : Properties) (declarations : List (String × List String)) : Properties :=
  declarations.foldl (fun union declaration => union.declare declaration.1 declaration.2) union

theorem keys_declare (union : Properties) (property : String) (values : List String) :
    (union.declare property values).keys = mergeValues union.keys [property] :=
  OrderedMap.keys_insert union property _

theorem get?_declare (union : Properties) (property wanted : String) (values : List String) :
    (union.declare property values).get? wanted =
      if property = wanted then some (mergeValues ((union.get? wanted).getD []) values)
      else union.get? wanted := by
  rw [declare, OrderedMap.get?_insert]
  by_cases same : property = wanted
  · simp [same]
  · simp [same]

theorem keys_declareList (union : Properties) (declarations : List (String × List String)) :
    (union.declareList declarations).keys =
      mergeValues union.keys (declarations.map Prod.fst) := by
  induction declarations generalizing union with
  | nil => rfl
  | cons declaration rest restKeys =>
    rw [declareList, List.foldl_cons, ← declareList, restKeys, keys_declare]
    rfl

/-- Declarations add to a property the values that they give it, in order. -/
theorem get?_declareList (union : Properties) (declarations : List (String × List String))
    (wanted : String) :
    (union.declareList declarations).get? wanted =
      if wanted ∈ declarations.map Prod.fst then
        some (mergeValues ((union.get? wanted).getD []) (declaredValues wanted declarations))
      else union.get? wanted := by
  induction declarations generalizing union with
  | nil => rfl
  | cons declaration rest restFound =>
    obtain ⟨property, values⟩ := declaration
    rw [declareList, List.foldl_cons, ← declareList, restFound, get?_declare]
    have split : declaredValues wanted ((property, values) :: rest) =
        (if property = wanted then values else []) ++ declaredValues wanted rest := rfl
    rw [split, mergeValues_append, List.map_cons]
    by_cases same : property = wanted
    · subst property
      by_cases later : wanted ∈ rest.map Prod.fst
      · simp [later]
      · have noValues : declaredValues wanted rest = [] := by
          rw [List.eq_nil_iff_forall_not_mem]
          intro value member
          obtain ⟨laterValues, declaration, -⟩ := (mem_declaredValues_iff _ _ _).mp member
          exact later (List.mem_map_of_mem declaration)
        simp [later, noValues, mergeValues]
    · have wantedLater : wanted ∈ property :: rest.map Prod.fst ↔ wanted ∈ rest.map Prod.fst := by
        simp [Ne.symm same]
      simp only [same, if_false, wantedLater]
      rfl

end Properties

/-! ## The union of a catalog -/

namespace Catalog

theorem propertyUnion_eq_declareList (catalog : Catalog) :
    catalog.propertyUnion = Properties.declareList ∅ catalog.declarations := by
  rw [propertyUnion, Properties.declareList, declarations, List.foldl_flatMap]
  rfl

theorem keys_propertyUnion (catalog : Catalog) :
    catalog.propertyUnion.keys = mergeValues [] (catalog.declarations.map Prod.fst) := by
  rw [propertyUnion_eq_declareList, Properties.keys_declareList, OrderedMap.keys_empty]

theorem get?_propertyUnion (catalog : Catalog) (property : String) :
    catalog.propertyUnion.get? property =
      if property ∈ catalog.declarations.map Prod.fst then
        some (mergeValues [] (declaredValues property catalog.declarations))
      else none := by
  rw [propertyUnion_eq_declareList, Properties.get?_declareList]
  rfl

theorem mem_declarations_iff (catalog : Catalog) (property : String) (values : List String) :
    (property, values) ∈ catalog.declarations ↔
      ∃ block ∈ catalog.blocks.values, block.properties.get? property = some values := by
  simp [declarations, OrderedMap.get?_eq_some_iff]

theorem mem_keys_propertyUnion_iff (catalog : Catalog) (property : String) :
    property ∈ catalog.propertyUnion.keys ↔
      ∃ block ∈ catalog.blocks.values, property ∈ block.properties.keys := by
  rw [keys_propertyUnion, mem_mergeValues_iff]
  simp only [List.not_mem_nil, false_or, List.mem_map, Prod.exists, exists_and_right,
    exists_eq_right, mem_declarations_iff, OrderedMap.mem_keys_iff]
  constructor
  · rintro ⟨values, block, member, found⟩
    exact ⟨block, member, values, found⟩
  · rintro ⟨block, member, values, found⟩
    exact ⟨values, block, member, found⟩

/-- The union gives a property exactly the values that some block declares. -/
theorem mem_propertyUnion_iff (catalog : Catalog) {property : String} {values : List String}
    (found : catalog.propertyUnion.get? property = some values) (value : String) :
    value ∈ values ↔ ∃ block ∈ catalog.blocks.values, ∃ declared,
      block.properties.get? property = some declared ∧ value ∈ declared := by
  rw [get?_propertyUnion] at found
  split at found
  · obtain rfl := Option.some.inj found
    simp only [mem_mergeValues_iff, List.not_mem_nil, false_or, mem_declaredValues_iff,
      mem_declarations_iff]
    constructor
    · rintro ⟨declared, ⟨block, member, isDeclared⟩, isValue⟩
      exact ⟨block, member, declared, isDeclared, isValue⟩
    · rintro ⟨block, member, declared, isDeclared, isValue⟩
      exact ⟨declared, ⟨block, member, isDeclared⟩, isValue⟩
  · cases found

theorem nodup_of_get?_propertyUnion (catalog : Catalog) {property : String}
    {values : List String} (found : catalog.propertyUnion.get? property = some values) :
    values.Nodup := by
  rw [get?_propertyUnion] at found
  split at found
  · obtain rfl := Option.some.inj found
    exact nodup_mergeValues [] _ List.nodup_nil
  · cases found

end Catalog

end BlockStates
