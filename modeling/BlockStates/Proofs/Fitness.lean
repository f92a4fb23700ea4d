import BlockStates.Catalog.Check
import BlockStates.Proofs.CheckRuns
import BlockStates.Proofs.OrderedMap

/-!
# Fitness of catalogs

When each check of a catalog succeeds.  `Catalog.Fit` collects what the checks
ask for, in the terms of the checks: names of one scope form a list without
repetition, and so do the combinations of a block.  `Catalog.check_eq_ok_iff`
says that a catalog passes exactly when it is fit.
-/

set_option autoImplicit false

namespace BlockStates

/-! ## Identifiers in a scope -/

namespace Scope

theorem claim_eq_ok_iff (scope next : Scope) (raw identifier : String) :
    scope.claim raw identifier = .ok next ↔
      identifier ∉ scope.taken.keys ∧
        { scope with taken := scope.taken.insert identifier raw } = next := by
  unfold claim
  rw [← OrderedMap.get?_eq_none_iff]
  split
  · next first isTaken => simp [isTaken]
  · next free => simp [free]

theorem claimRaw_eq_ok_iff (scope next : Scope) (raw : String) :
    scope.claimRaw raw = .ok next ↔
      Identifier.isUsable (Identifier.ofRaw raw) = true ∧
        scope.claim raw (Identifier.ofRaw raw) = .ok next := by
  by_cases usable : Identifier.isUsable (Identifier.ofRaw raw) = true
  · simp [claimRaw, usable]
  · simp [claimRaw, usable]

theorem keys_of_claim (scope next : Scope) (raw identifier : String)
    (claimed : scope.claim raw identifier = .ok next) :
    next.taken.keys = scope.taken.keys ++ [identifier] := by
  obtain ⟨free, rfl⟩ := (claim_eq_ok_iff scope next raw identifier).mp claimed
  exact OrderedMap.keys_insert_of_not_mem scope.taken identifier raw free

theorem exists_claim (scope : Scope) (raw identifier : String)
    (free : identifier ∉ scope.taken.keys) : ∃ next, scope.claim raw identifier = .ok next :=
  ⟨_, (claim_eq_ok_iff scope _ raw identifier).mpr ⟨free, rfl⟩⟩

/-- Raw names are let into a scope under the identifiers that they become. -/
theorem admits_claimRaw :
    Admits (fun scope : Scope => scope.taken.keys) (fun raw => some (Identifier.ofRaw raw))
      (fun raw => Identifier.isUsable (Identifier.ofRaw raw) = true) claimRaw where
  sound := by
    intro scope next raw claimed
    obtain ⟨usable, claimed⟩ := (claimRaw_eq_ok_iff scope next raw).mp claimed
    obtain ⟨free, -⟩ := (claim_eq_ok_iff scope next raw _).mp claimed
    refine ⟨usable, ?_, keys_of_claim scope next raw _ claimed⟩
    rintro given ⟨⟩
    exact free
  complete := by
    intro scope raw usable free
    obtain ⟨next, claimed⟩ := exists_claim scope raw _ (free _ rfl)
    exact ⟨next, (claimRaw_eq_ok_iff scope next raw).mpr ⟨usable, claimed⟩⟩

/-- Raw names can all be given identifiers exactly when these are usable and
none is given twice. -/
theorem claimAll_ok_iff (scope : Scope) (raws : List String) :
    (∃ next, scope.claimAll raws = .ok next) ↔
      (∀ raw ∈ raws, Identifier.isUsable (Identifier.ofRaw raw) = true) ∧
        (scope.taken.keys ++ raws.map Identifier.ofRaw).Nodup := by
  rw [claimAll, admits_claimRaw.foldlM_ok_iff raws scope scope.taken.nodup_keys]
  rw [List.filterMap_eq_map']

end Scope

/-! ## Values of a property -/

theorem numericValue?_eq_some_iff (value : String) (number : Nat) :
    numericValue? value = some number ↔
      value.toList ≠ [] ∧ (∀ digit ∈ value.toList, digit.isDigit = true) ∧
        number ≤ 255 ∧ decimalValue value.toList = number := by
  simp only [numericValue?, List.all_eq_true]
  split
  · next number255 =>
    obtain ⟨nonempty, digits, small⟩ := number255
    simp only [Option.some.injEq]
    constructor
    · rintro rfl
      exact ⟨nonempty, digits, small, rfl⟩
    · rintro ⟨-, -, -, same⟩
      exact same
  · next noNumber =>
    simp only [reduceCtorEq, false_iff]
    rintro ⟨nonempty, digits, small, rfl⟩
    exact noNumber ⟨nonempty, digits, small⟩

theorem numericValue?_isSome_iff (value : String) :
    (numericValue? value).isSome = true ↔
      numericValue? value = some (decimalValue value.toList) := by
  rw [Option.isSome_iff_exists]
  constructor
  · rintro ⟨number, found⟩
    obtain ⟨-, -, -, rfl⟩ := (numericValue?_eq_some_iff value number).mp found
    exact found
  · intro found
    exact ⟨_, found⟩

/-- A text of ASCII digits that stands for a number of one byte. -/
structure IsByteNumber (value : String) : Prop where
  nonempty : value ≠ ""
  digits : ∀ character ∈ value.toList, '0' ≤ character ∧ character ≤ '9'
  small : decimalValue value.toList ≤ 255

theorem isByteNumber_iff_numericValue?_isSome (value : String) :
    IsByteNumber value ↔ (numericValue? value).isSome = true := by
  rw [numericValue?_isSome_iff, numericValue?_eq_some_iff]
  have digitIff : ∀ character : Char,
      character.isDigit = true ↔ '0' ≤ character ∧ character ≤ '9' := by
    intro character
    simp only [Char.isDigit, Bool.and_eq_true, decide_eq_true_eq, Char.le_def]
  have emptyIff : value ≠ "" ↔ value.toList ≠ [] := by
    simp
  constructor
  · rintro ⟨nonempty, digits, small⟩
    exact ⟨emptyIff.mp nonempty, fun character member =>
      (digitIff character).mpr (digits character member), small, rfl⟩
  · rintro ⟨nonempty, digits, small, -⟩
    exact ⟨emptyIff.mpr nonempty, fun character member =>
      (digitIff character).mp (digits character member), small⟩

theorem toString_nat_injective : Function.Injective (toString : Nat → String) := by
  intro first second same
  have sameDigits : Nat.toDigits 10 first = Nat.toDigits 10 second := by
    rw [← Nat.toList_repr, ← Nat.toList_repr]
    exact congrArg String.toList same
  rw [← Nat.ofDigitChars_ten_toDigits (n := first), sameDigits, Nat.ofDigitChars_ten_toDigits]

/-- What the values of a property must be like, whatever they are called. -/
structure ValuesFit (values : List String) : Prop where
  nonempty : values ≠ []
  oneKind : ∀ value ∈ values, ValueKind.of value = ValueKind.ofValues values
  numbers : ValueKind.ofValues values = .numeric →
    (∀ value ∈ values, (numericValue? value).isSome = true) ∧
      (values.map fun value => decimalValue value.toList).Nodup

def VariantsFit (values : List String) : Prop :=
  ValueKind.ofValues values = .symbolic →
    (∀ value ∈ values, Identifier.isUsable (Identifier.ofRaw value) = true) ∧
      (values.map Identifier.ofRaw).Nodup

theorem checkNumbers_admits (property : String) :
    Admits (fun scope : Scope => scope.taken.keys)
      (fun value => some (toString (decimalValue value.toList)))
      (fun value => (numericValue? value).isSome = true)
      (fun scope value =>
        match numericValue? value with
        | some number => scope.claim value (toString number)
        | none => .error (Defect.invalidNumber property value)) where
  sound := by
    intro scope next value claimed
    split at claimed
    · next number found =>
      obtain ⟨-, -, -, rfl⟩ := (numericValue?_eq_some_iff value number).mp found
      obtain ⟨free, -⟩ := (Scope.claim_eq_ok_iff scope next value _).mp claimed
      refine ⟨by simp [found], ?_, Scope.keys_of_claim scope next value _ claimed⟩
      rintro given ⟨⟩
      exact free
    · cases claimed
  complete := by
    intro scope value isNumber free
    simp only [(numericValue?_isSome_iff value).mp isNumber]
    exact Scope.exists_claim scope value _ (free _ rfl)

theorem checkNumbers_ok_iff (property : String) (values : List String) :
    (∃ scope, checkNumbers property values = .ok scope) ↔
      (∀ value ∈ values, (numericValue? value).isSome = true) ∧
        (values.map fun value => decimalValue value.toList).Nodup := by
  have run := (checkNumbers_admits property).foldlM_ok_iff values
    (.fresh s!"values of property '{property}'") List.nodup_nil
  have noneTaken : (Scope.fresh s!"values of property '{property}'").taken.keys = [] := rfl
  rw [noneTaken, List.nil_append, List.filterMap_eq_map', ← Function.comp_def toString,
    ← List.map_map, List.nodup_map_iff toString_nat_injective] at run
  exact run

/-- The kinds and numbers of a property are checked by its values alone. -/
theorem checkProperty_eq_ok_iff (property : String) (values : List String) :
    checkProperty property values = .ok () ↔ ValuesFit values := by
  cases values with
  | nil =>
    constructor
    · intro checked
      cases checked
    · intro valuesFit
      exact absurd rfl valuesFit.nonempty
  | cons first rest =>
    unfold checkProperty
    simp only
    split
    · next odd found =>
      constructor
      · intro checked
        cases checked
      · intro valuesFit
        have differs := List.find?_some found
        have member := List.mem_of_find?_eq_some found
        simp [valuesFit.oneKind odd member, ValueKind.ofValues] at differs
    · next sameKinds =>
      have oneKind : ∀ value ∈ first :: rest,
          ValueKind.of value = ValueKind.ofValues (first :: rest) := by
        intro value member
        simpa [ValueKind.ofValues] using List.find?_eq_none.mp sameKinds value member
      split
      · next symbolic =>
        have isSymbolic : ValueKind.ofValues (first :: rest) = .symbolic := symbolic
        exact iff_of_true rfl
          ⟨by simp, oneKind, fun numeric => by simp [isSymbolic] at numeric⟩
      · next numeric =>
        rw [map_eq_ok_iff]
        simp only [and_true]
        rw [checkNumbers_ok_iff]
        exact ⟨fun numbers => ⟨by simp, oneKind, fun _ => numbers⟩,
          fun valuesFit => valuesFit.numbers numeric⟩

/-! ## States of a block -/

theorem Block.isSimple_iff (block : Block) :
    block.isSimple = true ↔ block.properties.keys = [] :=
  OrderedMap.isEmpty_iff_keys_eq_nil block.properties

theorem Block.isSimple_eq_false_iff (block : Block) :
    block.isSimple = false ↔ block.properties.keys ≠ [] := by
  rw [Ne, ← block.isSimple_iff, Bool.not_eq_true]

/-- What a state must be like on its own: it assigns every declared property
one of the declared values, and nothing else. -/
structure StateFit (block : Block) (state : State) : Prop where
  assigns : ∀ entry ∈ block.properties.entries,
    ∃ value ∈ entry.2, state.assignment.get? entry.1 = some value
  onlyDeclared : ∀ property ∈ state.assignment.keys, property ∈ block.properties.keys

structure BlockFit (block : Block) : Prop where
  nonempty : block.states ≠ []
  states : ∀ state ∈ block.states, StateFit block state
  distinct : block.isSimple = false → (block.states.map (combination block)).Nodup

theorem checkAssignment_eq_ok_iff (block : Block) (state : State) (property : String)
    (values : List String) :
    checkAssignment block state property values = .ok () ↔
      ∃ value ∈ values, state.assignment.get? property = some value := by
  unfold checkAssignment
  split
  · next missing => simp [missing]
  · next value assigned =>
    by_cases member : value ∈ values
    · simp [assigned, member]
    · simp [assigned, member]

theorem checkDeclared_eq_ok_iff (block : Block) (state : State) :
    checkDeclared block state = .ok () ↔
      ∀ property ∈ state.assignment.keys, property ∈ block.properties.keys := by
  unfold checkDeclared
  split
  · next property found =>
    have undeclared := List.find?_some found
    have member := List.mem_of_find?_eq_some found
    simp only [reduceCtorEq, false_iff, not_forall]
    refine ⟨property, member, ?_⟩
    rw [← OrderedMap.contains_iff]
    simpa using undeclared
  · next noneFound =>
    simp only [true_iff]
    intro property member
    rw [← OrderedMap.contains_iff]
    simpa using List.find?_eq_none.mp noneFound property member

theorem checkCombination_eq_ok_iff (block : Block) (seen next : Combinations) (state : State) :
    checkCombination block seen state = .ok next ↔
      (block.isSimple = true ∧ seen = next) ∨
        (block.isSimple = false ∧ combination block state ∉ seen.keys ∧
          seen.insert (combination block state) state.id = next) := by
  rw [← OrderedMap.get?_eq_none_iff]
  cases simple : block.isSimple with
  | true => simp [checkCombination, simple]
  | false =>
    cases lookup : seen.get? (combination block state) with
    | some first => simp [checkCombination, simple, lookup]
    | none => simp [checkCombination, simple, lookup]

theorem checkState_eq_ok_iff (block : Block) (seen next : Combinations) (state : State) :
    checkState block seen state = .ok next ↔
      StateFit block state ∧ checkCombination block seen state = .ok next := by
  simp only [checkState, bind_eq_ok_iff, pure_eq_ok_iff, forM_eq_ok_iff,
    checkAssignment_eq_ok_iff]
  have declaredIff := checkDeclared_eq_ok_iff block state
  constructor
  · rintro ⟨_, assigns, after, combined, _, declared, rfl⟩
    exact ⟨⟨assigns, declaredIff.mp declared⟩, combined⟩
  · rintro ⟨stateFit, combined⟩
    exact ⟨(), stateFit.assigns, next, combined, (), declaredIff.mpr stateFit.onlyDeclared, rfl⟩

/-- The states of a block with properties are told apart by their combinations;
those of a block without properties are not. -/
theorem admits_checkState (block : Block) :
    Admits (fun seen : Combinations => seen.keys)
      (fun state => if block.isSimple then none else some (combination block state))
      (StateFit block) (checkState block) where
  sound := by
    intro seen next state checked
    obtain ⟨stateFit, combined⟩ := (checkState_eq_ok_iff block seen next state).mp checked
    refine ⟨stateFit, ?_⟩
    rcases (checkCombination_eq_ok_iff block seen next state).mp combined with
      ⟨simple, rfl⟩ | ⟨composed, unseen, rfl⟩
    · simp [simple]
    · refine ⟨by simpa [composed] using unseen, ?_⟩
      simpa [composed] using OrderedMap.keys_insert_of_not_mem seen _ state.id unseen
  complete := by
    intro seen state stateFit free
    suffices ∃ next, checkCombination block seen state = .ok next by
      obtain ⟨next, combined⟩ := this
      exact ⟨next, (checkState_eq_ok_iff block seen next state).mpr ⟨stateFit, combined⟩⟩
    simp only [checkCombination_eq_ok_iff]
    cases simple : block.isSimple with
    | true => exact ⟨seen, Or.inl ⟨rfl, rfl⟩⟩
    | false =>
      have unseen : combination block state ∉ seen.keys := free _ (by simp [simple])
      exact ⟨_, Or.inr ⟨rfl, unseen, rfl⟩⟩

theorem checkStates_ok_iff (block : Block) (states : List State) :
    (∃ seen, states.foldlM (checkState block) ∅ = .ok seen) ↔
      (∀ state ∈ states, StateFit block state) ∧
        (block.isSimple = false → (states.map (combination block)).Nodup) := by
  rw [(admits_checkState block).foldlM_ok_iff states ∅ List.nodup_nil, OrderedMap.keys_empty,
    List.nil_append]
  cases simple : block.isSimple with
  | true => simp
  | false => simp [List.filterMap_eq_map']

theorem checkBlock_eq_ok_iff (block : Block) : checkBlock block = .ok () ↔ BlockFit block := by
  unfold checkBlock
  cases empty : block.states.isEmpty with
  | true =>
    simp only [if_true, reduceCtorEq, false_iff]
    intro blockFit
    exact blockFit.nonempty (List.isEmpty_iff.mp empty)
  | false =>
    have nonempty : block.states ≠ [] := by simpa using empty
    simp only [Bool.false_eq_true, if_false, map_eq_ok_iff, and_true, checkStates_ok_iff]
    exact ⟨fun checks => ⟨nonempty, checks.1, checks.2⟩,
      fun blockFit => ⟨blockFit.states, blockFit.distinct⟩⟩

theorem map_some_filterMap {Wanted Found : Type} (find : Wanted → Option Found)
    (wanted : List Wanted) (all : ∀ item ∈ wanted, ∃ found, find item = some found) :
    (wanted.filterMap find).map some = wanted.map find := by
  induction wanted with
  | nil => rfl
  | cons item rest restAll =>
    obtain ⟨⟨found, isFound⟩, laterFound⟩ := List.forall_mem_cons.mp all
    simp [isFound, restAll laterFound]

namespace StateFit

variable {block : Block} {state : State}

theorem get?_of_declared (stateFit : StateFit block state) {property : String}
    (declared : property ∈ block.properties.keys) :
    ∃ value, state.assignment.get? property = some value := by
  obtain ⟨entry, member, rfl⟩ := List.mem_map.mp declared
  obtain ⟨value, -, assigned⟩ := stateFit.assigns entry member
  exact ⟨value, assigned⟩

/-- The combination of a fit state gives a value for every declared property. -/
theorem map_some_combination (stateFit : StateFit block state) :
    (combination block state).map some =
      block.properties.keys.map state.assignment.get? :=
  map_some_filterMap state.assignment.get? block.properties.keys
    fun _ declared => stateFit.get?_of_declared declared

/-- Fit states have the same combination exactly when they assign the same,
in whatever order they list it. -/
theorem combination_eq_iff {other : State} (stateFit : StateFit block state)
    (otherFit : StateFit block other) :
    combination block state = combination block other ↔
      ∀ property, state.assignment.get? property = other.assignment.get? property := by
  constructor
  · intro same property
    have sameValues : block.properties.keys.map state.assignment.get? =
        block.properties.keys.map other.assignment.get? := by
      rw [← stateFit.map_some_combination, ← otherFit.map_some_combination, same]
    -- A property that the block does not declare is assigned by neither state.
    by_cases declared : property ∈ block.properties.keys
    · exact List.map_inj_left.mp sameValues property declared
    · have unassigned : state.assignment.get? property = none :=
        (OrderedMap.get?_eq_none_iff _ _).mpr fun assigned =>
          declared (stateFit.onlyDeclared property assigned)
      have otherUnassigned : other.assignment.get? property = none :=
        (OrderedMap.get?_eq_none_iff _ _).mpr fun assigned =>
          declared (otherFit.onlyDeclared property assigned)
      rw [unassigned, otherUnassigned]
  · intro same
    have sameLookups : state.assignment.get? = other.assignment.get? := funext same
    rw [combination, combination, sameLookups]

end StateFit

/-! ## Identifiers of a catalog -/

/-- The raw names that become type names: those of the properties, then those
of the blocks. -/
def typeSources (catalog : Catalog) (properties : Properties) : List String :=
  properties.keys ++ catalog.blocks.keys

def importedNames : List String :=
  ["BlockProperty", "BlockState"]

theorem keys_typeNames : typeNames.taken.keys = importedNames := by
  rfl

theorem checkPropertyNames_eq_ok_iff (types next : Scope) (property : String)
    (values : List String) :
    checkPropertyNames types property values = .ok next ↔
      VariantsFit values ∧ types.claimRaw property = .ok next := by
  unfold checkPropertyNames VariantsFit
  rw [bind_eq_ok_iff]
  cases kind : ValueKind.ofValues values with
  | numeric => simp [pure_eq_ok_iff]
  | symbolic =>
    have variants := (Scope.fresh s!"variants of property '{property}'").claimAll_ok_iff values
    have noneTaken : (Scope.fresh s!"variants of property '{property}'").taken.keys = [] := rfl
    rw [noneTaken, List.nil_append] at variants
    simp only [bind_eq_ok_iff, pure_eq_ok_iff, forall_const, ← variants]
    constructor
    · rintro ⟨claimed, isClaimed, scope, variantsRun, rfl⟩
      exact ⟨⟨scope, variantsRun⟩, isClaimed⟩
    · rintro ⟨⟨scope, variantsRun⟩, claimed⟩
      exact ⟨next, claimed, scope, variantsRun, rfl⟩

theorem admits_checkPropertyNames :
    Admits (fun scope : Scope => scope.taken.keys)
      (fun entry : String × List String => some (Identifier.ofRaw entry.1))
      (fun entry => VariantsFit entry.2 ∧
        Identifier.isUsable (Identifier.ofRaw entry.1) = true)
      (fun types entry => checkPropertyNames types entry.1 entry.2) where
  sound := by
    intro types next entry checked
    obtain ⟨variantsFit, claimed⟩ := (checkPropertyNames_eq_ok_iff _ _ _ _).mp checked
    obtain ⟨usable, free, taking⟩ := Scope.admits_claimRaw.sound claimed
    exact ⟨⟨variantsFit, usable⟩, free, taking⟩
  complete := by
    rintro types entry ⟨variantsFit, usable⟩ free
    obtain ⟨next, claimed⟩ := Scope.admits_claimRaw.complete usable free
    exact ⟨next, (checkPropertyNames_eq_ok_iff _ _ _ _).mpr ⟨variantsFit, claimed⟩⟩

structure NamesFit (catalog : Catalog) (properties : Properties) : Prop where
  variants : ∀ entry ∈ properties.entries, VariantsFit entry.2
  usable : ∀ raw ∈ typeSources catalog properties,
    Identifier.isUsable (Identifier.ofRaw raw) = true
  distinct : (importedNames ++ (typeSources catalog properties).map Identifier.ofRaw).Nodup

theorem checkIdentifiers_ok_iff (catalog : Catalog) (properties : Properties) :
    (∃ scope, checkIdentifiers catalog properties = .ok scope) ↔
      NamesFit catalog properties := by
  have propertyRun := admits_checkPropertyNames.foldlM_ok_iff properties.entries typeNames
    typeNames.taken.nodup_keys
  have propertyNames : properties.entries.filterMap
      (fun entry => some (Identifier.ofRaw entry.1)) = properties.keys.map Identifier.ofRaw := by
    rw [List.filterMap_eq_map', OrderedMap.keys, List.map_map]
    rfl
  rw [propertyNames, keys_typeNames] at propertyRun
  simp only [checkIdentifiers, bind_eq_ok_iff]
  constructor
  · rintro ⟨last, types, run, blockRun⟩
    have taking := admits_checkPropertyNames.taken_foldlM _ _ _ run
    rw [propertyNames, keys_typeNames] at taking
    obtain ⟨entriesFit, -⟩ := propertyRun.mp ⟨types, run⟩
    obtain ⟨blocksUsable, distinct⟩ := (types.claimAll_ok_iff _).mp ⟨last, blockRun⟩
    rw [taking, List.append_assoc, ← List.map_append] at distinct
    refine ⟨fun entry member => (entriesFit entry member).1, ?_, distinct⟩
    intro raw member
    rcases List.mem_append.mp member with isProperty | isBlock
    · obtain ⟨entry, entryMember, rfl⟩ := List.mem_map.mp isProperty
      exact (entriesFit entry entryMember).2
    · exact blocksUsable raw isBlock
  · intro namesFit
    have distinct := namesFit.distinct
    rw [typeSources, List.map_append, ← List.append_assoc] at distinct
    have entriesFit : ∀ entry ∈ properties.entries, VariantsFit entry.2 ∧
        Identifier.isUsable (Identifier.ofRaw entry.1) = true := by
      intro entry member
      refine ⟨namesFit.variants entry member, namesFit.usable entry.1 ?_⟩
      exact List.mem_append_left _ (List.mem_map.mpr ⟨entry, member, rfl⟩)
    obtain ⟨types, run⟩ := propertyRun.mpr ⟨entriesFit, (List.nodup_append.mp distinct).1⟩
    have taking := admits_checkPropertyNames.taken_foldlM _ _ _ run
    rw [propertyNames, keys_typeNames] at taking
    rw [← taking] at distinct
    have blocksUsable : ∀ raw ∈ catalog.blocks.keys,
        Identifier.isUsable (Identifier.ofRaw raw) = true :=
      fun raw member => namesFit.usable raw (List.mem_append_right _ member)
    obtain ⟨last, blockRun⟩ := (types.claimAll_ok_iff _).mpr ⟨blocksUsable, distinct⟩
    exact ⟨last, types, run, blockRun⟩

/-- What a catalog must be like for types to be generated for its blocks and
for these properties. -/
structure Catalog.Fit (catalog : Catalog) (properties : Properties) : Prop where
  values : ∀ entry ∈ properties.entries, ValuesFit entry.2
  blocks : ∀ block ∈ catalog.blocks.values, BlockFit block
  names : NamesFit catalog properties

/-- A catalog passes the check exactly when it is fit. -/
theorem Catalog.check_eq_ok_iff (catalog : Catalog) (properties : Properties) :
    catalog.check properties = .ok () ↔ catalog.Fit properties := by
  simp only [Catalog.check, bind_eq_ok_iff, pure_eq_ok_iff, forM_eq_ok_iff,
    checkProperty_eq_ok_iff, checkBlock_eq_ok_iff]
  have names := checkIdentifiers_ok_iff catalog properties
  constructor
  · rintro ⟨_, values, _, blocks, scope, identifiers, -⟩
    exact ⟨values, blocks, names.mp ⟨scope, identifiers⟩⟩
  · intro catalogFit
    obtain ⟨scope, identifiers⟩ := names.mpr catalogFit.names
    exact ⟨(), catalogFit.values, (), catalogFit.blocks, scope, identifiers, trivial⟩

end BlockStates
