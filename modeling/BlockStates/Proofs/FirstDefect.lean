import BlockStates.Proofs.Validity

/-!
# The defect that is reported

A check that fails reports one defect.  The relations here say, without any scan,
which one it is: what the defect tells about the catalog is so, and everything that
comes before it in the order of the check is free of defects.  The order is that of
the properties, then of the blocks with their states, then of the names.
`check_fails_iff_first_defect` says that a defect is reported exactly if it is the
first one in this sense.
-/

set_option autoImplicit false

namespace BlockStates

/-! ## Defects of the values of a property -/

structure DifferentNumbers (values : List String) : Prop where
  numbers : ∀ value ∈ values, IsByteNumber value
  distinct : (values.map fun value => decimalValue value.toList).Nodup

inductive NumberDefect (property : String) (earlier : List String) (value : String) :
    Defect → Prop where
  | noNumber (noNumber : ¬ IsByteNumber value) :
      NumberDefect property earlier value (.invalidNumber property value)
  | taken {first : String} (isNumber : IsByteNumber value) (isEarlier : first ∈ earlier)
      (same : decimalValue first.toList = decimalValue value.toList) :
      NumberDefect property earlier value
        (.identifierCollision s!"values of property '{property}'"
          (toString (decimalValue value.toList)) first value)

/-- What is wrong with the values of a property.  Kinds come before numbers. -/
inductive ValuesDefect (property : String) (values : List String) : Defect → Prop where
  | noValues (empty : values = []) : ValuesDefect property values (.emptyProperty property)
  | otherKind {first value : String} {rest before after : List String}
      (isFirst : values = first :: rest) (isValue : values = before ++ value :: after)
      (alike : ∀ earlier ∈ before, ValueKind.of earlier = ValueKind.of first)
      (differs : ValueKind.of value ≠ ValueKind.of first) :
      ValuesDefect property values (.mixedKinds property value)
  | number {value : String} {before after : List String} {defect : Defect}
      (numeric : ∀ value ∈ values, ValueKind.of value = .numeric)
      (isValue : values = before ++ value :: after) (earlier : DifferentNumbers before)
      (isDefect : NumberDefect property before value defect) :
      ValuesDefect property values defect

/-! ## Defects of the states of a block -/

def State.AssignsOneOf (state : State) (property : String) (values : List String) : Prop :=
  ∃ value ∈ values, state.assignment.get? property = some value

def State.AgreesOn (first second : State) (properties : List String) : Prop :=
  ∀ property ∈ properties, first.assignment.get? property = second.assignment.get? property

inductive StateDefect (block : Block) (earlier : List State) (state : State) : Defect → Prop where
  | unassigned {property : String} {values : List String}
      {before after : List (String × List String)}
      (isProperty : block.properties.entries = before ++ (property, values) :: after)
      (assigned : ∀ entry ∈ before, state.AssignsOneOf entry.1 entry.2)
      (missing : state.assignment.get? property = none) :
      StateDefect block earlier state (.missingAssignment block.name property state.id)
  | unknown {property value : String} {values : List String}
      {before after : List (String × List String)}
      (isProperty : block.properties.entries = before ++ (property, values) :: after)
      (assigned : ∀ entry ∈ before, state.AssignsOneOf entry.1 entry.2)
      (gives : state.assignment.get? property = some value) (foreign : value ∉ values) :
      StateDefect block earlier state (.unknownValue block.name property value state.id)
  | repeated {first : State}
      (assigned : ∀ entry ∈ block.properties.entries, state.AssignsOneOf entry.1 entry.2)
      (composed : block.properties.keys ≠ []) (isEarlier : first ∈ earlier)
      (agrees : first.AgreesOn state block.properties.keys) :
      StateDefect block earlier state (.duplicateState block.name first.id state.id)
  | undeclared {property : String} {before after : List String}
      (assigned : ∀ entry ∈ block.properties.entries, state.AssignsOneOf entry.1 entry.2)
      (differs : block.properties.keys ≠ [] →
        ∀ first ∈ earlier, ¬ first.AgreesOn state block.properties.keys)
      (isProperty : state.assignment.keys = before ++ property :: after)
      (declared : ∀ name ∈ before, name ∈ block.properties.keys)
      (undeclared : property ∉ block.properties.keys) :
      StateDefect block earlier state (.undeclaredAssignment block.name property state.id)

/-- States without a defect: each is fit for the block, and no two agree on all of its
properties if it has any. -/
structure StatesSound (block : Block) (states : List State) : Prop where
  fit : ∀ state ∈ states, StateFit block state
  differ : block.properties.keys ≠ [] →
    states.Pairwise fun first second => ¬ first.AgreesOn second block.properties.keys

inductive BlockDefect (block : Block) : Defect → Prop where
  | noStates (empty : block.states = []) : BlockDefect block (.emptyStates block.name)
  | state {before after : List State} {state : State} {defect : Defect}
      (isState : block.states = before ++ state :: after) (earlier : StatesSound block before)
      (isDefect : StateDefect block before state defect) : BlockDefect block defect

/-! ## Defects of names -/

structure DifferentNames (raws : List String) : Prop where
  usable : ∀ raw ∈ raws, Identifier.isUsable (Identifier.ofRaw raw) = true
  distinct : (raws.map Identifier.ofRaw).Nodup

inductive NameDefect (scope : String) (earlier : List String) (raw : String) : Defect → Prop where
  | unusable (unusable : Identifier.isUsable (Identifier.ofRaw raw) = false) :
      NameDefect scope earlier raw (.invalidIdentifier raw (Identifier.ofRaw raw))
  | taken {first : String} (usable : Identifier.isUsable (Identifier.ofRaw raw) = true)
      (isEarlier : first ∈ earlier) (same : Identifier.ofRaw first = Identifier.ofRaw raw) :
      NameDefect scope earlier raw
        (.identifierCollision scope (Identifier.ofRaw raw) first raw)

/-- Properties whose names and, where they are symbolic, whose values have no
defect. -/
structure PropertyNamesSound (entries : List (String × List String)) : Prop where
  types : DifferentNames (importedNames ++ entries.map Prod.fst)
  variants : ∀ entry ∈ entries, IsSymbolic entry.2 → DifferentNames entry.2

/-- What is wrong with the names of a catalog: each property comes with its values,
and the keys of the blocks come last. -/
inductive NamesDefect (catalog : Catalog) (properties : Properties) : Defect → Prop where
  | property {property : String} {values : List String} {defect : Defect}
      {before after : List (String × List String)}
      (isProperty : properties.entries = before ++ (property, values) :: after)
      (earlier : PropertyNamesSound before)
      (isDefect : NameDefect "type names" (importedNames ++ before.map Prod.fst) property defect) :
      NamesDefect catalog properties defect
  | variant {property value : String} {values firstValues lastValues : List String}
      {defect : Defect} {before after : List (String × List String)}
      (isProperty : properties.entries = before ++ (property, values) :: after)
      (earlier : PropertyNamesSound before)
      (isType : DifferentNames (importedNames ++ before.map Prod.fst ++ [property]))
      (symbolic : IsSymbolic values) (isValue : values = firstValues ++ value :: lastValues)
      (earlierValues : DifferentNames firstValues)
      (isDefect : NameDefect s!"variants of property '{property}'" firstValues value defect) :
      NamesDefect catalog properties defect
  | block {key : String} {before after : List String} {defect : Defect}
      (earlier : PropertyNamesSound properties.entries)
      (isKey : catalog.blocks.keys = before ++ key :: after)
      (earlierKeys : DifferentNames (importedNames ++ properties.keys ++ before))
      (isDefect : NameDefect "type names" (importedNames ++ properties.keys ++ before) key defect) :
      NamesDefect catalog properties defect

/-! ## The first defect of a catalog -/

structure ValuesSound (values : List String) : Prop where
  nonempty : values ≠ []
  oneKind : ∀ first ∈ values, ∀ second ∈ values, ValueKind.of first = ValueKind.of second
  numbers : ¬ IsSymbolic values → DifferentNumbers values

inductive Catalog.FirstDefect (catalog : Catalog) (properties : Properties) : Defect → Prop where
  | values {property : String} {values : List String} {defect : Defect}
      {before after : List (String × List String)}
      (isProperty : properties.entries = before ++ (property, values) :: after)
      (earlier : ∀ entry ∈ before, ValuesSound entry.2)
      (isDefect : ValuesDefect property values defect) : FirstDefect catalog properties defect
  | block {block : Block} {before after : List Block} {defect : Defect}
      (valuesSound : ∀ entry ∈ properties.entries, ValuesSound entry.2)
      (isBlock : catalog.blocks.values = before ++ block :: after)
      (earlier : ∀ earlier ∈ before, earlier.Valid) (isDefect : BlockDefect block defect) :
      FirstDefect catalog properties defect
  | names {defect : Defect} (valuesSound : ∀ entry ∈ properties.entries, ValuesSound entry.2)
      (blocksValid : ∀ block ∈ catalog.blocks.values, block.Valid)
      (isDefect : NamesDefect catalog properties defect) : FirstDefect catalog properties defect

/-! ## Scopes -/

/-- A scope of a title in which some raw names have been given identifiers. -/
structure Scope.Holds (identify : String → String) (title : String) (raws : List String)
    (scope : Scope) : Prop where
  isTitle : scope.title = title
  isTaken : scope.taken.entries = raws.map fun raw => (identify raw, raw)

namespace Scope.Holds

variable {identify : String → String} {title : String} {raws : List String} {scope next : Scope}

theorem fresh : (Scope.fresh title).Holds identify title [] :=
  ⟨rfl, rfl⟩

theorem claim (holds : scope.Holds identify title raws) {raw : String}
    (claimed : scope.claim raw (identify raw) = .ok next) :
    next.Holds identify title (raws ++ [raw]) := by
  obtain ⟨free, rfl⟩ := (claim_eq_ok_iff scope next raw (identify raw)).mp claimed
  refine ⟨holds.isTitle, ?_⟩
  have placed : (scope.taken.insert (identify raw) raw).entries =
      scope.taken.entries ++ [(identify raw, raw)] := OrderedMap.place_of_not_mem free raw
  rw [placed, holds.isTaken, List.map_append]
  rfl

theorem claim_eq_error_iff (holds : scope.Holds identify title raws) (raw : String)
    (defect : Defect) :
    scope.claim raw (identify raw) = .error defect ↔
      ∃ first ∈ raws, identify first = identify raw ∧
        Defect.identifierCollision title (identify raw) first raw = defect := by
  have takenIff (first : String) : scope.taken.get? (identify raw) = some first ↔
      first ∈ raws ∧ identify first = identify raw := by
    rw [OrderedMap.get?_eq_some_iff, holds.isTaken, List.mem_map]
    constructor
    · rintro ⟨earlier, member, same⟩
      obtain ⟨sameIdentifier, rfl⟩ := Prod.mk.inj same
      exact ⟨member, sameIdentifier⟩
    · rintro ⟨member, same⟩
      exact ⟨first, member, Prod.ext same rfl⟩
  unfold Scope.claim
  rw [holds.isTitle]
  cases lookup : scope.taken.get? (identify raw) with
  | none =>
    simp only [reduceCtorEq, false_iff]
    rintro ⟨first, member, same, -⟩
    rw [(takenIff first).mpr ⟨member, same⟩] at lookup
    cases lookup
  | some first =>
    obtain ⟨member, same⟩ := (takenIff first).mp lookup
    simp only [Except.error.injEq]
    constructor
    · intro isDefect
      exact ⟨first, member, same, isDefect⟩
    · rintro ⟨other, otherMember, otherSame, isDefect⟩
      have found := (takenIff other).mpr ⟨otherMember, otherSame⟩
      rw [lookup] at found
      rwa [Option.some.inj found]

theorem claimRaw (holds : scope.Holds Identifier.ofRaw title raws) {raw : String}
    (claimed : scope.claimRaw raw = .ok next) :
    next.Holds Identifier.ofRaw title (raws ++ [raw]) :=
  holds.claim ((claimRaw_eq_ok_iff scope next raw).mp claimed).2

theorem claimAll (holds : scope.Holds Identifier.ofRaw title raws) {more : List String}
    (claimed : scope.claimAll more = .ok next) :
    next.Holds Identifier.ofRaw title (raws ++ more) :=
  reached_foldlM (fun _ _ _ _ holds claimed => holds.claimRaw claimed) more raws scope next holds
    claimed

theorem claimRaw_eq_error_iff (holds : scope.Holds Identifier.ofRaw title raws) (raw : String)
    (defect : Defect) : scope.claimRaw raw = .error defect ↔ NameDefect title raws raw defect := by
  cases usable : Identifier.isUsable (Identifier.ofRaw raw) with
  | false =>
    have refused : scope.claimRaw raw =
        .error (.invalidIdentifier raw (Identifier.ofRaw raw)) := if_neg (by simp [usable])
    rw [refused, Except.error.injEq]
    constructor
    · rintro rfl
      exact .unusable usable
    · intro isDefect
      cases isDefect with
      | unusable => rfl
      | taken isUsable => cases usable.symm.trans isUsable
  | true =>
    have claims : scope.claimRaw raw = scope.claim raw (Identifier.ofRaw raw) := if_pos usable
    rw [claims, holds.claim_eq_error_iff]
    constructor
    · rintro ⟨first, member, same, rfl⟩
      exact .taken usable member same
    · intro isDefect
      cases isDefect with
      | unusable unusable => cases usable.symm.trans unusable
      | taken _ member same => exact ⟨_, member, same, rfl⟩

theorem keys_eq (holds : scope.Holds Identifier.ofRaw title raws) :
    scope.taken.keys = raws.map Identifier.ofRaw := by
  rw [OrderedMap.keys, holds.isTaken, List.map_map]
  rfl

theorem claimAll_ok_iff (holds : scope.Holds Identifier.ofRaw title raws)
    (sound : DifferentNames raws) (more : List String) :
    (∃ next, scope.claimAll more = .ok next) ↔ DifferentNames (raws ++ more) := by
  rw [scope.claimAll_ok_iff, holds.keys_eq, ← List.map_append]
  constructor
  · rintro ⟨usable, distinct⟩
    exact ⟨List.forall_mem_append.mpr ⟨sound.usable, usable⟩, distinct⟩
  · rintro ⟨usable, distinct⟩
    exact ⟨(List.forall_mem_append.mp usable).2, distinct⟩

/-- Names are refused at the first one that is unusable or taken. -/
theorem claimAll_eq_error_iff (holds : scope.Holds Identifier.ofRaw title raws)
    (sound : DifferentNames raws) (more : List String) (defect : Defect) :
    scope.claimAll more = .error defect ↔
      ∃ before raw after, more = before ++ raw :: after ∧ DifferentNames (raws ++ before) ∧
        NameDefect title (raws ++ before) raw defect := by
  unfold Scope.claimAll
  rw [foldlM_eq_error_iff]
  constructor
  · rintro ⟨before, raw, after, reached, split, run, refused⟩
    have reachedHolds := holds.claimAll run
    exact ⟨before, raw, after, split, (holds.claimAll_ok_iff sound before).mp ⟨reached, run⟩,
      (reachedHolds.claimRaw_eq_error_iff raw defect).mp refused⟩
  · rintro ⟨before, raw, after, split, different, isDefect⟩
    obtain ⟨reached, run⟩ := (holds.claimAll_ok_iff sound before).mpr different
    have reachedHolds := holds.claimAll run
    exact ⟨before, raw, after, reached, split, run,
      (reachedHolds.claimRaw_eq_error_iff raw defect).mpr isDefect⟩

end Scope.Holds

/-! ## Values -/

theorem differentNumbers_iff (values : List String) :
    DifferentNumbers values ↔
      (∀ value ∈ values, (numericValue? value).isSome = true) ∧
        (values.map fun value => decimalValue value.toList).Nodup := by
  simp only [← isByteNumber_iff_numericValue?_isSome]
  exact ⟨fun different => ⟨different.numbers, different.distinct⟩,
    fun ⟨numbers, distinct⟩ => ⟨numbers, distinct⟩⟩

theorem numericValue?_eq_none_iff (value : String) :
    numericValue? value = none ↔ ¬ IsByteNumber value := by
  rw [isByteNumber_iff_numericValue?_isSome, ← Option.not_isSome_iff_eq_none]

def numberName (value : String) : String :=
  toString (decimalValue value.toList)

def Scope.claimNumber (property : String) (scope : Scope) (value : String) :
    Except Defect Scope :=
  match numericValue? value with
  | some number => scope.claim value (toString number)
  | none => .error (.invalidNumber property value)

namespace Scope.Holds

variable {property title value : String} {raws : List String} {scope next : Scope}

theorem claimNumber (holds : scope.Holds numberName title raws)
    (claimed : scope.claimNumber property value = .ok next) :
    next.Holds numberName title (raws ++ [value]) := by
  unfold Scope.claimNumber at claimed
  split at claimed
  · next number found =>
    obtain ⟨-, -, -, rfl⟩ := (numericValue?_eq_some_iff value number).mp found
    exact holds.claim claimed
  · cases claimed

theorem claimNumber_eq_error_iff
    (holds : scope.Holds numberName s!"values of property '{property}'" raws) (defect : Defect) :
    scope.claimNumber property value = .error defect ↔
      NumberDefect property raws value defect := by
  unfold Scope.claimNumber
  cases found : numericValue? value with
  | none =>
    have noNumber := (numericValue?_eq_none_iff value).mp found
    constructor
    · rintro ⟨⟩
      exact .noNumber noNumber
    · intro isDefect
      cases isDefect with
      | noNumber => rfl
      | taken isNumber => exact absurd isNumber noNumber
  | some number =>
    obtain ⟨-, -, -, rfl⟩ := (numericValue?_eq_some_iff value number).mp found
    have isNumber : IsByteNumber value :=
      (isByteNumber_iff_numericValue?_isSome value).mpr (by rw [found]; rfl)
    have claims := holds.claim_eq_error_iff value defect
    refine claims.trans ?_
    constructor
    · rintro ⟨first, member, same, rfl⟩
      exact .taken isNumber member (toString_nat_injective same)
    · intro isDefect
      cases isDefect with
      | noNumber noNumber => exact absurd isNumber noNumber
      | taken _ member same => exact ⟨_, member, congrArg toString same, rfl⟩

end Scope.Holds

theorem checkNumbers_eq_error_iff (property : String) (values : List String) (defect : Defect) :
    checkNumbers property values = .error defect ↔
      ∃ before value after, values = before ++ value :: after ∧ DifferentNumbers before ∧
        NumberDefect property before value defect := by
  have asFold (values : List String) : checkNumbers property values =
      values.foldlM (Scope.claimNumber property) (.fresh s!"values of property '{property}'") := rfl
  have differentIff (values : List String) :
      (∃ scope, checkNumbers property values = .ok scope) ↔ DifferentNumbers values :=
    (checkNumbers_ok_iff property values).trans (differentNumbers_iff values).symm
  have reached {before : List String} {scope : Scope}
      (run : checkNumbers property before = .ok scope) :
      scope.Holds numberName s!"values of property '{property}'" before :=
    reached_foldlM (fun _ _ _ _ holds claimed => holds.claimNumber claimed) before [] _ scope
      .fresh ((asFold before).symm.trans run)
  rw [asFold, foldlM_eq_error_iff]
  constructor
  · rintro ⟨before, value, after, scope, split, run, refused⟩
    exact ⟨before, value, after, split, (differentIff before).mp ⟨scope, run⟩,
      ((reached run).claimNumber_eq_error_iff defect).mp refused⟩
  · rintro ⟨before, value, after, split, different, isDefect⟩
    obtain ⟨scope, run⟩ := (differentIff before).mpr different
    exact ⟨before, value, after, scope, split, run,
      ((reached run).claimNumber_eq_error_iff defect).mpr isDefect⟩

/-- Behind values of one kind, a value of another kind is the one defect. -/
theorem valuesDefect_iff_of_otherKind {property first value : String}
    {rest before after : List String} (isValue : first :: rest = before ++ value :: after)
    (alike : ∀ earlier ∈ before, ValueKind.of earlier = ValueKind.of first)
    (differs : ValueKind.of value ≠ ValueKind.of first) (defect : Defect) :
    ValuesDefect property (first :: rest) defect ↔ defect = .mixedKinds property value := by
  have isFound {before after : List String} {value : String}
      (isValue : first :: rest = before ++ value :: after)
      (alike : ∀ earlier ∈ before, ValueKind.of earlier = ValueKind.of first)
      (differs : ValueKind.of value ≠ ValueKind.of first) :
      (first :: rest).find? (fun value => ValueKind.of value != ValueKind.of first) = some value :=
    find?_eq_some_iff_first.mpr
      ⟨before, after, isValue, by simpa using alike, by simpa using differs⟩
  constructor
  · intro isDefect
    cases isDefect with
    | noValues empty => cases empty
    | otherKind isFirst isOther otherAlike otherDiffers =>
      obtain ⟨rfl, rfl⟩ := List.cons.inj isFirst
      have otherFound := isFound isOther otherAlike otherDiffers
      rw [Option.some.inj (otherFound.symm.trans (isFound isValue alike differs))]
    | number numeric =>
      have numericValue := numeric value (by simp [isValue])
      exact absurd (numericValue.trans (numeric first List.mem_cons_self).symm) differs
  · rintro rfl
    exact .otherKind rfl isValue alike differs

/-- Values of one kind have no defect but as numbers. -/
theorem valuesDefect_iff_of_alike {property first : String} {rest : List String}
    (alike : ∀ value ∈ first :: rest, ValueKind.of value = ValueKind.of first) (defect : Defect) :
    ValuesDefect property (first :: rest) defect ↔
      ValueKind.of first = .numeric ∧
        ∃ before value after, first :: rest = before ++ value :: after ∧
          DifferentNumbers before ∧ NumberDefect property before value defect := by
  constructor
  · intro isDefect
    cases isDefect with
    | noValues empty => cases empty
    | otherKind isFirst isValue _ differs =>
      obtain ⟨rfl, rfl⟩ := List.cons.inj isFirst
      exact absurd (alike _ (by simp [isValue])) differs
    | number numeric isValue different isDefect =>
      exact ⟨numeric first List.mem_cons_self, _, _, _, isValue, different, isDefect⟩
  · rintro ⟨numeric, before, value, after, isValue, different, isDefect⟩
    exact .number (fun value member => (alike value member).trans numeric) isValue different
      isDefect

theorem checkProperty_eq_error_iff (property : String) (values : List String) (defect : Defect) :
    checkProperty property values = .error defect ↔ ValuesDefect property values defect := by
  cases values with
  | nil =>
    simp only [checkProperty, Except.error.injEq]
    constructor
    · rintro rfl
      exact .noValues rfl
    · intro isDefect
      cases isDefect with
      | noValues => rfl
      | otherKind isFirst => cases isFirst
      | number _ isValue => simp at isValue
  | cons first rest =>
    cases odd : (first :: rest).find? fun value => ValueKind.of value != ValueKind.of first with
    | some value =>
      obtain ⟨before, after, isValue, alike, differs⟩ := find?_eq_some_iff_first.mp odd
      rw [valuesDefect_iff_of_otherKind isValue (by simpa using alike) (by simpa using differs)]
      simp only [checkProperty, odd, Except.error.injEq]
      exact eq_comm
    | none =>
      have alike : ∀ value ∈ first :: rest, ValueKind.of value = ValueKind.of first := by
        intro value member
        simpa using List.find?_eq_none.mp odd value member
      rw [valuesDefect_iff_of_alike alike]
      simp only [checkProperty, odd]
      cases kind : ValueKind.of first with
      | symbolic => simp
      | numeric => simp only [map_eq_error_iff, checkNumbers_eq_error_iff, true_and]

/-! ## States -/

theorem checkAssignment_eq_error_iff (block : Block) (state : State) (property : String)
    (values : List String) (defect : Defect) :
    checkAssignment block state property values = .error defect ↔
      (state.assignment.get? property = none ∧
        Defect.missingAssignment block.name property state.id = defect) ∨
      ∃ value, state.assignment.get? property = some value ∧ value ∉ values ∧
        Defect.unknownValue block.name property value state.id = defect := by
  unfold checkAssignment
  cases gives : state.assignment.get? property with
  | none => simp
  | some value =>
    by_cases declared : value ∈ values
    · simp [declared]
    · simp [declared]

theorem checkDeclared_eq_error_iff (block : Block) (state : State) (defect : Defect) :
    checkDeclared block state = .error defect ↔
      ∃ before property after, state.assignment.keys = before ++ property :: after ∧
        (∀ name ∈ before, name ∈ block.properties.keys) ∧ property ∉ block.properties.keys ∧
        Defect.undeclaredAssignment block.name property state.id = defect := by
  have undeclaredIff (property : String) :
      state.assignment.keys.find? (fun name => !block.properties.contains name) = some property ↔
        ∃ before after, state.assignment.keys = before ++ property :: after ∧
          (∀ name ∈ before, name ∈ block.properties.keys) ∧
            property ∉ block.properties.keys := by
    simp only [find?_eq_some_iff_first, Bool.not_eq_eq_eq_not, Bool.not_true,
      OrderedMap.contains_iff, ← Bool.not_eq_true, not_not]
  unfold checkDeclared
  constructor
  · intro refused
    split at refused
    · next property found =>
      cases refused
      obtain ⟨before, after, split, declared, undeclared⟩ := (undeclaredIff property).mp found
      exact ⟨before, property, after, split, declared, undeclared, rfl⟩
    · cases refused
  · rintro ⟨before, property, after, split, declared, undeclared, rfl⟩
    simp only [(undeclaredIff property).mpr ⟨before, after, split, declared, undeclared⟩]

def combinationsOf (block : Block) (states : List State) : List (List String × UInt16) :=
  if block.isSimple then [] else states.map fun state => (combination block state, state.id)

/-- States that assign all declared properties have the same combination exactly if
they agree on these properties. -/
theorem combination_eq_iff_agreesOn {block : Block} {first second : State}
    (firstAssigns : ∀ entry ∈ block.properties.entries, first.AssignsOneOf entry.1 entry.2)
    (secondAssigns : ∀ entry ∈ block.properties.entries, second.AssignsOneOf entry.1 entry.2) :
    combination block first = combination block second ↔
      first.AgreesOn second block.properties.keys := by
  have assigned {state : State}
      (assigns : ∀ entry ∈ block.properties.entries, state.AssignsOneOf entry.1 entry.2) :
      (combination block state).map some =
        block.properties.keys.map state.assignment.get? := by
    apply map_some_filterMap
    intro property declared
    obtain ⟨entry, member, rfl⟩ := List.mem_map.mp declared
    obtain ⟨value, -, gives⟩ := assigns entry member
    exact ⟨value, gives⟩
  have injective : Function.Injective (some : String → Option String) := fun _ _ => Option.some.inj
  rw [← (List.map_injective_iff.mpr injective).eq_iff, assigned firstAssigns,
    assigned secondAssigns, List.map_inj_left]
  rfl

section Seen

variable {block : Block} {earlier : List State} {seen : Combinations} {state : State}
  (isSeen : seen.entries = combinationsOf block earlier)
  (earlierAssigns : ∀ first ∈ earlier, ∀ entry ∈ block.properties.entries,
    first.AssignsOneOf entry.1 entry.2)
  (assigns : ∀ entry ∈ block.properties.entries, state.AssignsOneOf entry.1 entry.2)

include isSeen earlierAssigns assigns

theorem get?_combination_iff (composed : block.isSimple = false) (id : UInt16) :
    seen.get? (combination block state) = some id ↔
      ∃ first ∈ earlier, first.AgreesOn state block.properties.keys ∧ first.id = id := by
  rw [OrderedMap.get?_eq_some_iff, isSeen, combinationsOf, if_neg (by simp [composed]),
    List.mem_map]
  constructor
  · rintro ⟨first, member, same⟩
    obtain ⟨sameCombination, sameId⟩ := Prod.mk.inj same
    have agrees :=
      (combination_eq_iff_agreesOn (earlierAssigns first member) assigns).mp sameCombination
    exact ⟨first, member, agrees, sameId⟩
  · rintro ⟨first, member, agrees, sameId⟩
    have sameCombination :=
      (combination_eq_iff_agreesOn (earlierAssigns first member) assigns).mpr agrees
    exact ⟨first, member, Prod.ext sameCombination sameId⟩

theorem checkCombination_eq_error_iff (defect : Defect) :
    checkCombination block seen state = .error defect ↔
      block.properties.keys ≠ [] ∧ ∃ first ∈ earlier,
        first.AgreesOn state block.properties.keys ∧
          Defect.duplicateState block.name first.id state.id = defect := by
  cases simple : block.isSimple with
  | true =>
    have noKeys := block.isSimple_iff.mp simple
    simp [checkCombination, simple, noKeys]
  | false =>
    have someKeys := block.isSimple_eq_false_iff.mp simple
    have seenIff := get?_combination_iff isSeen earlierAssigns assigns simple
    unfold checkCombination
    rw [if_neg (by simp [simple])]
    constructor
    · intro refused
      split at refused
      · next id found =>
        cases refused
        obtain ⟨first, member, agrees, rfl⟩ := (seenIff id).mp found
        exact ⟨someKeys, first, member, agrees, rfl⟩
      · cases refused
    · rintro ⟨-, first, member, agrees, rfl⟩
      simp only [(seenIff first.id).mpr ⟨first, member, agrees, rfl⟩]

end Seen

theorem checkState_eq_error_iff {block : Block} {earlier : List State} {seen : Combinations}
    (isSeen : seen.entries = combinationsOf block earlier)
    (earlierAssigns : ∀ first ∈ earlier, ∀ entry ∈ block.properties.entries,
      first.AssignsOneOf entry.1 entry.2) (state : State) (defect : Defect) :
    checkState block seen state = .error defect ↔ StateDefect block earlier state defect := by
  have repeatedIff
      (assigns : ∀ entry ∈ block.properties.entries, state.AssignsOneOf entry.1 entry.2) :=
    checkCombination_eq_error_iff isSeen earlierAssigns assigns
  simp only [checkState, bind_eq_error_iff, forM_eq_error_iff, forM_eq_ok_iff,
    checkAssignment_eq_error_iff, checkAssignment_eq_ok_iff, checkDeclared_eq_error_iff]
  constructor
  · rintro (⟨before, ⟨property, values⟩, after, split, assigned, refused⟩ |
      ⟨-, assigned, refused | ⟨next, combined, refused⟩⟩)
    · rcases refused with ⟨missing, rfl⟩ | ⟨value, gives, foreign, rfl⟩
      · exact .unassigned split assigned missing
      · exact .unknown split assigned gives foreign
    · obtain ⟨composed, first, member, agrees, rfl⟩ := (repeatedIff assigned defect).mp refused
      exact .repeated assigned composed member agrees
    · rcases refused with ⟨before, property, after, split, declared, undeclared, rfl⟩ |
        ⟨-, -, refused⟩
      · refine .undeclared assigned ?_ split declared undeclared
        intro composed first member agrees
        have refused := (repeatedIff assigned _).mpr ⟨composed, first, member, agrees, rfl⟩
        cases combined.symm.trans refused
      · cases refused
  · intro isDefect
    cases isDefect with
    | unassigned split assigned missing =>
      exact Or.inl ⟨_, _, _, split, assigned, Or.inl ⟨missing, rfl⟩⟩
    | unknown split assigned gives foreign =>
      exact Or.inl ⟨_, _, _, split, assigned, Or.inr ⟨_, gives, foreign, rfl⟩⟩
    | repeated assigned composed member agrees =>
      have refused := (repeatedIff assigned _).mpr ⟨composed, _, member, agrees, rfl⟩
      exact Or.inr ⟨(), assigned, Or.inl refused⟩
    | undeclared assigned differs split declared undeclared =>
      cases combined : checkCombination block seen state with
      | ok next =>
        exact Or.inr ⟨(), assigned, Or.inr ⟨next, rfl,
          Or.inl ⟨_, _, _, split, declared, undeclared, rfl⟩⟩⟩
      | error refusal =>
        obtain ⟨composed, first, member, agrees, -⟩ := (repeatedIff assigned refusal).mp combined
        exact absurd agrees (differs composed first member)

/-! ## Blocks -/

theorem combinationsOf_checkState {block : Block} (before : List State)
    (seen : Combinations) (state : State) (next : Combinations)
    (isSeen : seen.entries = combinationsOf block before)
    (checked : checkState block seen state = .ok next) :
    next.entries = combinationsOf block (before ++ [state]) := by
  obtain ⟨-, combined⟩ := (checkState_eq_ok_iff block seen next state).mp checked
  rcases (checkCombination_eq_ok_iff block seen next state).mp combined with
    ⟨simple, rfl⟩ | ⟨composed, unseen, rfl⟩
  · rw [isSeen]
    simp [combinationsOf, simple]
  · have placed : (seen.insert (combination block state) state.id).entries =
        seen.entries ++ [(combination block state, state.id)] :=
      OrderedMap.place_of_not_mem unseen state.id
    rw [placed, isSeen]
    simp [combinationsOf, composed]

/-- After a run over some states exactly their combinations have been seen. -/
theorem combinationsOf_checkStates {block : Block} {states : List State} {seen : Combinations}
    (run : states.foldlM (checkState block) ∅ = .ok seen) :
    seen.entries = combinationsOf block states :=
  reached_foldlM combinationsOf_checkState states [] ∅ seen (by simp [combinationsOf]) run

theorem statesSound_iff_checked (block : Block) (states : List State) :
    StatesSound block states ↔ ∃ seen, states.foldlM (checkState block) ∅ = .ok seen := by
  have distinctIff (fit : ∀ state ∈ states, StateFit block state) :
      (states.map (combination block)).Nodup ↔
        states.Pairwise fun first second => ¬ first.AgreesOn second block.properties.keys := by
    rw [List.Nodup, List.pairwise_map]
    apply List.Pairwise.iff_of_mem
    intro first second firstMember secondMember
    exact not_congr (combination_eq_iff_agreesOn (fit first firstMember).assigns
      (fit second secondMember).assigns)
  rw [checkStates_ok_iff, block.isSimple_eq_false_iff]
  constructor
  · intro sound
    exact ⟨sound.fit, fun composed => (distinctIff sound.fit).mpr (sound.differ composed)⟩
  · rintro ⟨fit, distinct⟩
    exact ⟨fit, fun composed => (distinctIff fit).mp (distinct composed)⟩

theorem checkBlock_eq_error_iff (block : Block) (defect : Defect) :
    checkBlock block = .error defect ↔ BlockDefect block defect := by
  unfold checkBlock
  cases empty : block.states with
  | nil =>
    simp only [List.isEmpty_nil, if_true, Except.error.injEq]
    constructor
    · rintro rfl
      exact .noStates empty
    · intro isDefect
      cases isDefect with
      | noStates => rfl
      | state isState => simp [empty] at isState
  | cons head tail =>
    rw [if_neg (by simp), map_eq_error_iff, foldlM_eq_error_iff, ← empty]
    constructor
    · rintro ⟨before, state, after, seen, split, run, refused⟩
      have sound := (statesSound_iff_checked block before).mpr ⟨seen, run⟩
      have earlierAssigns := fun first member => (sound.fit first member).assigns
      have isDefect := (checkState_eq_error_iff (combinationsOf_checkStates run) earlierAssigns
        state defect).mp refused
      exact .state split sound isDefect
    · intro isDefect
      cases isDefect with
      | noStates noStates => cases empty.symm.trans noStates
      | @state before after state _ split sound isDefect =>
        obtain ⟨seen, run⟩ := (statesSound_iff_checked block before).mp sound
        have earlierAssigns := fun first member => (sound.fit first member).assigns
        have refused := (checkState_eq_error_iff (combinationsOf_checkStates run) earlierAssigns
          state defect).mpr isDefect
        exact ⟨before, state, after, seen, split, run, refused⟩

/-! ## Names -/

theorem differentNames_importedNames : DifferentNames importedNames :=
  ⟨by decide +kernel, by decide +kernel⟩

theorem holds_typeNames : typeNames.Holds Identifier.ofRaw "type names" importedNames :=
  ⟨rfl, by decide +kernel⟩

theorem variantsFit_iff (values : List String) :
    VariantsFit values ↔ (IsSymbolic values → DifferentNames values) := by
  rw [VariantsFit, isSymbolic_iff_kind]
  exact ⟨fun fit symbolic => ⟨(fit symbolic).1, (fit symbolic).2⟩,
    fun different symbolic => ⟨(different symbolic).usable, (different symbolic).distinct⟩⟩

def checkNamesOf (entries : List (String × List String)) : Except Defect Scope :=
  entries.foldlM (fun types entry => checkPropertyNames types entry.1 entry.2) typeNames

theorem holds_checkPropertyNames (before : List (String × List String)) (types : Scope)
    (entry : String × List String) (next : Scope)
    (holds : types.Holds Identifier.ofRaw "type names" (importedNames ++ before.map Prod.fst))
    (checked : checkPropertyNames types entry.1 entry.2 = .ok next) :
    next.Holds Identifier.ofRaw "type names"
      (importedNames ++ (before ++ [entry]).map Prod.fst) := by
  obtain ⟨-, claimed⟩ := (checkPropertyNames_eq_ok_iff types next entry.1 entry.2).mp checked
  rw [List.map_append, ← List.append_assoc]
  exact holds.claimRaw claimed

theorem holds_checkNamesOf {entries : List (String × List String)} {types : Scope}
    (run : checkNamesOf entries = .ok types) :
    types.Holds Identifier.ofRaw "type names" (importedNames ++ entries.map Prod.fst) :=
  reached_foldlM holds_checkPropertyNames entries [] typeNames types
    (by simpa using holds_typeNames) run

theorem propertyNamesSound_iff_checked (entries : List (String × List String)) :
    PropertyNamesSound entries ↔ ∃ types, checkNamesOf entries = .ok types := by
  rw [checkNamesOf, admits_checkPropertyNames.foldlM_ok_iff entries typeNames
    typeNames.taken.nodup_keys, holds_typeNames.keys_eq, List.filterMap_eq_map',
    ← Function.comp_def Identifier.ofRaw, ← List.map_map, ← List.map_append]
  constructor
  · intro sound
    refine ⟨fun entry member => ⟨(variantsFit_iff entry.2).mpr (sound.variants entry member), ?_⟩,
      sound.types.distinct⟩
    exact sound.types.usable entry.1
      (List.mem_append_right _ (List.mem_map_of_mem member))
  · rintro ⟨fit, distinct⟩
    refine ⟨⟨List.forall_mem_append.mpr ⟨differentNames_importedNames.usable, ?_⟩, distinct⟩,
      fun entry member => (variantsFit_iff entry.2).mp (fit entry member).1⟩
    exact List.forall_mem_map.mpr fun entry member => (fit entry member).2

/-- A property is refused for its own name or for that of one of its values. -/
theorem checkPropertyNames_eq_error_iff {types : Scope} {raws : List String}
    (holds : types.Holds Identifier.ofRaw "type names" raws) (sound : DifferentNames raws)
    (property : String) (values : List String) (defect : Defect) :
    checkPropertyNames types property values = .error defect ↔
      NameDefect "type names" raws property defect ∨
        (DifferentNames (raws ++ [property]) ∧ IsSymbolic values ∧
          ∃ before value after, values = before ++ value :: after ∧ DifferentNames before ∧
            NameDefect s!"variants of property '{property}'" before value defect) := by
  have ownIff : (∃ next, types.claimRaw property = .ok next) ↔
      DifferentNames (raws ++ [property]) := by
    have claims := holds.claimAll_ok_iff sound [property]
    simpa [Scope.claimAll] using claims
  have variantsHold : (Scope.fresh s!"variants of property '{property}'").Holds Identifier.ofRaw
      s!"variants of property '{property}'" [] := .fresh
  have variantsIff := variantsHold.claimAll_eq_error_iff ⟨by simp, by simp⟩ values defect
  simp only [List.nil_append] at variantsIff
  rw [isSymbolic_iff_kind, ← variantsIff, ← ownIff, ← holds.claimRaw_eq_error_iff]
  unfold checkPropertyNames
  rw [bind_eq_error_iff]
  cases kind : ValueKind.ofValues values with
  | numeric => simp [pure, Except.pure]
  | symbolic =>
    simp only [bind_eq_error_iff, pure, Except.pure, reduceCtorEq, and_false, exists_false,
      or_false, true_and, exists_and_right]

theorem checkIdentifiers_eq_error_iff (catalog : Catalog) (properties : Properties)
    (defect : Defect) :
    checkIdentifiers catalog properties = .error defect ↔
      NamesDefect catalog properties defect := by
  have propertiesIff : (properties.entries.foldlM
      (fun types entry => checkPropertyNames types entry.1 entry.2) typeNames = .error defect) ↔
        ∃ before entry after types, properties.entries = before ++ entry :: after ∧
          checkNamesOf before = .ok types ∧
            checkPropertyNames types entry.1 entry.2 = .error defect := foldlM_eq_error_iff _ _ _ _
  rw [checkIdentifiers, bind_eq_error_iff, propertiesIff]
  constructor
  · rintro (⟨before, ⟨property, values⟩, after, types, split, run, refused⟩ |
      ⟨types, run, refused⟩)
    · have sound := (propertyNamesSound_iff_checked before).mpr ⟨types, run⟩
      rcases (checkPropertyNames_eq_error_iff (holds_checkNamesOf run) sound.types property values
        defect).mp refused with
        isDefect | ⟨isType, symbolic, first, value, last, isValue, different, isDefect⟩
      · exact .property split sound isDefect
      · exact .variant split sound isType symbolic isValue different isDefect
    · have sound := (propertyNamesSound_iff_checked properties.entries).mpr ⟨types, run⟩
      obtain ⟨before, key, after, isKey, different, isDefect⟩ :=
        ((holds_checkNamesOf run).claimAll_eq_error_iff sound.types _ defect).mp refused
      exact .block sound isKey different isDefect
  · intro isDefect
    cases isDefect with
    | @property property values _ before after split sound isDefect =>
      obtain ⟨types, run⟩ := (propertyNamesSound_iff_checked before).mp sound
      have refused := (checkPropertyNames_eq_error_iff (holds_checkNamesOf run) sound.types property
        values defect).mpr (Or.inl isDefect)
      exact Or.inl ⟨before, (property, values), after, types, split, run, refused⟩
    | @variant property value values first last _ before after split sound isType symbolic isValue
        different isDefect =>
      obtain ⟨types, run⟩ := (propertyNamesSound_iff_checked before).mp sound
      have refused := (checkPropertyNames_eq_error_iff (holds_checkNamesOf run) sound.types property
        values defect).mpr
          (Or.inr ⟨isType, symbolic, first, value, last, isValue, different, isDefect⟩)
      exact Or.inl ⟨before, (property, values), after, types, split, run, refused⟩
    | block sound isKey different isDefect =>
      obtain ⟨types, run⟩ := (propertyNamesSound_iff_checked properties.entries).mp sound
      exact Or.inr ⟨types, run, ((holds_checkNamesOf run).claimAll_eq_error_iff sound.types _
        defect).mpr ⟨_, _, _, isKey, different, isDefect⟩⟩

/-! ## Catalogs -/

theorem valuesFit_iff_sound (values : List String) : ValuesFit values ↔ ValuesSound values := by
  rw [valuesFit_iff]
  constructor
  · rintro ⟨⟨nonempty, oneKind⟩, numbers⟩
    exact ⟨nonempty, oneKind, fun numeric => ⟨(numbers numeric).1, (numbers numeric).2⟩⟩
  · intro sound
    exact ⟨⟨sound.nonempty, sound.oneKind⟩,
      fun numeric => ⟨(sound.numbers numeric).numbers, (sound.numbers numeric).distinct⟩⟩

/-- A check that fails reports the first defect of the catalog, in the order of its
properties, its blocks with their states, and its names. -/
theorem check_fails_iff_first_defect (catalog : Catalog) (properties : Properties)
    (defect : Defect) :
    catalog.check properties = .error defect ↔ catalog.FirstDefect properties defect := by
  simp only [Catalog.check, bind_eq_error_iff, forM_eq_error_iff, forM_eq_ok_iff,
    checkProperty_eq_error_iff, checkProperty_eq_ok_iff, valuesFit_iff_sound,
    checkBlock_eq_error_iff, checkBlock_eq_ok_iff, blockFit_iff_valid,
    checkIdentifiers_eq_error_iff]
  constructor
  · rintro (⟨before, ⟨property, values⟩, after, split, earlier, isDefect⟩ |
      ⟨-, valuesSound, ⟨before, block, after, split, earlier, isDefect⟩ |
        ⟨-, blocksValid, isDefect | ⟨-, -, refused⟩⟩⟩)
    · exact .values split earlier isDefect
    · exact .block valuesSound split earlier isDefect
    · exact .names valuesSound blocksValid isDefect
    · cases refused
  · intro isDefect
    cases isDefect with
    | values split earlier isDefect => exact Or.inl ⟨_, _, _, split, earlier, isDefect⟩
    | block valuesSound split earlier isDefect =>
      exact Or.inr ⟨(), valuesSound, Or.inl ⟨_, _, _, split, earlier, isDefect⟩⟩
    | names valuesSound blocksValid isDefect =>
      exact Or.inr ⟨(), valuesSound, Or.inr ⟨(), blocksValid, Or.inl isDefect⟩⟩

end BlockStates
