import BlockStates.Proofs.Code.Unit

/-!
# Exact look-ups

The look-ups of a generated unit answer for every value of a declared type, also
for values that no state of the catalog stands for.  A state is found by the
values of its fields alone, and nothing else is found: no arm hides a later one,
and no value that is left out runs into an arm.
-/

set_option autoImplicit false

namespace BlockStates

open Code

/-! ## What values and states stand for -/

/-- A value of a type that code declares: any number of one byte in a wrapper of a
byte, or any variant of an enumeration. -/
inductive Code.HasValue (code : Code) : Field → Prop where
  | number {typeName : String} (value : UInt8) (declared : .struct typeName [byteType] ∈ code) :
      HasValue code ⟨typeName, .number value⟩
  | variant {typeName name : String} (variants : List String)
      (declared : .enumeration typeName variants ∈ code) (listed : name ∈ variants) :
      HasValue code ⟨typeName, .variant name⟩

structure Code.HasState (code : Code) (typeName : String) (fields : List Field) : Prop where
  declared : .struct typeName (fields.map Field.typeName) ∈ code
  values : ∀ field ∈ fields, code.HasValue field

/-- A raw value denotes a field: as the number that its digits stand for, or by the
variant that it becomes. -/
def Field.DenotedBy (field : Field) (raw : String) : Prop :=
  match field.value with
  | .number value => IsByteNumber raw ∧ decimalValue raw.toList = value.toNat
  | .variant name => Identifier.ofRaw raw = name

/-- The raw values that a state gives to the properties of its block, in their
order. -/
def State.Assigns (state : State) (block : Block) (raws : List String) : Prop :=
  block.properties.keys.map state.assignment.get? = raws.map some

def State.Denotes (state : State) (block : Block) (fields : List Field) : Prop :=
  ∃ raws, state.Assigns block raws ∧ List.Forall₂ Field.DenotedBy fields raws

def State.OnlyDenotes (state : State) (block : Block) (fields : List Field) : Prop :=
  ∃ before after, block.states = before ++ state :: after ∧ state.Denotes block fields ∧
    ∀ other ∈ before ++ after, ¬ other.Denotes block fields

/-- Look-ups that are those of the states of a block, for all values of a type. -/
structure Implementation.ExactFor (implementation : Implementation)
    (IsValue : List Field → Prop) (block : Block) : Prop where
  /-- Without properties there is one value, and it is the first state. -/
  simple : block.properties.keys = [] → ∃ first rest, block.states = first :: rest ∧
    implementation.id [] = .ok first.id ∧ implementation.name [] = .ok block.name
  /-- A value that some state denotes is that state alone. -/
  listed : block.properties.keys ≠ [] → ∀ fields, IsValue fields →
    ∀ state ∈ block.states, state.Denotes block fields →
      state.OnlyDenotes block fields ∧ implementation.id fields = .ok state.id ∧
      ∃ raws, state.Assigns block raws ∧ implementation.name fields =
        .ok (block.name ++ "::" ++ String.intercalate "," raws)
  /-- A value that no state denotes runs into the arm that must not be reached. -/
  unlisted : block.properties.keys ≠ [] → ∀ fields, IsValue fields →
    (∀ state ∈ block.states, ¬ state.Denotes block fields) →
      implementation.id fields = .error BlockDeclaration.unknownState ∧
      implementation.name fields = .error BlockDeclaration.unknownState

theorem Implementation.ExactFor.imp {implementation : Implementation} {block : Block}
    {IsValue IsOther : List Field → Prop} (exact : implementation.ExactFor IsValue block)
    (isValue : ∀ fields, IsOther fields → IsValue fields) :
    implementation.ExactFor IsOther block where
  simple := exact.simple
  listed := fun someKey fields isOther => exact.listed someKey fields (isValue fields isOther)
  unlisted := fun someKey fields isOther => exact.unlisted someKey fields (isValue fields isOther)

/-! ## Single fields -/

inductive PropertyType.HasValue (property : PropertyType) : Field → Prop where
  | number (value : UInt8) (numeric : property.kind = .numeric) :
      HasValue property ⟨property.typeName, .number value⟩
  | variant (name : String) (symbolic : property.kind = .symbolic) :
      HasValue property ⟨property.typeName, .variant name⟩

section Field

variable {unit : SourceUnit} {property : PropertyType} {field : Field}

/-- Under the name of a declared type there is no other type. -/
theorem PropertyType.DeclaredIn.hasValue (declaredIn : property.DeclaredIn unit)
    (distinct : unit.typeNames.Nodup) (isValue : unit.content.HasValue field)
    (sameName : field.typeName = property.typeName) : property.HasValue field := by
  have isType := property.typeName_declaration
  obtain ⟨differ, -, apart⟩ := List.nodup_append.mp distinct
  have same {declaration : PropertyDeclaration} (declared : declaration ∈ unit.properties)
      (isName : declaration.typeName = property.typeName) : property.declaration = declaration :=
    List.inj_on_of_nodup_map differ declaredIn.declared declared (isType.trans isName.symm)
  cases isValue with
  | @number typeName value declared =>
    obtain rfl : typeName = property.typeName := sameName
    rcases SourceUnit.struct_mem_content_iff.mp declared with ⟨rawName, isWrapper, -⟩ |
      ⟨block, isBlock, blockName, -⟩
    · have isDeclaration := same isWrapper rfl
      cases kind : property.kind with
      | numeric => exact .number value kind
      | symbolic => simp [PropertyType.declaration, kind] at isDeclaration
    · -- A block's type has another name than the type of a property.
      have isProperty := List.mem_map_of_mem (f := PropertyDeclaration.typeName) declaredIn.declared
      exact absurd (isType.trans blockName.symm)
        (apart _ isProperty _ (List.mem_map_of_mem isBlock))
  | @variant typeName name variants declared listed =>
    obtain rfl : typeName = property.typeName := sameName
    obtain ⟨rawName, isEnumeration⟩ := SourceUnit.enumeration_mem_content_iff.mp declared
    have isDeclaration := same isEnumeration rfl
    cases kind : property.kind with
    | numeric => simp [PropertyType.declaration, kind] at isDeclaration
    | symbolic => exact .variant name kind

/-- An expression matches exactly the values that its raw value denotes. -/
theorem PropertyType.DeclaredIn.matches_iff (declaredIn : property.DeclaredIn unit)
    (isValue : property.HasValue field) {raw : String} (listed : raw ∈ property.values) :
    (property.expr raw).matches field = true ↔ field.DenotedBy raw := by
  cases isValue with
  | number value numeric =>
    have isNumber := declaredIn.settled.isByteNumber numeric listed
    simp [PropertyType.expr, numeric, ValueExpr.matches, matchesNumber, Field.DenotedBy, isNumber]
  | variant name symbolic =>
    simp [PropertyType.expr, symbolic, ValueExpr.matches, Field.DenotedBy,
      PropertyType.variantName]

/-- No two raw values of a property denote the same value. -/
theorem PropertyType.DeclaredIn.raw_unique (declaredIn : property.DeclaredIn unit)
    (isValue : property.HasValue field) {first second : String}
    (firstListed : first ∈ property.values) (secondListed : second ∈ property.values)
    (byFirst : field.DenotedBy first) (bySecond : field.DenotedBy second) : first = second := by
  have kindOf := declaredIn.settled.kind_eq
  cases isValue with
  | number value numeric =>
    have distinct := (declaredIn.settled.values.numbers (kindOf.symm.trans numeric)).2
    exact List.inj_on_of_nodup_map distinct firstListed secondListed
      (byFirst.2.trans bySecond.2.symm)
  | variant name symbolic =>
    have distinct := (declaredIn.settled.variants (kindOf.symm.trans symbolic)).2
    exact List.inj_on_of_nodup_map distinct firstListed secondListed
      (byFirst.trans bySecond.symm)

end Field

/-! ## Whole values -/

theorem StateExpr.matches_applied_iff (typeName : String) (exprs : List ValueExpr)
    (fields : List Field) :
    (StateExpr.applied typeName exprs).matches typeName fields = true ↔
      List.Forall₂ (fun expr field => expr.matches field = true) exprs fields := by
  rw [List.forall₂_iff_zip]
  simp [StateExpr.matches]

section Fields

variable {unit : SourceUnit} {properties : List PropertyType} {raws : List String}
  {fields : List Field}

theorem forall₂_hasValue (declared : ∀ property ∈ properties, property.DeclaredIn unit)
    (distinct : unit.typeNames.Nodup)
    (sameTypes : fields.map Field.typeName = properties.map PropertyType.typeName)
    (values : ∀ field ∈ fields, unit.content.HasValue field) :
    List.Forall₂ PropertyType.HasValue properties fields := by
  induction properties generalizing fields with
  | nil =>
    rw [List.map_nil, List.map_eq_nil_iff] at sameTypes
    rw [sameTypes]
    exact .nil
  | cons property rest restValued =>
    cases fields with
    | nil => simp at sameTypes
    | cons field others =>
      obtain ⟨declaredIn, restDeclared⟩ := List.forall_mem_cons.mp declared
      obtain ⟨isValue, restValues⟩ := List.forall_mem_cons.mp values
      obtain ⟨sameName, restTypes⟩ := List.cons.inj sameTypes
      exact .cons (declaredIn.hasValue distinct isValue sameName)
        (restValued restDeclared restTypes restValues)

/-- Expressions match exactly the values that their raw values denote. -/
theorem forall₂_matches_iff (typed : List.Forall₂ (PropertyType.Offers unit) properties raws)
    (valued : List.Forall₂ PropertyType.HasValue properties fields) :
    List.Forall₂ (fun expr field => expr.matches field = true)
        (List.zipWith PropertyType.expr properties raws) fields ↔
      List.Forall₂ Field.DenotedBy fields raws := by
  induction typed generalizing fields with
  | nil =>
    cases valued
    simp
  | cons isTyped _ restMatches =>
    obtain ⟨declaredIn, listed⟩ := isTyped
    cases valued with
    | cons isValue restValued =>
      rw [List.zipWith_cons_cons, List.forall₂_cons, List.forall₂_cons,
        declaredIn.matches_iff isValue listed, restMatches restValued]

/-- Values are denoted by one list of raw values at most. -/
theorem raws_unique (typed : List.Forall₂ (PropertyType.Offers unit) properties raws)
    (valued : List.Forall₂ PropertyType.HasValue properties fields) {others : List String}
    (otherTyped : List.Forall₂ (PropertyType.Offers unit) properties others)
    (denoted : List.Forall₂ Field.DenotedBy fields raws)
    (otherDenoted : List.Forall₂ Field.DenotedBy fields others) : raws = others := by
  -- Both lists of raw values are typed by the same properties, so that the
  -- induction on one of them takes the other along.
  induction typed generalizing fields others with
  | nil =>
    cases otherTyped
    rfl
  | cons isTyped _ restUnique =>
    obtain ⟨declaredIn, listed⟩ := isTyped
    cases valued with
    | cons isValue restValued =>
      obtain ⟨isDenoted, restDenoted⟩ := List.forall₂_cons.mp denoted
      cases otherTyped with
      | cons otherIsTyped otherRestTyped =>
        obtain ⟨otherIsDenoted, otherRestDenoted⟩ := List.forall₂_cons.mp otherDenoted
        rw [declaredIn.raw_unique isValue listed otherIsTyped.2 isDenoted otherIsDenoted,
          restUnique restValued otherRestTyped restDenoted otherRestDenoted]

/-- In all its forms the pattern of a state matches exactly the values that the
state denotes. -/
theorem BlockType.pattern_matches_iff (block : BlockType) (row : Row)
    (shaped : block.shape = .ofFields block.fields) (composed : block.fields ≠ [])
    (typed : List.Forall₂ (PropertyType.Offers unit) block.fields row.values)
    (valued : List.Forall₂ PropertyType.HasValue block.fields fields) :
    (block.pattern row).matches block.scrutinee block.typeName fields = true ↔
      List.Forall₂ Field.DenotedBy fields row.values := by
  rw [← forall₂_matches_iff typed valued]
  rcases block.pattern_cases row shaped composed typed.length_eq with
    ⟨property, raw, isFields, isRaw, numeric, scrutinee, pattern⟩ |
    ⟨property, raw, isFields, isRaw, scrutinee, pattern⟩ | ⟨scrutinee, pattern⟩
  · rw [isFields] at valued
    cases valued with
    | cons isValue noMore =>
      cases noMore
      -- The literal stands without its wrapper here, so the value itself must
      -- be known to be a number.
      cases isValue with
      | number value _ =>
        rw [pattern, scrutinee, isFields, isRaw]
        simp [Pattern.matches, PropertyType.expr, numeric, ValueExpr.matches]
      | variant name symbolic => simp [numeric] at symbolic
  · rw [pattern, scrutinee, isFields, isRaw]
    rw [isFields] at valued
    cases valued with
    | cons _ noMore =>
      cases noMore
      simp [Pattern.matches]
  · rw [pattern, scrutinee, ← StateExpr.matches_applied_iff block.typeName]
    rfl

end Fields

/-! ## States -/

section States

variable {block : Block} {state : State}

theorem StateFit.assigns_iff (stateFit : StateFit block state) (raws : List String) :
    state.Assigns block raws ↔ raws = combination block state := by
  rw [State.Assigns, ← stateFit.map_some_combination,
    List.map_inj_right fun _ _ => Option.some.inj]
  exact eq_comm

theorem StateFit.denotes_iff (stateFit : StateFit block state) (fields : List Field) :
    state.Denotes block fields ↔
      List.Forall₂ Field.DenotedBy fields (combination block state) := by
  unfold State.Denotes
  simp only [stateFit.assigns_iff, exists_eq_left]

/-- The only state of a combination is the only one that denotes what the
combination denotes. -/
theorem BlockFit.onlyDenotes (blockFit : BlockFit block) (composed : block.isSimple = false)
    {fields : List Field}
    (unique : ∀ first ∈ block.states, ∀ second ∈ block.states, first.Denotes block fields →
      second.Denotes block fields → combination block first = combination block second)
    (isState : state ∈ block.states) (denotes : state.Denotes block fields) :
    state.OnlyDenotes block fields := by
  obtain ⟨before, after, states⟩ := List.append_of_mem isState
  refine ⟨before, after, states, denotes, ?_⟩
  intro other isOther otherDenotes
  -- The combinations are pairwise different, also across the place of the state.
  have distinct := blockFit.distinct composed
  rw [states, List.map_append, List.map_cons, List.nodup_middle, ← List.map_append,
    List.nodup_cons] at distinct
  have otherState : other ∈ block.states := by
    rw [states]
    exact List.mem_append.mpr
      ((List.mem_append.mp isOther).imp id (List.mem_cons_of_mem state))
  have same := unique other otherState state isState otherDenotes denotes
  exact distinct.1 (List.mem_map.mpr ⟨other, isOther, same⟩)

/-- Arms that match what their states denote find the only state of a value. -/
theorem find?_of_onlyDenotes {fields : List Field} {test : State → Bool}
    (testIff : ∀ state ∈ block.states, test state = true ↔ state.Denotes block fields)
    (only : state.OnlyDenotes block fields) : block.states.find? test = some state := by
  obtain ⟨before, after, states, denotes, others⟩ := only
  rw [List.find?_eq_some_iff_append]
  have isState : state ∈ block.states := by simp [states]
  refine ⟨(testIff state isState).mpr denotes, before, after, states, ?_⟩
  intro earlier isEarlier
  have earlierState : earlier ∈ block.states := by simp [states, isEarlier]
  rw [Bool.not_eq_true', ← Bool.not_eq_true, testIff earlier earlierState]
  exact others earlier (List.mem_append_left after isEarlier)

end States

/-! ## Look-ups of blocks -/

section Body

variable {Item Result : Type} {items : List Item} {pattern : Item → Pattern}
  {result : Item → Result} {scrutinee : Scrutinee} {message typeName : String}
  {fields : List Field}

theorem Body.answer_of_find?_eq_some {item : Item}
    (found : items.find? (fun item => (pattern item).matches scrutinee typeName fields) =
      some item) :
    (Body.selection scrutinee (items.map fun item => (pattern item, result item)) message).answer
      typeName fields = .ok (result item) := by
  have isArm : (items.map fun item => (pattern item, result item)).find?
      (fun arm => arm.1.matches scrutinee typeName fields) = some (pattern item, result item) := by
    rw [List.find?_map]
    exact congrArg _ found
  rw [answer, isArm]

theorem Body.answer_of_find?_eq_none
    (notFound : items.find? (fun item => (pattern item).matches scrutinee typeName fields) =
      none) :
    (Body.selection scrutinee (items.map fun item => (pattern item, result item)) message).answer
      typeName fields = .error message := by
  have noArm : (items.map fun item => (pattern item, result item)).find?
      (fun arm => arm.1.matches scrutinee typeName fields) = none := by
    rw [List.find?_map]
    exact congrArg _ notFound
  rw [answer, noArm]

end Body

/-- The look-ups of a block with properties have an arm for every state. -/
theorem Block.implementation_matching (types : OrderedMap String PropertyType) (block : Block) :
    (block.matching types).implementation =
      { typeName := Identifier.ofRaw block.name
        getId := .selection (BlockType.ofBlock types block).scrutinee
          (block.states.map fun state =>
            ((BlockType.ofBlock types block).pattern (BlockType.row block state), state.id))
          BlockDeclaration.unknownState
        getName := .selection (BlockType.ofBlock types block).scrutinee
          (block.states.map fun state =>
            ((BlockType.ofBlock types block).pattern (BlockType.row block state),
              (BlockType.ofBlock types block).stateName (BlockType.row block state)))
          BlockDeclaration.unknownState } := by
  have rows : (BlockType.ofBlock types block).rows = block.states.map (BlockType.row block) := rfl
  rw [matching, BlockDeclaration.implementation, rows]
  simp only [List.map_map]
  rfl

theorem StateFit.stateName_eq {block : Block} {state : State} (stateFit : StateFit block state)
    (types : OrderedMap String PropertyType) (composed : block.isSimple = false) :
    (BlockType.ofBlock types block).stateName (BlockType.row block state) =
      block.name ++ "::" ++ String.intercalate "," (combination block state) := by
  have someValue : (BlockType.row block state).values.isEmpty = false := by
    rw [BlockType.row, List.isEmpty_map, OrderedMap.keys, List.isEmpty_map]
    exact composed
  rw [BlockType.stateName, someValue, stateFit.row_eq]
  rfl

namespace Catalog.Accepted

variable {catalog : Catalog} {options : Options} {block : Block}

theorem pattern_matches_iff (accepted : catalog.Accepted) (member : block ∈ catalog.blocks.values)
    (composed : block.isSimple = false) {state : State} (isState : state ∈ block.states)
    {fields : List Field}
    (valued : List.Forall₂ PropertyType.HasValue
      (BlockType.ofBlock catalog.propertyTypes block).fields fields) :
    ((BlockType.ofBlock catalog.propertyTypes block).pattern (BlockType.row block state)).matches
        (BlockType.ofBlock catalog.propertyTypes block).scrutinee (Identifier.ofRaw block.name)
        fields = true ↔ state.Denotes block fields := by
  have stateFit := (accepted.blocks block member).states state isState
  have someField := BlockType.fields_ne_nil catalog.propertyTypes composed
  have offered : List.Forall₂ (PropertyType.Offers (catalog.unit .standard)) _ _ :=
    accepted.forall₂_row member isState
  rw [stateFit.denotes_iff, ← stateFit.values_row]
  exact BlockType.pattern_matches_iff _ _ rfl someField offered valued

theorem combination_unique (accepted : catalog.Accepted) (member : block ∈ catalog.blocks.values)
    {fields : List Field}
    (valued : List.Forall₂ PropertyType.HasValue
      (BlockType.ofBlock catalog.propertyTypes block).fields fields) :
    ∀ first ∈ block.states, ∀ second ∈ block.states, first.Denotes block fields →
      second.Denotes block fields → combination block first = combination block second := by
  intro first isFirst second isSecond firstDenotes secondDenotes
  have firstFit := (accepted.blocks block member).states first isFirst
  have secondFit := (accepted.blocks block member).states second isSecond
  have offered {state : State} (isState : state ∈ block.states) :
      List.Forall₂ (PropertyType.Offers (catalog.unit .standard))
        (BlockType.ofBlock catalog.propertyTypes block).fields (combination block state) :=
    accepted.forall₂_combination member isState
  exact raws_unique (offered isFirst) valued (offered isSecond)
    ((firstFit.denotes_iff fields).mp firstDenotes)
    ((secondFit.denotes_iff fields).mp secondDenotes)

theorem exactFor_fixed (simple : block.isSimple = true) {first : State} {rest : List State}
    (states : block.states = first :: rest) (IsValue : List Field → Prop) :
    (BlockDeclaration.fixed block.name (Identifier.ofRaw block.name) first.id
      block.name).implementation.ExactFor IsValue block := by
  have noKeys := block.isSimple_iff.mp simple
  refine ⟨?_, ?_, ?_⟩
  · exact fun _ => ⟨first, rest, states, rfl, rfl⟩
  · exact fun someKey => absurd noKeys someKey
  · exact fun someKey => absurd noKeys someKey

theorem exactFor_matching (accepted : catalog.Accepted) (member : block ∈ catalog.blocks.values)
    (composed : block.isSimple = false) :
    (block.matching catalog.propertyTypes).implementation.ExactFor
      (List.Forall₂ PropertyType.HasValue
        (BlockType.ofBlock catalog.propertyTypes block).fields) block := by
  have blockFit := accepted.blocks block member
  have someKey := block.isSimple_eq_false_iff.mp composed
  rw [block.implementation_matching]
  refine ⟨fun noKeys => absurd noKeys someKey, ?_, ?_⟩
  · intro _ fields valued state isState denotes
    have only : state.OnlyDenotes block fields :=
      blockFit.onlyDenotes composed (accepted.combination_unique member valued) isState denotes
    have found := find?_of_onlyDenotes
      (fun other isOther => accepted.pattern_matches_iff member composed isOther valued) only
    have stateFit := blockFit.states state isState
    refine ⟨only, Body.answer_of_find?_eq_some found, combination block state,
      (stateFit.assigns_iff _).mpr rfl, ?_⟩
    rw [← stateFit.stateName_eq catalog.propertyTypes composed]
    exact Body.answer_of_find?_eq_some found
  · intro _ fields valued noState
    have notFound : (block.states.find? fun state =>
        ((BlockType.ofBlock catalog.propertyTypes block).pattern
          (BlockType.row block state)).matches
          (BlockType.ofBlock catalog.propertyTypes block).scrutinee (Identifier.ofRaw block.name)
          fields) = none := by
      rw [List.find?_eq_none]
      intro state isState
      rw [accepted.pattern_matches_iff member composed isState valued]
      exact noState state isState
    exact ⟨Body.answer_of_find?_eq_none notFound, Body.answer_of_find?_eq_none notFound⟩

/-- The look-ups that are declared for a block are those of its states. -/
theorem exactFor_declaration (accepted : catalog.Accepted)
    (member : block ∈ catalog.blocks.values) {declaration : BlockDeclaration}
    (declared : (BlockType.ofBlock catalog.propertyTypes block).declaration? = some declaration) :
    declaration.implementation.ExactFor
      (List.Forall₂ PropertyType.HasValue
        (BlockType.ofBlock catalog.propertyTypes block).fields) block := by
  rcases (accepted.blocks block member).declaration?_cases catalog.propertyTypes with
    ⟨simple, first, rest, states, isFixed⟩ | ⟨composed, isMatching⟩
  · obtain rfl := Option.some.inj (isFixed.symm.trans declared)
    exact exactFor_fixed simple states _
  · obtain rfl := Option.some.inj (isMatching.symm.trans declared)
    exact accepted.exactFor_matching member composed

theorem fieldTypes_declaration (accepted : catalog.Accepted)
    (member : block ∈ catalog.blocks.values) {declaration : BlockDeclaration}
    (declared : (BlockType.ofBlock catalog.propertyTypes block).declaration? = some declaration) :
    declaration.fieldTypes =
      (BlockType.ofBlock catalog.propertyTypes block).fields.map PropertyType.typeName := by
  rcases (accepted.blocks block member).declaration?_cases catalog.propertyTypes with
    ⟨simple, first, rest, states, isFixed⟩ | ⟨composed, isMatching⟩
  · obtain rfl := Option.some.inj (isFixed.symm.trans declared)
    rw [(BlockType.fields_eq_nil_iff catalog.propertyTypes).mpr simple]
    rfl
  · obtain rfl := Option.some.inj (isMatching.symm.trans declared)
    rfl

/-- In the code of a unit the values of a block's type are those of its fields. -/
theorem forall₂_hasValue_of_hasState (accepted : catalog.Accepted)
    (sound : (Layout.unchecked catalog catalog.propertyUnion).TypeNamesSound)
    (member : block ∈ catalog.blocks.values) {declaration : BlockDeclaration}
    (declared : (BlockType.ofBlock catalog.propertyTypes block).declaration? = some declaration)
    {fields : List Field}
    (hasState : (catalog.unit options).content.HasState declaration.typeName fields) :
    List.Forall₂ PropertyType.HasValue (BlockType.ofBlock catalog.propertyTypes block).fields
      fields := by
  have distinct : (catalog.unit options).typeNames.Nodup := accepted.typeNames_nodup sound
  have isBlock : declaration ∈ (catalog.unit options).blocks := mem_blocks_unit member declared
  have sameTypes := SourceUnit.fieldTypes_unique distinct isBlock hasState.declared
  rw [accepted.fieldTypes_declaration member declared] at sameTypes
  exact forall₂_hasValue (accepted.fields_declaredIn member) distinct sameTypes hasState.values

end Catalog.Accepted

/-- Whatever text a unit is generated from, the look-ups that a reader finds there
for a block give every value of the block's type exactly the state that it stands
for. -/
theorem generated_lookups_exact (text : String) (options : Options) (source : String)
    (success : (generate text options).value = .ok source) :
    ∃ catalog code, Catalog.read text = .ok catalog ∧ Code.ReadIn options source code ∧
      List.Forall₂ (fun block implementation =>
          implementation.typeName = Identifier.ofRaw block.name ∧
          .struct implementation.typeName (block.properties.keys.map Identifier.ofRaw) ∈ code ∧
          implementation.ExactFor (code.HasState implementation.typeName) block)
        catalog.blocks.values code.implementations := by
  obtain ⟨catalog, reading, accepted, sound, isRead⟩ := readIn_generate success
  refine ⟨catalog, (catalog.unit options).content, reading, isRead, ?_⟩
  apply accepted.forall₂_implementations
  intro block member declaration declared
  have fieldTypes := accepted.fieldTypes_declaration member declared
  rw [accepted.typeName_field member] at fieldTypes
  rw [BlockDeclaration.typeName_implementation, ← fieldTypes]
  refine ⟨(BlockType.names_of_declaration? declared).2, ?_, ?_⟩
  · exact SourceUnit.struct_mem_content
      (Catalog.Accepted.mem_blocks_unit member declared)
  · exact (accepted.exactFor_declaration member declared).imp fun fields hasState =>
      accepted.forall₂_hasValue_of_hasState sound member declared hasState

/-- In the sample the look-ups answer for the only stone and for two layers of
snow, and there is no cake that is lit. -/
theorem generated_lookups_exact_of_sampleText :
    ∃ source code stone snow cake, (generate sampleText withTable).value = .ok source ∧
      Code.ReadIn withTable source code ∧ code.implementations = [stone, snow, cake] ∧
      stone.name [] = .ok "stone" ∧ snow.id [⟨"Layers", .number 2⟩] = .ok 2 ∧
      cake.id [⟨"Layers", .number 1⟩, ⟨"Lit", .variant "On"⟩] =
        .error BlockDeclaration.unknownState := by
  obtain ⟨catalog, code, reading, isRead, answers⟩ :=
    generated_lookups_exact sampleText withTable _ generate_sampleText
  obtain ⟨sample, sampleReading, -, -, sampleIsRead⟩ := readIn_generate generate_sampleText
  obtain rfl := Except.ok.inj (read_sampleText.symm.trans reading)
  obtain rfl := Except.ok.inj (read_sampleText.symm.trans sampleReading)
  obtain rfl := isRead.unique sampleIsRead
  have values : sampleCatalog.blocks.values = [sampleStone, sampleSnow, sampleCake] := by
    decide +kernel
  rw [values] at answers
  obtain ⟨stone, _, ⟨-, -, stoneExact⟩, afterStone, found⟩ :=
    List.forall₂_cons_left_iff.mp answers
  obtain ⟨snow, _, ⟨isSnow, -, snowExact⟩, afterSnow, rfl⟩ :=
    List.forall₂_cons_left_iff.mp afterStone
  obtain ⟨cake, _, ⟨isCake, -, cakeExact⟩, afterCake, rfl⟩ :=
    List.forall₂_cons_left_iff.mp afterSnow
  obtain rfl := List.forall₂_nil_left_iff.mp afterCake
  have hasLayers (layers : UInt8) :
      (sampleCatalog.unit withTable).content.HasValue ⟨"Layers", .number layers⟩ :=
    .number layers (by decide +kernel)
  have isLit : (sampleCatalog.unit withTable).content.HasValue ⟨"Lit", .variant "On"⟩ :=
    .variant ["On", "Off"] (by decide +kernel) (by decide)
  refine ⟨_, _, stone, snow, cake, generate_sampleText, sampleIsRead, found, ?_, ?_, ?_⟩
  · obtain ⟨_, _, _, -, isStone⟩ := stoneExact.simple (by decide +kernel)
    exact isStone
  · have isNumber : IsByteNumber "02" :=
      (isByteNumber_iff_numericValue?_isSome "02").mpr (by decide +kernel)
    have twoLayers : State.Denotes ⟨2, .ofList [("layers", "02")]⟩ sampleSnow
        [⟨"Layers", .number 2⟩] :=
      ⟨["02"], by unfold State.Assigns; decide +kernel,
        .cons ⟨isNumber, by decide +kernel⟩ .nil⟩
    have isValue : (sampleCatalog.unit withTable).content.HasState snow.typeName
        [⟨"Layers", .number 2⟩] := by
      rw [isSnow]
      exact ⟨by decide +kernel, List.forall_mem_singleton.mpr (hasLayers 2)⟩
    exact (snowExact.listed (by decide +kernel) _ isValue _ (List.mem_singleton_self _)
      twoLayers).2.1
  · have notLit : ∀ state ∈ sampleCake.states,
        ¬ state.Denotes sampleCake [⟨"Layers", .number 1⟩, ⟨"Lit", .variant "On"⟩] := by
      intro state isState
      obtain rfl := List.mem_singleton.mp isState
      rintro ⟨raws, assigns, denoted⟩
      have isOff : ["1", "off"].map some = raws.map some := Eq.trans (by decide +kernel) assigns
      obtain rfl := (List.map_inj_right fun _ _ => Option.some.inj).mp isOff
      have differs : Identifier.ofRaw "off" ≠ "On" := by decide +kernel
      cases denoted with
      | cons _ rest =>
        cases rest with
        | cons isOn _ => exact differs isOn
    have isValue : (sampleCatalog.unit withTable).content.HasState cake.typeName
        [⟨"Layers", .number 1⟩, ⟨"Lit", .variant "On"⟩] := by
      rw [isCake]
      exact ⟨by decide +kernel, List.forall_mem_cons.mpr ⟨hasLayers 1,
        List.forall_mem_singleton.mpr isLit⟩⟩
    exact (cakeExact.unlisted (by decide +kernel) _ isValue notLit).1

end BlockStates
