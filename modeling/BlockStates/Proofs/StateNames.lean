import BlockStates.Proofs.Lexical.Parts
import BlockStates.Proofs.RawNames
import BlockStates.Proofs.TableAgreement

/-!
# Names of states

The name of a state joins raw texts, and raw texts may contain colons, so it is
not clear that a name can be taken apart again.  Inside a block it can, since no
value contains a comma.  Across blocks it can if no block name contains the mark
`::`.  A single colon at the end of a block name would still blur the place of
the mark, but then the block without that colon has the same identifier.
-/

set_option autoImplicit false

namespace BlockStates

/-- The names of the states that are told apart, block by block: all states, or
only the first one of a block without fields. -/
def Layout.stateNames (layout : Layout) : List String :=
  layout.blocks.flatMap fun block => block.tableRows.map block.stateName

/-! ## Values without commas -/

theorem comma_not_mem_of_isUsable {raw : String}
    (usable : Identifier.isUsable (Identifier.ofRaw raw) = true) : ',' ∉ raw.toList :=
  Lexical.not_mem_of_isUsable usable (by decide) (by simp [Text.upperCase]) (by decide)

theorem IsByteNumber.comma_not_mem {raw : String} (isNumber : IsByteNumber raw) :
    ',' ∉ raw.toList := by
  intro isComma
  exact absurd (isNumber.digits ',' isComma) (by decide)

theorem PropertyType.Settled.comma_not_mem {property : PropertyType}
    (settled : property.Settled) {value : String} (listed : value ∈ property.values) :
    ',' ∉ value.toList := by
  cases kind : property.kind with
  | numeric => exact (settled.isByteNumber kind listed).comma_not_mem
  | symbolic =>
    have symbolic := settled.kind_eq.symm.trans kind
    exact comma_not_mem_of_isUsable ((settled.variants symbolic).1 value listed)

/-- Texts without commas are found again in what they are joined to. -/
theorem eq_of_intercalate_comma_eq {values others : List String}
    (someValue : values ≠ []) (someOther : others ≠ [])
    (noComma : ∀ value ∈ values, ',' ∉ value.toList)
    (otherNoComma : ∀ value ∈ others, ',' ∉ value.toList)
    (same : String.intercalate "," values = String.intercalate "," others) : values = others := by
  have split (texts : List String) (someText : texts ≠ [])
      (plain : ∀ text ∈ texts, ',' ∉ text.toList) :
      (String.intercalate "," texts).toList.splitOn ',' = texts.map String.toList := by
    rw [String.toList_intercalate]
    apply List.splitOn_intercalate
    · simpa using plain
    · simpa using someText
  have sameTexts : values.map String.toList = others.map String.toList := by
    rw [← split values someValue noComma, same, split others someOther otherNoComma]
  exact (List.map_inj_right fun _ _ => String.toList_inj.mp).mp sameTexts

/-! ## Block names and the mark behind them -/

theorem ofRaw_eq_of_append_colon {longer shorter : String}
    (isLonger : longer.toList = shorter.toList ++ [':']) :
    Identifier.ofRaw longer = Identifier.ofRaw shorter := by
  rw [Identifier.ofRaw, isLonger, Identifier.join_append_separator (by decide)]
  simp [Identifier.join, Identifier.ofRaw]

/-- Between two places where a mark may stand there is one colon at most. -/
theorem between_marks {between text more others : List Char}
    (plain : ¬ [':', ':'] <:+: text ++ between)
    (same : ':' :: ':' :: more = between ++ ':' :: ':' :: others) :
    between = [] ∨ between = [':'] := by
  match between with
  | [] => exact Or.inl rfl
  | [first] =>
    rw [List.singleton_append, List.cons.injEq] at same
    exact Or.inr (congrArg (fun colon => [colon]) same.1.symm)
  | first :: second :: rest =>
    rw [List.cons_append, List.cons_append, List.cons.injEq, List.cons.injEq] at same
    obtain ⟨rfl, rfl, -⟩ := same
    exact absurd ⟨text, rest, by simp⟩ plain

theorem ofRaw_eq_of_marked {first second : String} {firstRest secondRest : List Char}
    (firstPlain : ¬ [':', ':'] <:+: first.toList) (secondPlain : ¬ [':', ':'] <:+: second.toList)
    (same : first.toList ++ ':' :: ':' :: firstRest =
      second.toList ++ ':' :: ':' :: secondRest) :
    Identifier.ofRaw first = Identifier.ofRaw second := by
  rcases List.append_eq_append_iff.mp same with ⟨between, isSecond, rests⟩ |
    ⟨between, isFirst, rests⟩
  · rcases between_marks (isSecond ▸ secondPlain) rests with rfl | rfl
    · rw [List.append_nil, String.toList_inj] at isSecond
      rw [isSecond]
    · exact (ofRaw_eq_of_append_colon isSecond).symm
  · rcases between_marks (isFirst ▸ firstPlain) rests with rfl | rfl
    · rw [List.append_nil, String.toList_inj] at isFirst
      rw [isFirst]
    · exact ofRaw_eq_of_append_colon isFirst

namespace BlockType

theorem stateName_cases (block : BlockType) (row : Row) :
    block.stateName row = block.name ∨
      ∃ rest, (block.stateName row).toList = block.name.toList ++ ':' :: ':' :: rest := by
  by_cases noValue : row.values.isEmpty = true
  · exact Or.inl (if_pos noValue)
  · refine Or.inr ⟨(String.intercalate "," row.values).toList, ?_⟩
    simp [stateName, noValue]

theorem ofRaw_eq_of_stateName_eq (first second : BlockType) {row other : Row}
    (firstPlain : ¬ [':', ':'] <:+: first.name.toList)
    (secondPlain : ¬ [':', ':'] <:+: second.name.toList)
    (same : first.stateName row = second.stateName other) :
    Identifier.ofRaw first.name = Identifier.ofRaw second.name := by
  rcases first.stateName_cases row with bare | ⟨rest, marked⟩
  · rcases second.stateName_cases other with otherBare | ⟨otherRest, otherMarked⟩
    · rw [← bare, same, otherBare]
    · rw [← same, bare] at otherMarked
      exact absurd ⟨second.name.toList, otherRest, by simp [otherMarked]⟩ firstPlain
  · rcases second.stateName_cases other with otherBare | ⟨otherRest, otherMarked⟩
    · rw [same, otherBare] at marked
      exact absurd ⟨first.name.toList, rest, by simp [marked]⟩ secondPlain
    · rw [same, otherMarked] at marked
      exact ofRaw_eq_of_marked firstPlain secondPlain marked.symm

end BlockType

/-! ## Accepted catalogs -/

namespace Catalog.Accepted

variable {catalog : Catalog} {block : Block}

theorem comma_not_mem (accepted : catalog.Accepted) (member : block ∈ catalog.blocks.values)
    {state : State} (isState : state ∈ block.states) :
    ∀ value ∈ combination block state, ',' ∉ value.toList := by
  intro value isValue
  have offers : List.Forall₂ (PropertyType.Offers (catalog.unit .standard)) _ _ :=
    accepted.forall₂_combination member isState
  obtain ⟨property, -, declaredIn, listed⟩ := exists_related_of_mem offers isValue
  exact declaredIn.settled.comma_not_mem listed

/-- Inside a block the name of a state determines its values. -/
theorem nodup_stateNames (accepted : catalog.Accepted) (member : block ∈ catalog.blocks.values)
    (composed : block.isSimple = false) :
    ((BlockType.ofBlock catalog.propertyTypes block).rows.map
      (BlockType.ofBlock catalog.propertyTypes block).stateName).Nodup := by
  have blockFit := accepted.blocks block member
  have distinct := blockFit.distinct composed
  have rows : (BlockType.ofBlock catalog.propertyTypes block).rows =
      block.states.map (BlockType.row block) := rfl
  rw [rows, List.map_map, List.nodup_map_iff_inj_on (List.Nodup.of_map _ distinct)]
  intro first isFirst second isSecond same
  have nonempty {state : State} (isState : state ∈ block.states) :
      combination block state ≠ [] := by
    have offers : List.Forall₂ (PropertyType.Offers (catalog.unit .standard)) _ _ :=
      accepted.forall₂_combination member isState
    intro empty
    rw [empty, List.forall₂_nil_right_iff] at offers
    exact BlockType.fields_ne_nil catalog.propertyTypes composed offers
  rw [Function.comp_apply, Function.comp_apply,
    (blockFit.states first isFirst).stateName_eq catalog.propertyTypes composed,
    (blockFit.states second isSecond).stateName_eq catalog.propertyTypes composed] at same
  have sameCombination : combination block first = combination block second :=
    eq_of_intercalate_comma_eq (nonempty isFirst) (nonempty isSecond)
      (accepted.comma_not_mem member isFirst) (accepted.comma_not_mem member isSecond)
      ((String.append_right_inj _).mp same)
  exact List.inj_on_of_nodup_map distinct isFirst isSecond sameCombination

theorem nodup_tableNames (accepted : catalog.Accepted) (member : block ∈ catalog.blocks.values) :
    ((BlockType.ofBlock catalog.propertyTypes block).tableRows.map
      (BlockType.ofBlock catalog.propertyTypes block).stateName).Nodup := by
  rw [BlockType.tableRows]
  cases shape : (BlockType.ofBlock catalog.propertyTypes block).shape with
  | simple =>
    match (BlockType.ofBlock catalog.propertyTypes block).rows with
    | [] => exact List.nodup_nil
    | first :: _ => exact List.nodup_singleton _
  | tuple | numeric | composite =>
    apply accepted.nodup_stateNames member
    rw [← Bool.not_eq_true, ← BlockType.shape_eq_simple_iff catalog.propertyTypes, shape]
    simp

end Catalog.Accepted

/-- No two states of a block with fields have the same name, and if no block name
contains `::`, no two states at all that are told apart have. -/
theorem state_names_unambiguous (catalog : Catalog) (layout : Layout)
    (keyed : catalog.KeyedByName) (laidOut : Layout.ofCatalog catalog = .ok layout) :
    (∀ block ∈ layout.blocks, block.fields ≠ [] → (block.rows.map block.stateName).Nodup) ∧
    ((∀ name ∈ catalog.blocks.keys, ¬ "::".toList <:+: name.toList) →
      layout.stateNames.Nodup) := by
  obtain ⟨accepted, rfl⟩ := (Layout.ofCatalog_eq_ok_iff catalog layout).mp laidOut
  constructor
  · intro _ isBlock someField
    obtain ⟨block, member, rfl⟩ := List.mem_map.mp isBlock
    apply accepted.nodup_stateNames member
    rwa [← Bool.not_eq_true, ← BlockType.fields_eq_nil_iff catalog.propertyTypes]
  · intro plain
    rw [keyed.keys_eq] at plain
    have distinct := (accepted.typeNamesSound keyed.identifiedByKey).distinct
    rw [Catalog.typeNames_unchecked, ← List.append_assoc] at distinct
    have differ := List.pairwise_map.mp (List.nodup_append.mp distinct).2.1
    rw [Layout.stateNames, List.nodup_flatMap, Layout.unchecked, List.forall_mem_map,
      List.pairwise_map]
    refine ⟨fun block member => accepted.nodup_tableNames member, ?_⟩
    apply differ.imp_of_mem
    intro first second isFirst isSecond differs name isName isOther
    obtain ⟨row, -, rfl⟩ := List.mem_map.mp isName
    obtain ⟨other, -, same⟩ := List.mem_map.mp isOther
    have firstPlain := plain first.name (List.mem_map_of_mem isFirst)
    have secondPlain := plain second.name (List.mem_map_of_mem isSecond)
    have sameIdentifier : Identifier.ofRaw first.name = Identifier.ofRaw second.name :=
      BlockType.ofRaw_eq_of_stateName_eq (.ofBlock catalog.propertyTypes first)
        (.ofBlock catalog.propertyTypes second) firstPlain secondPlain same.symm
    exact differs sameIdentifier

def sampleLampPost : Block :=
  ⟨"lamp:post", .ofList [("lit", ["on:", "off"])],
    [⟨3, .ofList [("lit", "off")]⟩, ⟨4, .ofList [("lit", "on:")]⟩]⟩

def lamps : Catalog :=
  (Catalog.empty.add ⟨"lamp:", ∅, [⟨1, ∅⟩, ⟨2, ∅⟩]⟩).add sampleLampPost

theorem state_names_unambiguous_of_lamps :
    ∃ layout, Layout.ofCatalog lamps = .ok layout ∧
      (∃ post ∈ layout.blocks, (post.rows.map post.stateName).Nodup ∧
        post.rows.map post.stateName = ["lamp:post::off", "lamp:post::on:"]) ∧
      layout.stateNames.Nodup ∧
      layout.stateNames = ["lamp:", "lamp:post::off", "lamp:post::on:"] := by
  have keyed : lamps.KeyedByName := by
    unfold Catalog.KeyedByName
    decide +kernel
  have laidOut : Layout.ofCatalog lamps = .ok (Layout.unchecked lamps lamps.propertyUnion) := by
    decide +kernel
  have plain : ∀ name ∈ lamps.blocks.keys, ¬ "::".toList <:+: name.toList := by
    decide +kernel
  have isBlock : BlockType.ofBlock lamps.propertyTypes sampleLampPost ∈
      (Layout.unchecked lamps lamps.propertyUnion).blocks := by
    decide +kernel
  obtain ⟨inBlocks, unambiguous⟩ := state_names_unambiguous lamps _ keyed laidOut
  exact ⟨_, laidOut,
    ⟨_, isBlock, inBlocks _ isBlock (by decide +kernel), by decide +kernel⟩,
    unambiguous plain, by decide +kernel⟩

end BlockStates
