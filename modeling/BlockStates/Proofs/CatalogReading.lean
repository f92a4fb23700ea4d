import BlockStates.Proofs.AcceptedLayout
import BlockStates.Proofs.CatalogWriting
import BlockStates.Proofs.Json.Answers

/-!
# Written catalogs are read back

Each text that a catalog can be written as is read as that catalog.
`reading_undoes_writing` says so, and that one identifier which is not a number
of 16 bits makes every such text unreadable.
-/

set_option autoImplicit false

namespace BlockStates

namespace Json

/-! ## Answers for all items or for none -/

theorem mapM_of_all {Input Value : Type} {answerOf : Input → Option Value}
    {valueOf : Input → Value} (all : ∀ input, answerOf input = some (valueOf input))
    (inputs : List Input) : inputs.mapM answerOf = some (inputs.map valueOf) := by
  rw [funext all]
  exact List.mapM_pure

theorem mapM_of_same {Value : Type} {answerOf : Value → Option Value}
    (all : ∀ value, answerOf value = some value) (values : List Value) :
    values.mapM answerOf = some values := by
  rw [mapM_of_all all, List.map_id']

theorem mapM_of_none {Input Value : Type} {answerOf : Input → Option Value} {inputs : List Input}
    {input : Input} (member : input ∈ inputs) (noAnswer : answerOf input = none) :
    inputs.mapM answerOf = none := by
  induction inputs with
  | nil => cases member
  | cons first later laterNone =>
    rw [List.mapM_cons]
    rcases List.mem_cons.mp member with rfl | inLater
    · rw [noAnswer]
      rfl
    · rw [laterNone inLater]
      cases answerOf first <;> rfl

theorem entries?_some {Value : Type} (entries : List (String × Value)) :
    entries? some entries = some entries :=
  mapM_of_same (fun _ => rfl) entries

/-! ## Assignments and properties -/

theorem mapOf_answers_of_each {Value : Type} {value : Reader Value}
    {tokensOf : Value → List Token} (each : ∀ entry, value.Answers (tokensOf entry) (some entry))
    (map : OrderedMap String Value) :
    (mapOf value).Answers
      (objectTokens (map.entries.map fun entry => (entry.1, tokensOf entry.2))) (some map) := by
  have answered : EntriesAnswered value some map.entries
      (map.entries.map fun entry => (entry.1, tokensOf entry.2)) := by
    rw [EntriesAnswered, List.forall₂_map_right_iff, List.forall₂_same]
    exact fun entry _ => ⟨rfl, each entry.2⟩
  have answers := mapOf_answers answered
  rw [entries?_some, Option.map_some, OrderedMap.ofList_entries] at answers
  exact answers

theorem assignment_answers (map : Assignment) :
    assignment.Answers (assignmentTokens map) (some map) :=
  mapOf_answers_of_each (fun value => (string_takes value).answers) map

theorem values_answers (values : List String) :
    (listOf string).Answers (listTokens (values.map fun value => [.text value])) (some values) := by
  have answered : ItemsAnswered string some values (values.map fun value => [.text value]) := by
    rw [ItemsAnswered, List.forall₂_map_right_iff, List.forall₂_same]
    exact fun value _ => ⟨(string_takes value).answers, _, _, rfl, rfl⟩
  have answers := listOf_answers answered
  rwa [mapM_of_same fun _ => rfl] at answers

theorem properties_answers (map : Properties) :
    properties.Answers (propertiesTokens map) (some map) :=
  mapOf_answers_of_each values_answers map

/-! ## Members in any order -/

/-- Whatever the order of the members, the run ends with the needed part and with
a map that is the written one, unless it was left out. -/
theorem Arranged.exists_run {Parts Part Map : Type} [EmptyCollection Map]
    {member : Parts → String → Reader Parts} {onlyMap : Parts} {needed properties : Member}
    {map : Map} {answer : Option Part} {members : List Member}
    (arranged : Arranged needed properties (map = ∅) members) (start : Parts)
    (final : Option Map → Part → Parts)
    (neededFirst : (member start needed.1).Answers (.colon :: needed.2) (answer.map (final none)))
    (mapFirst : (member start properties.1).Answers (.colon :: properties.2) (some onlyMap))
    (neededLast : (member onlyMap needed.1).Answers (.colon :: needed.2)
      (answer.map (final (some map))))
    (mapLast : ∀ part, (member (final none part) properties.1).Answers (.colon :: properties.2)
      (some (final (some map) part))) :
    ∃ given : Option Map, given.getD ∅ = map ∧
      MembersRun member start members (answer.map (final given)) := by
  cases arranged with
  | propertiesFirst =>
    exact ⟨some map, rfl, .next mapFirst (.next_map neededLast fun _ => .done _)⟩
  | propertiesLast =>
    exact ⟨some map, rfl, .next_map neededFirst fun part => .next (mapLast part) (.done _)⟩
  | leftOut isEmpty =>
    exact ⟨none, isEmpty.symm, .next_map neededFirst fun _ => .done _⟩

/-! ## States -/

def StateDraft.state? (draft : StateDraft) : Option State :=
  (idOf? draft.id).map fun id => ⟨id, draft.assignment⟩

theorem statePart_id {parts : StateParts} (noId : parts.id = none) (value : Int) :
    (statePart parts "id").Answers [.colon, integerToken value]
      ((idOf? value).map fun id => { parts with id := some id }) :=
  (stateId_answers value).behindColon _ (by simp [statePart, noId])

theorem statePart_properties {parts : StateParts} (noAssignment : parts.assignment = none)
    (map : Assignment) :
    (statePart parts "properties").Answers (.colon :: assignmentTokens map)
      (some { parts with assignment := some map }) :=
  (assignment_answers map).behindColon (fun map => { parts with assignment := some map })
    (by simp [statePart, noAssignment])

theorem stateObject_answers {draft : StateDraft} {members : List Member}
    (arranged : Arranged ("id", [integerToken draft.id])
      ("properties", assignmentTokens draft.assignment) (draft.assignment = ∅) members) :
    stateObject.Answers (insideBracket .object (members.map Member.tokens)) draft.state? := by
  obtain ⟨given, isGiven, run⟩ := arranged.exists_run ⟨none, none⟩
    (fun given id => ⟨some id, given⟩)
    (statePart_id rfl draft.id) (statePart_properties rfl draft.assignment)
    (statePart_id rfl draft.id) (fun _ => statePart_properties rfl draft.assignment)
  rw [StateDraft.state?, ← isGiven]
  exact (members_answers run).thenPure fun _ => rfl

theorem state_answers {draft : StateDraft} {tokens : List Token}
    (written : draft.WrittenAs tokens) : state.Answers tokens draft.state? := by
  obtain ⟨members, arranged, rfl⟩ := written
  exact (recordOpener_takes .state).bind (stateObject_answers arranged)

theorem StateDraft.WrittenAs.opensValue {draft : StateDraft} {tokens : List Token}
    (written : draft.WrittenAs tokens) : OpensValue tokens := by
  obtain ⟨members, -, rfl⟩ := written
  exact ⟨_, _, rfl, rfl⟩

/-! ## Blocks -/

def BlockDraft.entry? (draft : BlockDraft) : Option BlockEntry :=
  (draft.states.mapM StateDraft.state?).map fun states => ⟨draft.properties, some states⟩

theorem states_answers {drafts : List StateDraft} {parts : List (List Token)}
    (written : List.Forall₂ StateDraft.WrittenAs drafts parts) :
    states.Answers (listTokens parts) ((drafts.mapM StateDraft.state?).map some) := by
  have answered : ItemsAnswered state StateDraft.state? drafts parts :=
    written.imp fun _ _ isWritten => ⟨state_answers isWritten, isWritten.opensValue⟩
  exact optional_answers (listOf_answers answered)

theorem blockPart_states {parts : BlockParts} (noStates : parts.states = none)
    {tokens : List Token} {answer : Option (Option (List State))}
    (answers : states.Answers tokens answer) :
    (blockPart parts "states").Answers (.colon :: tokens)
      (answer.map fun states => { parts with states := some states }) :=
  answers.behindColon _ (by simp [blockPart, noStates])

theorem blockPart_properties {parts : BlockParts} (noProperties : parts.properties = none)
    (map : Properties) :
    (blockPart parts "properties").Answers (.colon :: propertiesTokens map)
      (some { parts with properties := some map }) :=
  (properties_answers map).behindColon (fun map => { parts with properties := some map })
    (by simp [blockPart, noProperties])

theorem blockObject_answers {draft : BlockDraft} {parts : List (List Token)}
    {members : List Member} (written : List.Forall₂ StateDraft.WrittenAs draft.states parts)
    (arranged : Arranged ("states", listTokens parts)
      ("properties", propertiesTokens draft.properties) (draft.properties = ∅) members) :
    blockObject.Answers (insideBracket .object (members.map Member.tokens)) draft.entry? := by
  have answers := states_answers written
  obtain ⟨given, isGiven, run⟩ := arranged.exists_run ⟨none, none⟩
    (fun given states => ⟨given, some states⟩)
    (blockPart_states rfl answers) (blockPart_properties rfl draft.properties)
    (blockPart_states rfl answers) (fun _ => blockPart_properties rfl draft.properties)
  rw [Option.map_map] at run
  rw [BlockDraft.entry?, ← isGiven]
  exact (members_answers run).thenPure fun _ => rfl

theorem blockEntry_answers {draft : BlockDraft} {tokens : List Token}
    (written : draft.WrittenAs tokens) : blockEntry.Answers tokens draft.entry? := by
  obtain ⟨parts, members, statesWritten, arranged, rfl⟩ := written
  exact (recordOpener_takes .block).bind (blockObject_answers statesWritten arranged)

/-! ## Catalogs -/

theorem blocks_answers {draft : CatalogDraft} {members : List Member}
    (written : List.Forall₂ (fun (entry : String × BlockDraft) (member : Member) =>
      member.1 = entry.1 ∧ entry.2.WrittenAs member.2) draft.blocks members) :
    (mapOf blockEntry).Answers (objectTokens members)
      ((entries? BlockDraft.entry? draft.blocks).map OrderedMap.ofList) :=
  mapOf_answers (written.imp fun _ _ same => ⟨same.1, blockEntry_answers same.2⟩)

theorem blockEntries_of_written {draft : CatalogDraft} {text : String}
    (written : draft.WrittenAs text) {entries : List (String × BlockEntry)}
    (isEntries : entries? BlockDraft.entry? draft.blocks = some entries) :
    blockEntries text = .ok (.ofList entries) := by
  obtain ⟨members, blocksWritten, spelled⟩ := written
  have answers := blocks_answers blocksWritten
  rw [isEntries, Option.map_some] at answers
  rw [blockEntries, whole_of_answers answers spelled]

theorem read_error_of_written {draft : CatalogDraft} {text : String}
    (written : draft.WrittenAs text)
    (noEntries : entries? BlockDraft.entry? draft.blocks = none) :
    ∃ error, Catalog.read text = .error (.json error) := by
  obtain ⟨members, blocksWritten, spelled⟩ := written
  have rejects := blocks_answers blocksWritten
  rw [noEntries, Option.map_none] at rejects
  obtain ⟨fault, failed⟩ := whole_of_rejects rejects spelled
  rw [Catalog.read, blockEntries, failed]
  exact ⟨_, rfl⟩

/-! ## Identifiers -/

theorem idOf?_toNat (id : UInt16) : idOf? id.toNat = some id := by
  have small : ((id.toNat : Nat) : Int) ≤ greatestId := by
    have below := id.toNat_lt
    unfold greatestId
    omega
  rw [idOf?, if_pos ⟨Int.natCast_nonneg _, small⟩, Int.toNat_natCast, UInt16.ofNat_toNat]

theorem idOf?_of_outside {value : Int} (outside : value < 0 ∨ 65535 < value) :
    idOf? value = none := by
  rw [idOf?, if_neg]
  unfold greatestId
  omega

theorem state?_draft (state : State) : state.draft.state? = some state := by
  rw [State.draft, StateDraft.state?, idOf?_toNat]
  rfl

theorem entry?_draft (block : Block) :
    block.draft.entry? = some ⟨block.properties, some block.states⟩ := by
  have all : (block.states.map State.draft).mapM StateDraft.state? = some block.states := by
    rw [List.mapM_map]
    exact mapM_of_same state?_draft block.states
  rw [Block.draft, BlockDraft.entry?, all]
  rfl

def entryOf (block : Block) : BlockEntry :=
  ⟨block.properties, some block.states⟩

theorem entries?_draft (catalog : Catalog) :
    entries? BlockDraft.entry? catalog.draft.blocks =
      some (catalog.blocks.entries.map fun entry => (entry.1, entryOf entry.2)) := by
  rw [Catalog.draft, entries?, List.mapM_map]
  apply mapM_of_all
  intro entry
  rw [Function.comp_apply, entry?_draft]
  rfl

/-- One identifier that is rejected leaves no entries. -/
theorem entries?_withId {draft : CatalogDraft} {block state : Nat} {id : Int}
    (outside : id < 0 ∨ 65535 < id) {name : String} {blockDraft : BlockDraft}
    (isBlock : draft.blocks[block]? = some (name, blockDraft))
    (isState : state < blockDraft.states.length) :
    entries? BlockDraft.entry? (draft.withId block state id).blocks = none := by
  have changedBlock : (name, { blockDraft with
      states := blockDraft.states.modify state fun draft => { draft with id := id } }) ∈
        (draft.withId block state id).blocks := by
    apply List.mem_of_getElem? (i := block)
    rw [CatalogDraft.withId, List.getElem?_modify_eq, isBlock]
    rfl
  have changedState : { blockDraft.states[state] with id := id } ∈
      blockDraft.states.modify state fun draft => { draft with id := id } := by
    apply List.mem_of_getElem? (i := state)
    rw [List.getElem?_modify_eq, List.getElem?_eq_getElem isState]
    rfl
  apply mapM_of_none changedBlock
  rw [BlockDraft.entry?, mapM_of_none changedState]
  · rfl
  · rw [StateDraft.state?, idOf?_of_outside outside]
    rfl

end Json

/-! ## Reading undoes writing -/

theorem Catalog.addEntries_entryOf (entries : List (String × Block))
    (keyed : ∀ entry ∈ entries, entry.1 = entry.2.name) (start : Catalog) :
    start.addEntries (entries.map fun entry => (entry.1, Json.entryOf entry.2)) =
      .ok ⟨entries.foldl (fun map entry => map.insert entry.1 entry.2) start.blocks⟩ := by
  induction entries generalizing start with
  | nil => rfl
  | cons entry rest restAdded =>
    obtain ⟨sameName, restKeyed⟩ := List.forall_mem_cons.mp keyed
    have isBlock : (Json.entryOf entry.2).toBlock? entry.1 = .ok entry.2 := by
      rw [sameName]
      rfl
    rw [List.map_cons, Catalog.addEntries, isBlock, List.foldl_cons, sameName]
    exact restAdded restKeyed (start.add entry.2)

theorem Catalog.read_of_written {catalog : Catalog} (keyed : catalog.KeyedByName) {text : String}
    (written : catalog.draft.WrittenAs text) : Catalog.read text = .ok catalog := by
  have distinct : ((catalog.blocks.entries.map fun entry =>
      (entry.1, Json.entryOf entry.2)).map Prod.fst).Nodup := by
    rw [List.map_map]
    exact catalog.blocks.keysDistinct
  have sameBlocks := OrderedMap.ofList_entries catalog.blocks
  rw [Catalog.read, Json.blockEntries_of_written written (Json.entries?_draft catalog)]
  simp only [OrderedMap.entries_ofList distinct]
  rw [Catalog.addEntries_entryOf _ keyed]
  exact congrArg (fun blocks => Except.ok (Catalog.mk blocks)) sameBlocks

theorem Catalog.read_error_of_withId {catalog : Catalog} {block state : Nat} {name : String}
    {declared : Block} (isBlock : catalog.blocks.entries[block]? = some (name, declared))
    (isState : state < declared.states.length) {id : Int} (outside : id < 0 ∨ 65535 < id)
    {text : String} (written : (catalog.draft.withId block state id).WrittenAs text) :
    ∃ error, Catalog.read text = .error (.json error) := by
  have isDraft : catalog.draft.blocks[block]? = some (name, declared.draft) := by
    rw [Catalog.draft, List.getElem?_map, isBlock]
    rfl
  have hasState : state < declared.draft.states.length := by
    rwa [Block.draft, List.length_map]
  exact Json.read_error_of_written written (Json.entries?_withId outside isDraft hasState)

/-- Every text that a catalog can be written as is read as that catalog, and with
an identifier that is no number of 16 bits in place of any one of its own none of
them can be read. -/
theorem reading_undoes_writing (catalog : Catalog) (keyed : catalog.KeyedByName) :
    (∀ text, catalog.draft.WrittenAs text → Catalog.read text = .ok catalog) ∧
    ∀ (block state : Nat) (name : String) (declared : Block) (id : Int),
      catalog.blocks.entries[block]? = some (name, declared) → state < declared.states.length →
        (id < 0 ∨ 65535 < id) →
          ∀ text, (catalog.draft.withId block state id).WrittenAs text →
            ∃ error, Catalog.read text = .error (.json error) := by
  constructor
  · intro text written
    exact Catalog.read_of_written keyed written
  · intro block state name declared id isBlock isState outside text written
    exact Catalog.read_error_of_withId isBlock isState outside written

theorem reading_undoes_writing_of_smile :
    Catalog.read (Json.smileText "7") = .ok ⟨.ofList [("😀", ⟨"😀", ∅, [⟨7, ∅⟩]⟩)]⟩ ∧
      ∃ error, Catalog.read (Json.smileText "65536") = .error (.json error) := by
  have keyed : Catalog.KeyedByName ⟨.ofList [("😀", ⟨"😀", ∅, [⟨7, ∅⟩]⟩)]⟩ := by
    unfold Catalog.KeyedByName
    decide
  obtain ⟨read, rejected⟩ := reading_undoes_writing _ keyed
  exact ⟨read _ (Json.smile_written 7 (by decide)),
    rejected 0 0 "😀" _ 65536 rfl (by decide) (by decide) _ (Json.smile_written 65536 (by decide))⟩

end BlockStates
