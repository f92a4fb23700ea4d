import BlockStates.Proofs.Json.TreeReading

/-!
# Whatever is accepted is JSON

A reader takes nothing but values of the grammar.  So a text is read exactly if it
is a JSON text and its value has a meaning, and the meaning is what is read.
-/

set_option autoImplicit false

namespace BlockStates.Json

/-- Whatever a reader accepts in front of an end is a value of the grammar. -/
def Reader.TakesValues {Value : Type} (reader : Reader Value) : Prop :=
  ∀ {text rest : List Char} {value : Value}, Ended rest → reader.run text = .ok (value, rest) →
    ∃ tree, Written (.value tree) text rest

theorem Reader.run_bind_eq_ok {Value Other : Type} {first : Reader Value}
    {second : Value → Reader Other} {text rest : List Char} {result : Other} :
    (first >>= second).run text = .ok (result, rest) ↔
      ∃ value middle, first.run text = .ok (value, middle) ∧
        (second value).run middle = .ok (result, rest) := by
  rw [Reader.run_bind]
  cases first.run text with
  | error fault => simp
  | ok answer =>
    obtain ⟨value, middle⟩ := answer
    simp

/-! ## Single steps -/

section Steps

variable {text rest : List Char}

theorem onFirst_eq_ok {Value : Type} {atEnd : Cause}
    {choose : Char → List Char → Except Fault Value} {value : Value}
    (read : (Reader.onFirst atEnd choose).run text = .ok (value, rest)) :
    ∃ first, skipBlanks text = first :: rest ∧ choose first rest = .ok value := by
  simp only [Reader.onFirst] at read
  split at read
  · cases read
  · next first tail front =>
    obtain ⟨value, chosen, same⟩ := (map_eq_ok_iff _ _ _).mp read
    cases same
    exact ⟨first, front, chosen⟩

theorem opener_eq_ok {opening : Char} {wanted : Wanted} {nothing : Unit}
    (read : (opener opening wanted).run text = .ok (nothing, rest)) :
    skipBlanks text = opening :: rest := by
  obtain ⟨first, front, chosen⟩ := onFirst_eq_ok read
  split at chosen
  · next isOpening => exact isOpening ▸ front
  · cases chosen

theorem recordOpener_eq_ok {bracket : Bracket} {wanted : Wanted}
    (read : (recordOpener wanted).run text = .ok (bracket, rest)) :
    skipBlanks text = bracket.opener :: rest := by
  obtain ⟨first, front, chosen⟩ := onFirst_eq_ok read
  split at chosen
  · next isList =>
    cases chosen
    rw [front, isList]
    rfl
  · split at chosen
    · next isObject =>
      cases chosen
      rw [front, isObject]
      rfl
    · cases chosen

theorem endOfItems_eq_ok {nothing : Unit} (read : endOfItems.run text = .ok (nothing, rest)) :
    skipBlanks text = ']' :: rest := by
  obtain ⟨first, front, chosen⟩ := onFirst_eq_ok read
  split at chosen
  · next isCloser => exact isCloser ▸ front
  · split at chosen
    · split at chosen
      · cases chosen
      · split at chosen <;> cases chosen
    · cases chosen

theorem firstItem_eq_ok {turn : Turn} (read : firstItem.run text = .ok (turn, rest)) :
    turn = .close ∧ skipBlanks text = ']' :: rest ∨ turn = .item ∧ rest = skipBlanks text := by
  simp only [firstItem] at read
  split at read
  · cases read
  · next first tail front =>
    split at read
    · next isCloser =>
      cases read
      exact Or.inl ⟨rfl, isCloser ▸ front⟩
    · cases read
      exact Or.inr ⟨rfl, front.symm⟩

theorem laterItemScan_eq_ok {turn : Turn} (read : laterItemScan text = .ok (turn, rest)) :
    turn = .close ∧ skipBlanks text = ']' :: rest ∨
      ∃ next, turn = .item ∧ skipBlanks text = ',' :: next ∧ rest = skipBlanks next := by
  unfold laterItemScan at read
  split at read
  · cases read
  · next first tail front =>
    split at read
    · next isCloser =>
      cases read
      exact Or.inl ⟨rfl, isCloser ▸ front⟩
    · split at read
      · next isComma =>
        split at read
        · cases read
        · next inner =>
          split at read
          · cases read
          · cases read
            exact Or.inr ⟨tail, rfl, isComma ▸ front, inner.symm⟩
      · cases read

theorem firstMember_eq_ok {turn : Turn} (read : firstMember.run text = .ok (turn, rest)) :
    turn = .close ∧ skipBlanks text = '\x7d' :: rest ∨
      turn = .item ∧ skipBlanks text = '"' :: rest := by
  obtain ⟨first, front, chosen⟩ := onFirst_eq_ok read
  split at chosen
  · next isCloser =>
    cases chosen
    exact Or.inl ⟨rfl, isCloser ▸ front⟩
  · split at chosen
    · next isQuote =>
      cases chosen
      exact Or.inr ⟨rfl, isQuote ▸ front⟩
    · cases chosen

theorem laterMemberScan_eq_ok {turn : Turn} (read : laterMemberScan text = .ok (turn, rest)) :
    turn = .close ∧ skipBlanks text = '\x7d' :: rest ∨
      ∃ next, turn = .item ∧ skipBlanks text = ',' :: next ∧ skipBlanks next = '"' :: rest := by
  unfold laterMemberScan at read
  split at read
  · cases read
  · next first tail front =>
    split at read
    · next isCloser =>
      cases read
      exact Or.inl ⟨rfl, isCloser ▸ front⟩
    · split at read
      · next isComma =>
        split at read
        · cases read
        · next next later inner =>
          split at read
          · next isQuote =>
            cases read
            exact Or.inr ⟨tail, rfl, isComma ▸ front, isQuote ▸ inner⟩
          · split at read <;> cases read
      · cases read

theorem stringBody_eq_ok {value : String} (read : stringBody.run text = .ok (value, rest)) :
    ∃ characters, text = characters ++ '"' :: rest ∧ SpellsContent (some value) characters := by
  obtain ⟨result, stringRead, same⟩ := (map_eq_ok_iff _ _ _).mp read
  cases same
  obtain ⟨characters, sameText, spells⟩ := readString_eq_ok_iff.mp stringRead
  refine ⟨characters, sameText, .value ?_⟩
  rwa [String.toList_ofList]

theorem colon_eq_ok {nothing : Unit} (read : colon.run text = .ok (nothing, rest)) :
    skipBlanks text = ':' :: rest := by
  obtain ⟨behind, skipped, same⟩ := (map_eq_ok_iff _ _ _).mp read
  cases same
  exact skipColon_eq_ok_iff.mp skipped

end Steps

/-! ## Single values -/

theorem string_takesValues : string.TakesValues := by
  intro text rest value _ read
  obtain ⟨_, inside, opened, bodyRead⟩ := Reader.run_bind_eq_ok.mp read
  obtain ⟨characters, rfl, spells⟩ := stringBody_eq_ok bodyRead
  exact ⟨_, .text (opener_eq_ok opened) spells⟩

theorem stateId_takesValues : stateId.TakesValues := by
  intro text rest id ended read
  obtain ⟨value, natural, numberRead⟩ := stateId_eq_ok read
  obtain ⟨⟨digits, front, isWhole⟩, -⟩ := readNumber_eq_natural numberRead natural
  have isUnsigned := IsUnsigned.parts isWhole .absent .absent
  rw [List.append_nil, List.append_nil] at isUnsigned
  exact ⟨.number digits, .number front (.positive isUnsigned) ended⟩

theorem ignored_takesValues : ignored.TakesValues := by
  intro text rest value ended read
  obtain ⟨behind, skipped, same⟩ := (map_eq_ok_iff _ _ _).mp read
  cases same
  exact (skipValue_eq_ok_iff ended).mp skipped

theorem optional_takesValues {Value : Type} {value : Reader Value} (takes : value.TakesValues) :
    (optional value).TakesValues := by
  intro text rest result ended read
  simp only [optional] at read
  split at read
  · next tail front =>
    obtain ⟨behind, word, same⟩ := (map_eq_ok_iff _ _ _).mp read
    cases same
    rw [eq_append_of_skipWord word] at front
    exact ⟨.null, .null front⟩
  · obtain ⟨pair, valueRead, same⟩ := (map_eq_ok_iff _ _ _).mp read
    cases same
    exact takes ended valueRead

/-! ## Lists -/

theorem Written.ended_of_laterItems {items : List Tree} {text rest : List Char}
    (written : Written (.laterItems items) text rest) : Ended text := by
  cases written with
  | lastItem mark | nextItem mark => exact ended_of_mark mark (by decide)

theorem Written.ended_of_laterMembers {members : List TreeMember} {text rest : List Char}
    (written : Written (.laterMembers members) text rest) : Ended text := by
  cases written with
  | lastMember mark | nextMember mark => exact ended_of_mark mark (by decide)

/-- Behind an item the list goes on, so the item has ended. -/
theorem Reader.TakesValues.firstItem {Value : Type} {item : Reader Value}
    (takes : item.TakesValues) {items : List Tree} {text behind rest : List Char} {value : Value}
    (read : item.run (skipBlanks text) = .ok (value, behind))
    (later : Written (.laterItems items) behind rest) :
    ∃ tree, Written (.items (tree :: items)) text rest := by
  obtain ⟨tree, first⟩ := takes later.ended_of_laterItems read
  exact ⟨tree, .firstItem (first.of_front (skipBlanks_skipBlanks text).symm) later⟩

section Items

variable {Value : Type} {item : Reader Value} (takes : item.TakesValues)

include takes

theorem exists_laterItems {text rest : List Char} {values : List Value}
    (read : laterItems item text = .ok (values, rest)) :
    ∃ items, Written (.laterItems items) text rest := by
  fun_induction laterItems item text generalizing values rest with
  | case1 => cases read
  | case2 text end_ turn =>
    cases read
    obtain ⟨-, closes⟩ | ⟨_, ⟨⟩, -⟩ := laterItemScan_eq_ok turn
    exact ⟨[], .lastItem closes⟩
  | case3 => cases read
  | case4 => cases read
  | case5 text start turn value behind itemRead _ _ values end_ itemsRead laterWritten =>
    cases read
    obtain ⟨⟨⟩, -⟩ | ⟨next, -, comma, isStart⟩ := laterItemScan_eq_ok turn
    rw [isStart] at itemRead
    obtain ⟨items, later⟩ := laterWritten itemsRead
    obtain ⟨tree, inner⟩ := takes.firstItem itemRead later
    exact ⟨tree :: items, .nextItem comma inner⟩

theorem listOf_takesValues : (listOf item).TakesValues := by
  intro text rest values _ read
  obtain ⟨_, inside, opened, insideRead⟩ := Reader.run_bind_eq_ok.mp read
  have opens := opener_eq_ok opened
  obtain ⟨turn, start, turnRead, restRead⟩ := Reader.run_bind_eq_ok.mp insideRead
  obtain ⟨rfl, closes⟩ | ⟨rfl, rfl⟩ := firstItem_eq_ok turnRead
  · cases restRead
    exact ⟨.list [], .list opens (.noItem closes)⟩
  · obtain ⟨value, behind, itemRead, laterRead⟩ := Reader.run_bind_eq_ok.mp restRead
    obtain ⟨values, end_, itemsRead, same⟩ := Reader.run_bind_eq_ok.mp laterRead
    cases same
    obtain ⟨items, later⟩ := exists_laterItems takes itemsRead
    obtain ⟨tree, inner⟩ := takes.firstItem itemRead later
    exact ⟨.list (tree :: items), .list opens inner⟩

end Items

/-! ## Objects -/

def TakesMembers {Value : Type} (member : Value → String → Reader Value) : Prop :=
  ∀ (soFar : Value) (name : String) (text rest : List Char) (value : Value), Ended rest →
    (member soFar name).run text = .ok (value, rest) →
      ∃ inner tree, skipBlanks text = ':' :: inner ∧ Written (.value tree) inner rest

theorem Reader.TakesValues.behindColon {Value Part : Type} {part : Reader Part}
    (takes : part.TakesValues) (change : Part → Value) {text rest : List Char} {value : Value}
    (ended : Ended rest)
    (read : (do
      colon
      return change (← part)).run text = .ok (value, rest)) :
    ∃ inner tree, skipBlanks text = ':' :: inner ∧ Written (.value tree) inner rest := by
  obtain ⟨_, inner, colonRead, partRead⟩ := Reader.run_bind_eq_ok.mp read
  obtain ⟨part, behind, valueRead, same⟩ := Reader.run_bind_eq_ok.mp partRead
  cases same
  obtain ⟨tree, written⟩ := takes ended valueRead
  exact ⟨inner, tree, colon_eq_ok colonRead, written⟩

theorem duplicate_ne_ok {Value : Type} {name : String} {text rest : List Char} {value : Value} :
    (duplicate name : Reader Value).run text ≠ .ok (value, rest) := by
  simp only [duplicate]
  split <;> simp

section Members

variable {Value : Type} {member : Value → String → Reader Value} (takes : TakesMembers member)

include takes

/-- A member from behind the quote that opens its name, in front of others. -/
theorem exists_firstMember {soFar value : Value} {name : String}
    {members : List TreeMember} {text quoted afterName behind rest : List Char}
    (quote : skipBlanks text = '"' :: quoted)
    (nameRead : stringBody.run quoted = .ok (name, afterName))
    (memberRead : (member soFar name).run afterName = .ok (value, behind))
    (later : Written (.laterMembers members) behind rest) :
    ∃ first, Written (.members (first :: members)) text rest := by
  obtain ⟨characters, rfl, spells⟩ := stringBody_eq_ok nameRead
  obtain ⟨inner, tree, colonNext, first⟩ := takes _ _ _ _ _ later.ended_of_laterMembers memberRead
  exact ⟨(some name, tree), .firstMember quote spells colonNext first later⟩

theorem exists_laterMembers {soFar value : Value} {text rest : List Char}
    (read : laterMembers member soFar text = .ok (value, rest)) :
    ∃ members, Written (.laterMembers members) text rest := by
  fun_induction laterMembers member soFar text with
  | case1 => cases read
  | case2 soFar text end_ turn =>
    cases read
    obtain ⟨-, closes⟩ | ⟨_, ⟨⟩, -⟩ := laterMemberScan_eq_ok turn
    exact ⟨[], .lastMember closes⟩
  | case3 => cases read
  | case4 => cases read
  | case5 soFar text start turn name afterName nameRead next behind memberRead _ _ _ laterWritten =>
    obtain ⟨⟨⟩, -⟩ | ⟨next, -, comma, quote⟩ := laterMemberScan_eq_ok turn
    obtain ⟨members, later⟩ := laterWritten read
    obtain ⟨first, inner⟩ := exists_firstMember takes quote nameRead memberRead later
    exact ⟨first :: members, .nextMember comma inner⟩

theorem exists_members_of_read {start value : Value} {text rest : List Char}
    (read : (Json.members member start).run text = .ok (value, rest)) :
    ∃ members, Written (.members members) text rest := by
  obtain ⟨turn, inside, turnRead, restRead⟩ := Reader.run_bind_eq_ok.mp read
  obtain ⟨rfl, closes⟩ | ⟨rfl, quote⟩ := firstMember_eq_ok turnRead
  · cases restRead
    exact ⟨[], .noMember closes⟩
  · obtain ⟨name, afterName, nameRead, memberRest⟩ := Reader.run_bind_eq_ok.mp restRead
    obtain ⟨soFar, behind, memberRead, laterRead⟩ := Reader.run_bind_eq_ok.mp memberRest
    obtain ⟨members, later⟩ := exists_laterMembers takes laterRead
    obtain ⟨first, inner⟩ := exists_firstMember takes quote nameRead memberRead later
    exact ⟨first :: members, inner⟩

end Members

theorem mapOf_takesValues {Value : Type} {value : Reader Value} (takes : value.TakesValues) :
    (mapOf value).TakesValues := by
  intro text rest map _ read
  obtain ⟨_, inside, opened, insideRead⟩ := Reader.run_bind_eq_ok.mp read
  have takesMembers : TakesMembers fun (map : OrderedMap String Value) name => do
      colon
      let value ← value
      return map.insert name value :=
    fun map name _ _ _ ended read => takes.behindColon (map.insert name) ended read
  obtain ⟨members, inner⟩ := exists_members_of_read takesMembers insideRead
  exact ⟨.object members, .object (opener_eq_ok opened) inner⟩

theorem assignment_takesValues : assignment.TakesValues :=
  mapOf_takesValues string_takesValues

theorem properties_takesValues : properties.TakesValues :=
  mapOf_takesValues (listOf_takesValues string_takesValues)

/-! ## Parts of states and blocks -/

theorem ReadsTwoParts.takesMembers {Parts First Second : Type}
    {given : Parts ≃ Option First × Option Second} {firstName secondName : String}
    {first : Reader First} {second : Reader Second} {member : Parts → String → Reader Parts}
    (reads : ReadsTwoParts given firstName secondName first second member)
    (firstTakes : first.TakesValues) (secondTakes : second.TakesValues) : TakesMembers member := by
  intro parts name text rest value ended read
  by_cases isFirst : name = firstName
  · subst isFirst
    rw [reads.readsFirst] at read
    split at read
    · exact absurd read duplicate_ne_ok
    · exact firstTakes.behindColon (fun part => given.symm (some part, (given parts).2)) ended read
  · by_cases isSecond : name = secondName
    · subst isSecond
      rw [reads.readsSecond] at read
      split at read
      · exact absurd read duplicate_ne_ok
      · exact secondTakes.behindColon (fun part => given.symm ((given parts).1, some part)) ended
          read
    · rw [reads.readsOther parts name isFirst isSecond] at read
      exact ignored_takesValues.behindColon (fun _ => parts) ended read

/-- The last part of a value that is written as a list. -/
theorem exists_lastItem {Value Part : Type} {part : Reader Part} (takes : part.TakesValues)
    {make : Part → Value} {text rest : List Char} {value : Value}
    (read : (do
      let part ← part
      endOfItems
      return make part).run (skipBlanks text) = .ok (value, rest)) :
    ∃ tree, Written (.items [tree]) text rest := by
  obtain ⟨part, behind, partRead, restRead⟩ := Reader.run_bind_eq_ok.mp read
  obtain ⟨_, _, endRead, same⟩ := Reader.run_bind_eq_ok.mp restRead
  cases same
  exact takes.firstItem partRead (.lastItem (endOfItems_eq_ok endRead))

/-! ## States -/

theorem stateObject_takes {text rest : List Char} {value : State}
    (read : stateObject.run text = .ok (value, rest)) :
    ∃ members, Written (.members members) text rest := by
  obtain ⟨parts, behind, partsRead, restRead⟩ := Reader.run_bind_eq_ok.mp read
  split at restRead
  · cases restRead
  · cases restRead
    have takes := statePart_reads.takesMembers stateId_takesValues assignment_takesValues
    exact exists_members_of_read takes partsRead

theorem stateList_takes {text rest : List Char} {value : State}
    (read : stateList.run text = .ok (value, rest)) :
    ∃ items, Written (.items items) text rest := by
  obtain ⟨turn, start, turnRead, restRead⟩ := Reader.run_bind_eq_ok.mp read
  obtain ⟨rfl, -⟩ | ⟨rfl, rfl⟩ := firstItem_eq_ok turnRead
  · cases restRead
  · obtain ⟨id, behind, idRead, restRead⟩ := Reader.run_bind_eq_ok.mp restRead
    obtain ⟨turn, start, turnRead, restRead⟩ := Reader.run_bind_eq_ok.mp restRead
    obtain ⟨rfl, closes⟩ | ⟨next, rfl, comma, rfl⟩ := laterItemScan_eq_ok turnRead
    · cases restRead
      obtain ⟨tree, inner⟩ := stateId_takesValues.firstItem idRead (.lastItem closes)
      exact ⟨[tree], inner⟩
    · obtain ⟨second, later⟩ := exists_lastItem assignment_takesValues restRead
      obtain ⟨first, inner⟩ := stateId_takesValues.firstItem idRead (.nextItem comma later)
      exact ⟨[first, second], inner⟩

theorem state_takesValues : state.TakesValues := by
  intro text rest value _ read
  obtain ⟨bracket, inside, opened, insideRead⟩ := Reader.run_bind_eq_ok.mp read
  have opens := recordOpener_eq_ok opened
  cases bracket with
  | object =>
    obtain ⟨members, inner⟩ := stateObject_takes insideRead
    exact ⟨.object members, .object opens inner⟩
  | list =>
    obtain ⟨items, inner⟩ := stateList_takes insideRead
    exact ⟨.list items, .list opens inner⟩

theorem states_takesValues : states.TakesValues :=
  optional_takesValues (listOf_takesValues state_takesValues)

/-! ## Blocks -/

theorem blockList_takes {text rest : List Char} {value : BlockEntry}
    (read : blockList.run text = .ok (value, rest)) :
    ∃ items, Written (.items items) text rest := by
  obtain ⟨turn, start, turnRead, restRead⟩ := Reader.run_bind_eq_ok.mp read
  obtain ⟨rfl, -⟩ | ⟨rfl, rfl⟩ := firstItem_eq_ok turnRead
  · cases restRead
  · obtain ⟨properties, behind, propertiesRead, restRead⟩ := Reader.run_bind_eq_ok.mp restRead
    obtain ⟨turn, start, turnRead, restRead⟩ := Reader.run_bind_eq_ok.mp restRead
    obtain ⟨rfl, -⟩ | ⟨next, rfl, comma, rfl⟩ := laterItemScan_eq_ok turnRead
    · cases restRead
    · obtain ⟨second, later⟩ := exists_lastItem states_takesValues restRead
      obtain ⟨first, inner⟩ :=
        properties_takesValues.firstItem propertiesRead (.nextItem comma later)
      exact ⟨[first, second], inner⟩

theorem blockEntry_takesValues : blockEntry.TakesValues := by
  intro text rest value _ read
  obtain ⟨bracket, inside, opened, insideRead⟩ := Reader.run_bind_eq_ok.mp read
  have opens := recordOpener_eq_ok opened
  cases bracket with
  | object =>
    obtain ⟨parts, behind, partsRead, same⟩ := Reader.run_bind_eq_ok.mp insideRead
    cases same
    have takes := blockPart_reads.takesMembers properties_takesValues states_takesValues
    obtain ⟨members, inner⟩ := exists_members_of_read takes partsRead
    exact ⟨.object members, .object opens inner⟩
  | list =>
    obtain ⟨items, inner⟩ := blockList_takes insideRead
    exact ⟨.list items, .list opens inner⟩

/-! ## Whole texts -/

theorem exists_writtenAs {Value : Type} {reader : Reader Value} (takes : reader.TakesValues)
    {text : String} {value : Value} (read : reader.whole text.toList = .ok value) :
    ∃ tree : Tree, tree.WrittenAs text := by
  unfold Reader.whole at read
  split at read
  · cases read
  · next rest valueRead =>
    split at read
    · next nothing =>
      have ended : Ended rest := ended_of_skipBlanks (by simp [nothing])
      obtain ⟨tree, written⟩ := takes ended valueRead
      exact ⟨tree, rest, written, nothing⟩
    · cases read

/-- A text is read exactly if it is a JSON text of a value with a meaning. -/
theorem whole_eq_ok_iff {Value : Type} {reader : Reader Value} {meaning : Tree → Option Value}
    (means : reader.Means meaning) (takes : reader.TakesValues) {text : String} {value : Value} :
    reader.whole text.toList = .ok value ↔
      ∃ tree : Tree, tree.WrittenAs text ∧ meaning tree = some value := by
  constructor
  · intro read
    obtain ⟨tree, written⟩ := exists_writtenAs takes read
    exact ⟨tree, written, (written.whole_eq_ok_iff means).mp read⟩
  · rintro ⟨tree, written, isValue⟩
    exact (written.whole_eq_ok_iff means).mpr isValue

/-! ## Catalogs -/

theorem blocks_means : (mapOf blockEntry).Means (Tree.map? Tree.block?) :=
  mapOf_means blockEntry_means

theorem Tree.map?_eq_some_iff {Value : Type} {value? : Tree → Option Value} {tree : Tree}
    {map : OrderedMap String Value} :
    tree.map? value? = some map ↔
      ∃ members entries, tree = .object members ∧ memberEntries? value? members = some entries ∧
        OrderedMap.ofList entries = map := by
  cases tree with
  | object members => simp [Tree.map?, Option.map_eq_some_iff]
  | _ => simp [Tree.map?]

theorem blockEntries_eq_ok_iff_whole {text : String} {map : OrderedMap String BlockEntry} :
    blockEntries text = .ok map ↔ (mapOf blockEntry).whole text.toList = .ok map := by
  rw [blockEntries]
  cases (mapOf blockEntry).whole text.toList <;> simp

theorem Tree.WrittenAs.blockEntries_eq_ok_iff {tree : Tree} {text : String}
    (written : tree.WrittenAs text) {map : OrderedMap String BlockEntry} :
    blockEntries text = .ok map ↔ tree.map? Tree.block? = some map :=
  blockEntries_eq_ok_iff_whole.trans (written.whole_eq_ok_iff blocks_means)

/-- A text is read as entries of blocks exactly if it is the text of an object of
blocks; of equal names the first one gives the place and the last one the block. -/
theorem blockEntries_eq_ok_iff {text : String} {map : OrderedMap String BlockEntry} :
    blockEntries text = .ok map ↔
      ∃ members entries, (Tree.object members).WrittenAs text ∧
        memberEntries? Tree.block? members = some entries ∧ OrderedMap.ofList entries = map := by
  rw [blockEntries_eq_ok_iff_whole,
    whole_eq_ok_iff blocks_means (mapOf_takesValues blockEntry_takesValues)]
  constructor
  · rintro ⟨tree, written, isMap⟩
    obtain ⟨members, entries, rfl, isEntries, isList⟩ := Tree.map?_eq_some_iff.mp isMap
    exact ⟨members, entries, written, isEntries, isList⟩
  · rintro ⟨members, entries, written, isEntries, isList⟩
    exact ⟨_, written, Tree.map?_eq_some_iff.mpr ⟨members, entries, rfl, isEntries, isList⟩⟩

end BlockStates.Json
