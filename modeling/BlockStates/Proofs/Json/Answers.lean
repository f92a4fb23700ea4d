import Mathlib.Data.List.Forall2
import BlockStates.Proofs.Json.TokenReading

/-!
# What readers answer to tokens

A reader answers to some tokens with a value, or it rejects them: in whatever way
the tokens are spelled and whatever follows them.  The answer for a list or an
object comes from those for its parts, which are read from left to right up to
the first one that is rejected.
-/

set_option autoImplicit false

namespace BlockStates.Json

/-- The result of a run is the value of the answer, with a spelling of the tokens
that follow left over, or a fault if there is no value. -/
inductive Outcome {Value : Type} (more : List Token) :
    Option Value → Except Fault (Value × List Char) → Prop where
  | read {value : Value} {rest : List Char} (left : Spelled more rest) :
      Outcome more (some value) (.ok (value, rest))
  | rejected {fault : Fault} : Outcome more none (.error fault)

theorem Outcome.exists_rest {Value : Type} {more : List Token} {value : Value}
    {result : Except Fault (Value × List Char)} (outcome : Outcome more (some value) result) :
    ∃ rest, result = .ok (value, rest) ∧ Spelled more rest := by
  cases outcome with
  | read left => exact ⟨_, rfl, left⟩

namespace Reader

variable {Value Other : Type}

def Answers (reader : Reader Value) (tokens : List Token) (answer : Option Value) : Prop :=
  ∀ more text, Parted more → Spelled (tokens ++ more) text → Outcome more answer (reader.run text)

def Takes (reader : Reader Value) (token : Token) (value : Value) : Prop :=
  ∀ more text, Spelled (token :: more) text → Outcome more (some value) (reader.run text)

variable {first : Reader Value} {second : Value → Reader Other} {token : Token}
  {tokens later : List Token} {value : Value} {answer : Option Value}

theorem Takes.answers (takes : first.Takes token value) : first.Answers [token] (some value) :=
  fun more text _ spelled => takes more text spelled

/-- What is read second starts where what is read first has ended. -/
theorem outcome_bind {more : List Token} {next : Value → Option Other} {text : List Char}
    (outcome : Outcome later answer (first.run text))
    (follows : ∀ value rest, answer = some value → Spelled later rest →
      Outcome more (next value) ((second value).run rest)) :
    Outcome more (answer.bind next) ((first >>= second).run text) := by
  rw [run_bind]
  revert outcome
  cases first.run text with
  | error fault =>
    rintro ⟨⟩
    exact .rejected
  | ok result =>
    rintro ⟨left⟩
    exact follows _ _ rfl left

theorem outcome_then {more : List Token} {answer : Option Other} {text : List Char}
    (outcome : Outcome later (some value) (first.run text))
    (follows : ∀ rest, Spelled later rest → Outcome more answer ((second value).run rest)) :
    Outcome more answer ((first >>= second).run text) := by
  have whole : Outcome more ((some value).bind fun _ => answer) ((first >>= second).run text) := by
    apply outcome_bind outcome
    rintro _ rest ⟨⟩ left
    exact follows rest left
  exact whole

theorem outcome_of_rejected {more : List Token} {text : List Char}
    (outcome : Outcome later none (first.run text)) :
    Outcome more none ((first >>= second).run text) := by
  have whole : Outcome more ((none : Option Value).bind fun _ => none)
      ((first >>= second).run text) := outcome_bind outcome (by rintro _ _ ⟨⟩)
  exact whole

theorem Takes.bind {answer : Option Other} (takes : first.Takes token value)
    (answers : (second value).Answers tokens answer) :
    (first >>= second).Answers (token :: tokens) answer := by
  intro more text parted spelled
  apply outcome_then (takes (tokens ++ more) text spelled)
  intro rest left
  exact answers more rest parted left

/-- What has been read only takes another form. -/
theorem Answers.thenPure {Part : Type} {answer : Option Part} {change : Part → Value}
    {final : Part → Other} (answers : first.Answers tokens (answer.map change))
    (settled : ∀ part, second (change part) = pure (final part)) :
    (first >>= second).Answers tokens (answer.map final) := by
  intro more text parted spelled
  have outcome := answers more text parted spelled
  cases answer with
  | none => exact outcome_of_rejected outcome
  | some part =>
    apply outcome_then outcome
    intro rest left
    rw [settled part]
    exact .read left

theorem Answers.map (answers : first.Answers tokens answer) (change : Value → Other) :
    (first >>= fun value => pure (change value)).Answers tokens (answer.map change) := by
  have same : first.Answers tokens (answer.map id) := by rwa [Option.map_id]
  exact same.thenPure fun _ => rfl

end Reader

open Reader

/-! ## Single tokens -/

theorem onFirst_takes {Value : Type} {token : Token} {mark : Char} {value : Value} {atEnd : Cause}
    {choose : Char → List Char → Except Fault Value} (isMark : token.mark? = some mark)
    (chosen : ∀ rest, choose mark rest = .ok value) :
    (Reader.onFirst atEnd choose).Takes token value := by
  intro more text spelled
  obtain ⟨rest, skipped, left⟩ := spelled.skipBlanks_mark isMark
  simp only [Reader.onFirst, skipped, chosen]
  exact .read left

theorem opener_takes (bracket : Bracket) (wanted : Wanted) :
    (opener bracket.opener wanted).Takes (.opening bracket) () :=
  onFirst_takes rfl fun _ => if_pos rfl

theorem recordOpener_takes (wanted : Wanted) :
    (recordOpener wanted).Takes (.opening .object) .object :=
  onFirst_takes rfl fun _ => rfl

theorem colon_takes : colon.Takes .colon () := by
  intro more text spelled
  obtain ⟨rest, skipped, left⟩ := spelled.skipBlanks_mark rfl
  simp only [colon, Reader.ofScan, skipColon, skipped, if_true]
  exact .read left

/-- The value of a member, kept in some form. -/
theorem Reader.Answers.behindColon {Value Part : Type} {part : Reader Part} {tokens : List Token}
    {answer : Option Part} (answers : part.Answers tokens answer) (change : Part → Value)
    {member : Reader Value} (reads : member = do
      colon
      return change (← part)) :
    member.Answers (.colon :: tokens) (answer.map change) := by
  rw [reads]
  exact colon_takes.bind (answers.map change)

theorem stringBody_run {value characters : List Char} (spells : SpellsText value characters)
    (rest : List Char) :
    stringBody.run (characters ++ '"' :: rest) = .ok (String.ofList value, rest) := by
  simp only [stringBody, spells.readString_eq]
  rfl

theorem string_takes (value : String) : string.Takes (.text value) value := by
  intro more text spelled
  obtain ⟨characters, rest, skipped, spells, left⟩ := spelled.skipBlanks_text
  have opened : (opener '"' .text).run text = .ok ((), characters ++ '"' :: rest) := by
    simp only [opener, Reader.onFirst, skipped, if_true]
    rfl
  rw [string, Reader.run_bind, opened]
  simp only [stringBody_run spells, String.ofList_toList]
  exact .read left

theorem stateId_answers (value : Int) : stateId.Answers [integerToken value] (idOf? value) := by
  intro more text parted spelled
  obtain ⟨rest, skipped, left⟩ := spelled.skipBlanks_plain
  obtain ⟨accepts, rejects⟩ := stateId_integer value skipped (left.not_plain_of_parted parted)
  cases isId : idOf? value with
  | none =>
    obtain ⟨fault, failed⟩ := rejects isId
    rw [failed]
    exact .rejected
  | some id =>
    rw [accepts id isId]
    exact .read left

/-! ## Lists -/

def OpensValue (tokens : List Token) : Prop :=
  ∃ token rest, tokens = token :: rest ∧ token.isPunctuation = false

theorem parted_of_mark {token : Token} {mark : Char} (isMark : token.mark? = some mark)
    (tokens : List Token) : Parted (token :: tokens) := by
  intro characters isPlain
  obtain rfl := Option.some.inj isPlain
  cases isMark

theorem parted_behindPart (bracket : Bracket) (parts : List (List Token)) (more : List Token) :
    Parted (behindPart bracket parts ++ more) := by
  cases parts with
  | nil => exact parted_of_mark rfl _
  | cons part parts => exact parted_of_mark rfl _

theorem firstItem_of_closing {more : List Token} {text : List Char}
    (spelled : Spelled (.closing .list :: more) text) :
    Outcome more (some Turn.close) (firstItem.run text) := by
  obtain ⟨rest, skipped, left⟩ := spelled.skipBlanks_mark rfl
  simp only [firstItem, skipped, Bracket.closer, if_true]
  exact .read left

theorem firstItem_of_value {tokens more : List Token} {text : List Char} (opens : OpensValue tokens)
    (spelled : Spelled (tokens ++ more) text) :
    Outcome (tokens ++ more) (some Turn.item) (firstItem.run text) := by
  obtain ⟨token, later, rfl, opensValue⟩ := opens
  obtain ⟨first, rest, skipped, starts, left⟩ := spelled.of_skipBlanks
  have noCloser : first ≠ ']' := starts.not_mark opensValue (.closing .list) rfl rfl
  simp only [firstItem, skipped, noCloser, if_false]
  exact .read left

theorem laterItemScan_of_closing {more : List Token} {text : List Char}
    (spelled : Spelled (.closing .list :: more) text) :
    Outcome more (some Turn.close) (laterItemScan text) := by
  obtain ⟨rest, skipped, left⟩ := spelled.skipBlanks_mark rfl
  simp only [laterItemScan, skipped, Bracket.closer, if_true]
  exact .read left

theorem laterItemScan_of_value {tokens more : List Token} {text : List Char}
    (opens : OpensValue tokens) (spelled : Spelled (.comma :: (tokens ++ more)) text) :
    Outcome (tokens ++ more) (some Turn.item) (laterItemScan text) := by
  obtain ⟨token, later, rfl, opensValue⟩ := opens
  obtain ⟨behind, skipped, spelledBehind⟩ := spelled.skipBlanks_mark rfl
  obtain ⟨first, rest, skippedBehind, starts, left⟩ := spelledBehind.of_skipBlanks
  have noCloser : first ≠ ']' := starts.not_mark opensValue (.closing .list) rfl rfl
  simp only [laterItemScan, skipped, skippedBehind, noCloser, if_false, if_true]
  exact .read left

section Items

variable {Input Value : Type} {item : Reader Value} {answerOf : Input → Option Value}

theorem laterItems_of_close {text rest : List Char}
    (turn : laterItemScan text = .ok (.close, rest)) :
    laterItems item text = .ok ([], rest) := by
  rw [laterItems]
  split
  · next failed => cases failed.symm.trans turn
  · next closed => cases closed.symm.trans turn; rfl
  · next another => cases another.symm.trans turn

theorem laterItems_of_item {text rest : List Char}
    (turn : laterItemScan text = .ok (.item, rest)) :
    laterItems item text =
      (item >>= fun value =>
        (⟨laterItems item, laterItems_suffix⟩ : Reader (List Value)) >>= fun values =>
          pure (value :: values)).run rest := by
  rw [laterItems]
  split
  · next failed => cases failed.symm.trans turn
  · next closed => cases closed.symm.trans turn
  · next another =>
    cases another.symm.trans turn
    split
    · next failed => simp [failed]
    · next value behind itemRead =>
      simp only [Reader.run_bind, itemRead]
      cases laterItems item behind <;> rfl

abbrev ItemsAnswered (item : Reader Value) (answerOf : Input → Option Value)
    (inputs : List Input) (parts : List (List Token)) : Prop :=
  List.Forall₂ (fun input tokens => item.Answers tokens (answerOf input) ∧ OpensValue tokens)
    inputs parts

/-- The items of a list, from one of them on. -/
theorem items_outcome {inputs : List Input} {parts : List (List Token)}
    (all : ItemsAnswered item answerOf inputs parts) {more : List Token} {text : List Char}
    (spelled : Spelled (behindPart .list parts ++ more) text) :
    Outcome more (inputs.mapM answerOf)
      ((⟨laterItems item, laterItems_suffix⟩ : Reader (List Value)).run text) := by
  induction all generalizing text with
  | nil =>
    obtain ⟨rest, turn, left⟩ := (laterItemScan_of_closing spelled).exists_rest
    simp only [laterItems_of_close turn]
    exact .read left
  | @cons input part inputs parts answered _ laterOutcome =>
    obtain ⟨answers, opens⟩ := answered
    rw [behindPart, List.cons_append, List.append_assoc] at spelled
    obtain ⟨rest, turn, leftItem⟩ := (laterItemScan_of_value opens spelled).exists_rest
    simp only [laterItems_of_item turn]
    rw [List.mapM_cons]
    apply outcome_bind (answers _ _ (parted_behindPart .list parts more) leftItem)
    intro value rest _ leftItems
    apply outcome_bind (laterOutcome leftItems)
    intro values rest _ leftEnd
    exact .read leftEnd

theorem listOf_answers {inputs : List Input} {parts : List (List Token)}
    (all : ItemsAnswered item answerOf inputs parts) :
    (listOf item).Answers (listTokens parts) (inputs.mapM answerOf) := by
  apply (opener_takes .list .list).bind
  intro more text _ spelled
  cases all with
  | nil =>
    apply outcome_then (firstItem_of_closing spelled)
    intro rest left
    exact .read left
  | @cons input part inputs parts answered later =>
    obtain ⟨answers, opens⟩ := answered
    rw [insideBracket, List.append_assoc] at spelled
    rw [List.mapM_cons]
    apply outcome_then (firstItem_of_value opens spelled)
    intro rest leftItem
    apply outcome_bind (answers _ _ (parted_behindPart .list parts more) leftItem)
    intro value rest _ leftItems
    apply outcome_bind (items_outcome later leftItems)
    intro values rest _ leftEnd
    exact .read leftEnd

end Items

theorem optional_answers {Value : Type} {value : Reader Value} {bracket : Bracket}
    {tokens : List Token} {answer : Option Value}
    (answers : value.Answers (.opening bracket :: tokens) answer) :
    (optional value).Answers (.opening bracket :: tokens) (answer.map some) := by
  intro more text parted spelled
  obtain ⟨rest, skipped, -⟩ := spelled.skipBlanks_mark rfl
  have run : (optional value).run text =
      (value.run text).map fun result => (some result.1, result.2) := by
    simp only [optional, skipped]
    cases bracket <;> rfl
  have outcome := answers more text parted spelled
  rw [run]
  revert outcome
  cases value.run text with
  | error fault =>
    rintro ⟨⟩
    exact .rejected
  | ok result =>
    rintro ⟨left⟩
    exact .read left

/-! ## Objects -/

/-- What the members of an object come to, one after the other: the answer is
settled by the last one or by the first one that is rejected. -/
inductive MembersRun {Value : Type} (member : Value → String → Reader Value) :
    Value → List Member → Option Value → Prop where
  | done (value : Value) : MembersRun member value [] (some value)
  | rejected {soFar : Value} {name : String} {tokens : List Token} {members : List Member}
      (rejects : (member soFar name).Answers (.colon :: tokens) none) :
      MembersRun member soFar ((name, tokens) :: members) none
  | next {soFar value : Value} {name : String} {tokens : List Token} {members : List Member}
      {answer : Option Value}
      (answers : (member soFar name).Answers (.colon :: tokens) (some value))
      (later : MembersRun member value members answer) :
      MembersRun member soFar ((name, tokens) :: members) answer

/-- A part of which the value is kept, in front of members that are all read. -/
theorem MembersRun.next_map {Value Part : Type} {member : Value → String → Reader Value}
    {soFar : Value} {name : String} {tokens : List Token} {members : List Member}
    {answer : Option Part} {change final : Part → Value}
    (answers : (member soFar name).Answers (.colon :: tokens) (answer.map change))
    (later : ∀ part, MembersRun member (change part) members (some (final part))) :
    MembersRun member soFar ((name, tokens) :: members) (answer.map final) := by
  cases answer with
  | none => exact .rejected answers
  | some part => exact .next answers (later part)

section Members

variable {Value : Type} {member : Value → String → Reader Value}

theorem laterMembers_of_close {soFar : Value} {text rest : List Char}
    (turn : laterMemberScan text = .ok (.close, rest)) :
    laterMembers member soFar text = .ok (soFar, rest) := by
  rw [laterMembers]
  split
  · next failed => cases failed.symm.trans turn
  · next closed => cases closed.symm.trans turn; rfl
  · next another => cases another.symm.trans turn

def memberAndLater (member : Value → String → Reader Value) (soFar : Value) : Reader Value := do
  let name ← stringBody
  let value ← member soFar name
  ⟨laterMembers member value, laterMembers_suffix⟩

theorem laterMembers_of_item {soFar : Value} {text rest : List Char}
    (turn : laterMemberScan text = .ok (.item, rest)) :
    laterMembers member soFar text = (memberAndLater member soFar).run rest := by
  rw [laterMembers, memberAndLater]
  split
  · next failed => cases failed.symm.trans turn
  · next closed => cases closed.symm.trans turn
  · next another =>
    cases another.symm.trans turn
    split
    · next failed => simp [failed]
    · next nameRead =>
      simp only [Reader.run_bind, nameRead]
      split
      · next failed => simp [failed]
      · next memberRead => simp only [memberRead]

theorem laterMemberScan_of_closing {more : List Token} {text : List Char}
    (spelled : Spelled (.closing .object :: more) text) :
    Outcome more (some Turn.close) (laterMemberScan text) := by
  obtain ⟨rest, skipped, left⟩ := spelled.skipBlanks_mark rfl
  simp only [laterMemberScan, skipped, Bracket.closer, if_true]
  exact .read left

/-- A name is read from behind its quote. -/
theorem firstMember_of_name {name : String} {more : List Token} {text : List Char}
    (spelled : Spelled (.text name :: more) text) :
    ∃ behindQuote, firstMember.run text = .ok (.item, behindQuote) ∧
      Outcome more (some name) (stringBody.run behindQuote) := by
  obtain ⟨characters, rest, skipped, spells, left⟩ := spelled.skipBlanks_text
  refine ⟨characters ++ '"' :: rest, ?_, ?_⟩
  · simp [firstMember, Reader.onFirst, skipped]
    rfl
  · rw [stringBody_run spells, String.ofList_toList]
    exact .read left

theorem laterMemberScan_of_name {name : String} {more : List Token} {text : List Char}
    (spelled : Spelled (.comma :: .text name :: more) text) :
    ∃ behindQuote, laterMemberScan text = .ok (.item, behindQuote) ∧
      Outcome more (some name) (stringBody.run behindQuote) := by
  obtain ⟨behind, skipped, spelledBehind⟩ := spelled.skipBlanks_mark rfl
  obtain ⟨characters, rest, skippedBehind, spells, left⟩ := spelledBehind.skipBlanks_text
  refine ⟨characters ++ '"' :: rest, ?_, ?_⟩
  · simp [laterMemberScan, skipped, skippedBehind]
  · rw [stringBody_run spells, String.ofList_toList]
    exact .read left

/-- One member in front of others, of which the outcome is known. -/
theorem memberAndLater_outcome {soFar : Value} {name : String} {tokens more : List Token}
    {members : List Member} {answer : Option Value} {text : List Char}
    (run : MembersRun member soFar ((name, tokens) :: members) answer)
    (named : Outcome (.colon :: tokens ++ (behindPart .object (members.map Member.tokens) ++ more))
      (some name) (stringBody.run text))
    (later : ∀ value rest, MembersRun member value members answer →
      Spelled (behindPart .object (members.map Member.tokens) ++ more) rest →
        Outcome more answer (laterMembers member value rest)) :
    Outcome more answer ((memberAndLater member soFar).run text) := by
  have parted := parted_behindPart .object (members.map Member.tokens) more
  apply outcome_then named
  intro rest left
  cases run with
  | rejected rejects =>
    exact outcome_of_rejected (rejects _ _ parted left)
  | next answers run =>
    apply outcome_then (answers _ _ parted left)
    intro behind leftBehind
    exact later _ behind run leftBehind

/-- The members of an object, from behind one of them on. -/
theorem laterMembers_outcome (members : List Member) {soFar : Value} {answer : Option Value}
    (run : MembersRun member soFar members answer) {more : List Token} {text : List Char}
    (spelled : Spelled (behindPart .object (members.map Member.tokens) ++ more) text) :
    Outcome more answer (laterMembers member soFar text) := by
  induction members generalizing soFar text with
  | nil =>
    cases run with
    | done =>
      obtain ⟨rest, turn, left⟩ := (laterMemberScan_of_closing spelled).exists_rest
      rw [laterMembers_of_close turn]
      exact .read left
  | cons first members laterOutcome =>
    obtain ⟨name, tokens⟩ := first
    rw [List.map_cons, behindPart, List.cons_append, List.append_assoc] at spelled
    obtain ⟨behindQuote, turn, named⟩ := laterMemberScan_of_name spelled
    rw [laterMembers_of_item turn]
    exact memberAndLater_outcome run named fun _ _ run left => laterOutcome run left

theorem members_answers {members : List Member} {start : Value} {answer : Option Value}
    (run : MembersRun member start members answer) :
    (Json.members member start).Answers (insideBracket .object (members.map Member.tokens))
      answer := by
  intro more text _ spelled
  cases members with
  | nil =>
    cases run with
    | done =>
      have closed : firstMember.Takes (.closing .object) .close :=
        onFirst_takes rfl fun _ => if_pos rfl
      apply outcome_then (closed more text spelled)
      intro rest left
      exact .read left
  | cons first members =>
    obtain ⟨name, tokens⟩ := first
    rw [List.map_cons, insideBracket, List.append_assoc] at spelled
    obtain ⟨behindQuote, turn, named⟩ := firstMember_of_name spelled
    rw [Json.members, Reader.run_bind, turn]
    exact memberAndLater_outcome run named fun _ _ run left => laterMembers_outcome _ run left

end Members

/-! ## Maps -/

section Maps

variable {Input Value : Type} {value : Reader Value} {answerOf : Input → Option Value}

abbrev EntriesAnswered (value : Reader Value) (answerOf : Input → Option Value)
    (inputs : List (String × Input)) (members : List Member) : Prop :=
  List.Forall₂ (fun input member => member.1 = input.1 ∧ value.Answers member.2 (answerOf input.2))
    inputs members

def entries? (answerOf : Input → Option Value) (inputs : List (String × Input)) :
    Option (List (String × Value)) :=
  inputs.mapM fun input => (answerOf input.2).map fun value => (input.1, value)

theorem membersRun_of_entries {inputs : List (String × Input)} {members : List Member}
    (all : EntriesAnswered value answerOf inputs members) (start : OrderedMap String Value) :
    MembersRun (fun map name => do
        colon
        let value ← value
        return map.insert name value) start members
      ((entries? answerOf inputs).map fun entries =>
        entries.foldl (fun map entry => map.insert entry.1 entry.2) start) := by
  induction all generalizing start with
  | nil => exact .done start
  | @cons input member inputs members answered _ laterRun =>
    obtain ⟨name, tokens⟩ := member
    obtain ⟨sameName, answers⟩ := answered
    obtain rfl : name = input.1 := sameName
    cases isValue : answerOf input.2 with
    | none =>
      rw [isValue] at answers
      have noEntries : entries? answerOf (input :: inputs) = none := by
        simp [entries?, isValue]
      rw [noEntries]
      exact .rejected (answers.behindColon (start.insert input.1) rfl)
    | some value =>
      rw [isValue] at answers
      have someEntries : entries? answerOf (input :: inputs) =
          (entries? answerOf inputs).map fun entries => (input.1, value) :: entries := by
        rw [entries?, List.mapM_cons, isValue]
        exact Option.map_eq_bind.symm
      rw [someEntries, Option.map_map]
      exact .next (answers.behindColon (start.insert input.1) rfl) (laterRun _)

theorem mapOf_answers {inputs : List (String × Input)} {members : List Member}
    (all : EntriesAnswered value answerOf inputs members) :
    (mapOf value).Answers (objectTokens members)
      ((entries? answerOf inputs).map OrderedMap.ofList) :=
  (opener_takes .object .map).bind (members_answers (membersRun_of_entries all ∅))

end Maps

/-! ## Whole texts -/

section Whole

variable {Value : Type} {reader : Reader Value} {tokens : List Token} {text : List Char}

theorem outcome_of_whole {answer : Option Value} (answers : reader.Answers tokens answer)
    (spelled : Spelled tokens text) : Outcome [] answer (reader.run text) := by
  apply answers [] text
  · intro characters isPlain
    cases isPlain
  · rwa [List.append_nil]

theorem whole_of_answers {value : Value} (answers : reader.Answers tokens (some value))
    (spelled : Spelled tokens text) : reader.whole text = .ok value := by
  obtain ⟨rest, run, left⟩ := (outcome_of_whole answers spelled).exists_rest
  rw [Reader.whole, run]
  simp only [left.skipBlanks_nil]

theorem whole_of_rejects (rejects : reader.Answers tokens none) (spelled : Spelled tokens text) :
    ∃ fault, reader.whole text = .error fault := by
  have outcome := outcome_of_whole rejects spelled
  rw [Reader.whole]
  revert outcome
  cases reader.run text with
  | error fault =>
    intro _
    exact ⟨fault, rfl⟩
  | ok result => rintro ⟨⟩

end Whole

end BlockStates.Json
