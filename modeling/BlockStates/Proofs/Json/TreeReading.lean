import Mathlib.Logic.Equiv.Defs
import BlockStates.Proofs.Json.Answers
import BlockStates.Proofs.Json.CatalogTrees
import BlockStates.Proofs.Json.IgnoredValues

/-!
# Readers and trees

A reader answers to a JSON value with what the value stands for, or it rejects the
value; whichever it is does not depend on how the value is written.
-/

set_option autoImplicit false

namespace BlockStates.Json

/-- A run answers with a value and leaves the rest, or it ends with a fault. -/
inductive Answered {Value : Type} (rest : List Char) :
    Option Value → Except Fault (Value × List Char) → Prop where
  | read {value : Value} : Answered rest (some value) (.ok (value, rest))
  | rejected {fault : Fault} : Answered rest none (.error fault)

theorem Answered.eq_ok {Value : Type} {rest : List Char} {value : Value}
    {result : Except Fault (Value × List Char)} (answered : Answered rest (some value) result) :
    result = .ok (value, rest) := by
  cases answered
  rfl

theorem Answered.exists_fault {Value : Type} {rest : List Char}
    {result : Except Fault (Value × List Char)} (answered : Answered rest none result) :
    ∃ fault, result = .error fault := by
  cases answered
  exact ⟨_, rfl⟩

def Reader.Means {Value : Type} (reader : Reader Value) (meaning : Tree → Option Value) : Prop :=
  ∀ {tree : Tree} {text rest : List Char}, Written (.value tree) text rest →
    Answered rest (meaning tree) (reader.run text)

/-! ## One reader after another -/

section Binding

variable {Value Other : Type} {first : Reader Value} {second : Value → Reader Other}
  {text middle rest : List Char} {answer : Option Value}

theorem Answered.bind {next : Value → Option Other}
    (answered : Answered middle answer (first.run text))
    (follows : ∀ value, answer = some value →
      Answered rest (next value) ((second value).run middle)) :
    Answered rest (answer.bind next) ((first >>= second).run text) := by
  rw [Reader.run_bind]
  revert answered
  cases first.run text with
  | error fault =>
    rintro ⟨⟩
    exact .rejected
  | ok result =>
    rintro ⟨⟩
    exact follows _ rfl

theorem Answered.map (answered : Answered rest answer (first.run text)) (change : Value → Other) :
    Answered rest (answer.map change) ((first >>= fun value => pure (change value)).run text) := by
  rw [Option.map_eq_bind]
  exact answered.bind fun value _ => .read

theorem Answered.map_result {result : Except Fault (Value × List Char)}
    (answered : Answered rest answer result) (change : Value → Other) :
    Answered rest (answer.map change) (result.map fun pair => (change pair.1, pair.2)) := by
  cases answered with
  | read => exact .read
  | rejected => exact .rejected

theorem Answered.of_ran {value : Value} {answer : Option Other}
    (ran : first.run text = .ok (value, middle))
    (follows : Answered rest answer ((second value).run middle)) :
    Answered rest answer ((first >>= second).run text) := by
  rw [Reader.run_bind, ran]
  exact follows

theorem Answered.of_failed (failed : ∃ fault, first.run text = .error fault) :
    Answered rest none ((first >>= second).run text) := by
  obtain ⟨fault, failed⟩ := failed
  rw [Reader.run_bind, failed]
  exact .rejected

end Binding

/-! ## Openers -/

theorem opener_of_same {opening : Char} {wanted : Wanted} {text inside : List Char}
    (opens : skipBlanks text = opening :: inside) :
    (opener opening wanted).run text = .ok ((), inside) := by
  simp only [opener, Reader.onFirst, opens, if_true]
  rfl

theorem opener_of_other {opening first : Char} {wanted : Wanted} {text tail : List Char}
    (front : skipBlanks text = first :: tail) (differs : first ≠ opening) :
    ∃ fault, (opener opening wanted).run text = .error fault := by
  simp only [opener, Reader.onFirst, front, differs, if_false]
  exact ⟨_, rfl⟩

theorem recordOpener_of_opener (bracket : Bracket) {wanted : Wanted} {text inside : List Char}
    (opens : skipBlanks text = bracket.opener :: inside) :
    (recordOpener wanted).run text = .ok (bracket, inside) := by
  cases bracket <;> simp [recordOpener, Reader.onFirst, opens, Bracket.opener, Except.map]

theorem recordOpener_of_other {first : Char} {wanted : Wanted} {text tail : List Char}
    (front : skipBlanks text = first :: tail) (noList : first ≠ '[') (noObject : first ≠ '\x7b') :
    ∃ fault, (recordOpener wanted).run text = .error fault := by
  simp only [recordOpener, Reader.onFirst, front, noList, noObject, if_false]
  exact ⟨_, rfl⟩

/-- A number starts with none of the characters that start other values. -/
theorem IsNumber.exists_front {characters text rest : List Char} (isNumber : IsNumber characters)
    (front : skipBlanks text = characters ++ rest) :
    ∃ first tail, skipBlanks text = first :: tail ∧
      ∀ opening ∈ ['"', '[', '\x7b', 'n'], first ≠ opening := by
  obtain ⟨first, later, rfl, opens⟩ := isNumber.exists_first
  refine ⟨first, later ++ rest, front, ?_⟩
  have noNumber : ['"', '[', '\x7b', 'n'].all
      (fun opening => decide ¬(opening = '-' ∨ opening.isDigit = true)) = true := by decide
  rintro opening listed rfl
  exact of_decide_eq_true (List.all_eq_true.mp noNumber first listed) opens

section Numbers

variable {characters text rest : List Char} (isNumber : IsNumber characters)
  (front : skipBlanks text = characters ++ rest)

include isNumber front

theorem opener_of_number {opening : Char} {wanted : Wanted}
    (listed : opening ∈ ['"', '[', '\x7b', 'n']) :
    ∃ fault, (opener opening wanted).run text = .error fault := by
  obtain ⟨first, tail, front, differs⟩ := isNumber.exists_front front
  exact opener_of_other front (differs opening listed)

theorem recordOpener_of_number {wanted : Wanted} :
    ∃ fault, (recordOpener wanted).run text = .error fault := by
  obtain ⟨first, tail, front, differs⟩ := isNumber.exists_front front
  exact recordOpener_of_other front (differs '[' (by decide)) (differs '\x7b' (by decide))

end Numbers

/-! ## Single values -/

theorem SpellsContent.stringBody_answered {content : Option String} {characters : List Char}
    (spells : SpellsContent content characters) (rest : List Char) :
    Answered rest content (stringBody.run (characters ++ '"' :: rest)) := by
  cases content with
  | none =>
    obtain ⟨fault, failed⟩ := spells.readString_of_none rest
    simp only [stringBody, failed]
    exact .rejected
  | some value =>
    cases spells with
    | value spells =>
      rw [stringBody_run spells, String.ofList_toList]
      exact .read

theorem string_means : string.Means Tree.text? := by
  intro tree text rest written
  cases written with
  | text front spells =>
    exact .of_ran (opener_of_same front) (spells.stringBody_answered rest)
  | null front | true front | false front | list front | object front =>
    exact .of_failed (opener_of_other front (by decide))
  | number front isNumber => exact .of_failed (opener_of_number isNumber front (by decide))

theorem stateId_of_other {text tail : List Char} {first : Char}
    (front : skipBlanks text = first :: tail) (noNumber : ¬(first = '-' ∨ first.isDigit = true)) :
    ∃ fault, stateId.run text = .error fault := by
  simp only [stateId, front, noNumber, if_false]
  exact ⟨_, rfl⟩

theorem stateId_means : stateId.Means Tree.id? := by
  intro tree text rest written
  cases written with
  | @number _ characters _ front isNumber ended =>
    obtain ⟨accepts, rejects⟩ := isNumber.stateId_run front ended
    rw [Tree.id?]
    cases isId : numberId? characters with
    | none =>
      obtain ⟨fault, failed⟩ := rejects isId
      rw [failed]
      exact .rejected
    | some id =>
      rw [accepts id isId]
      exact .read
  | null front | true front | false front | text front | list front | object front =>
    obtain ⟨fault, failed⟩ := stateId_of_other front (by decide)
    rw [failed]
    exact .rejected

theorem ignored_run {tree : Tree} {text rest : List Char}
    (written : Written (.value tree) text rest) : ignored.run text = .ok ((), rest) := by
  have passed := written.passedOver []
  rw [skipBehind] at passed
  simp only [ignored, Reader.ofScan, skipValue, passed]
  rfl

theorem optional_means {Value : Type} {value : Reader Value} {value? : Tree → Option Value}
    (means : value.Means value?) : (optional value).Means (Tree.optional? value?) := by
  intro tree text rest written
  have answer (first : Char) (tail : List Char) (front : skipBlanks text = first :: tail)
      (noNull : first ≠ 'n') :
      Answered rest ((value? tree).map some) ((optional value).run text) := by
    have wrapped : (optional value).run text =
        (value.run text).map fun result => (some result.1, result.2) := by
      simp only [optional, front]
      split
      · next isNull => exact absurd (List.cons.inj isNull).1 noNull
      · rfl
    rw [wrapped]
    exact (means written).map_result some
  cases written with
  | null front =>
    simp only [optional, front]
    exact .read
  | true front | false front | text front | list front | object front =>
    exact answer _ _ front (by decide)
  | number front isNumber =>
    obtain ⟨first, tail, front, differs⟩ := isNumber.exists_front front
    exact answer first tail front (differs 'n' (by decide))

/-! ## Lists -/

/-- Only what is behind the blanks counts. -/
theorem Written.of_front {tree : Tree} {text other rest : List Char}
    (written : Written (.value tree) text rest) (same : skipBlanks other = skipBlanks text) :
    Written (.value tree) other rest := by
  cases written with
  | null front => exact .null (same.trans front)
  | true front => exact .true (same.trans front)
  | false front => exact .false (same.trans front)
  | number front isNumber ended => exact .number (same.trans front) isNumber ended
  | text front spells => exact .text (same.trans front) spells
  | list front inner => exact .list (same.trans front) inner
  | object front inner => exact .object (same.trans front) inner

theorem Written.exists_item {item : Tree} {items : List Tree} {text rest : List Char}
    (written : Written (.items (item :: items)) text rest) :
    ∃ behind, Written (.value item) (skipBlanks text) behind ∧
      Written (.laterItems items) behind rest ∧
      ∃ first tail, skipBlanks text = first :: tail ∧ first ≠ ']' := by
  cases written with
  | firstItem first later =>
    obtain ⟨mark, tail, front, opens⟩ := first.opens
    have moved := first.of_front (skipBlanks_skipBlanks text)
    exact ⟨_, moved, later, mark, tail, front, opens.not_mark.1⟩

theorem firstItem_of_items {items : List Tree} {text rest : List Char}
    (written : Written (.items items) text rest) :
    firstItem.run text =
      match items with
      | [] => .ok (.close, rest)
      | _ :: _ => .ok (.item, skipBlanks text) := by
  cases items with
  | nil =>
    cases written with
    | noItem closes => simp only [firstItem, closes, if_true]
  | cons item items =>
    obtain ⟨-, -, -, first, tail, front, noCloser⟩ := written.exists_item
    simp only [firstItem, front, noCloser, if_false]

theorem laterItemScan_of_lastItem {text rest : List Char}
    (written : Written (.laterItems []) text rest) : laterItemScan text = .ok (.close, rest) := by
  cases written with
  | lastItem closes => simp only [laterItemScan, closes, if_true]

theorem laterItemScan_of_nextItem {item : Tree} {items : List Tree} {text rest : List Char}
    (written : Written (.laterItems (item :: items)) text rest) :
    ∃ next, laterItemScan text = .ok (.item, skipBlanks next) ∧
      Written (.items (item :: items)) next rest := by
  cases written with
  | @nextItem _ next _ _ _ comma inner =>
    refine ⟨next, ?_, inner⟩
    obtain ⟨-, -, -, first, tail, front, noCloser⟩ := inner.exists_item
    simp only [laterItemScan, comma, Char.reduceEq, if_false, if_true, front, noCloser]

section Items

variable {Value : Type} {item : Reader Value} {item? : Tree → Option Value}
  (means : item.Means item?)

include means

theorem laterItems_answered {items : List Tree} {text rest : List Char}
    (written : Written (.laterItems items) text rest) :
    Answered rest (items.mapM item?)
      ((⟨laterItems item, laterItems_suffix⟩ : Reader (List Value)).run text) := by
  induction items generalizing text with
  | nil =>
    simp only [laterItems_of_close (laterItemScan_of_lastItem written)]
    exact .read
  | cons tree items laterAnswered =>
    obtain ⟨next, turn, inner⟩ := laterItemScan_of_nextItem written
    obtain ⟨behind, first, later, -⟩ := inner.exists_item
    simp only [laterItems_of_item turn]
    rw [List.mapM_cons]
    apply (means first).bind
    intro value _
    apply (laterAnswered later).bind
    intro values _
    exact .read

theorem listOf_means : (listOf item).Means (Tree.list? item?) := by
  intro tree text rest written
  cases written with
  | null front | true front | false front | text front | object front =>
    exact .of_failed (opener_of_other front (by decide))
  | number front isNumber => exact .of_failed (opener_of_number isNumber front (by decide))
  | @list _ inside _ items opens inner =>
    apply Answered.of_ran (opener_of_same opens)
    have turn := firstItem_of_items inner
    cases items with
    | nil => exact .of_ran turn .read
    | cons first items =>
      obtain ⟨behind, first, later, -⟩ := inner.exists_item
      apply Answered.of_ran turn
      rw [Tree.list?, List.mapM_cons]
      apply (means first).bind
      intro value _
      apply (laterItems_answered means later).bind
      intro values _
      exact .read

end Items

/-! ## Objects -/

theorem colon_run {text rest : List Char} (colonNext : skipBlanks text = ':' :: rest) :
    colon.run text = .ok ((), rest) := by
  simp only [colon, Reader.ofScan, skipColon_eq_ok_iff.mpr colonNext]
  rfl

/-- The value of a member, kept in some form. -/
theorem Reader.Means.behindColon {Value Part : Type} {part : Reader Part}
    {part? : Tree → Option Part} (means : part.Means part?) {tree : Tree}
    {text value rest : List Char} (colonNext : skipBlanks text = ':' :: value)
    (written : Written (.value tree) value rest) (change : Part → Value) {member : Reader Value}
    (reads : member = do
      colon
      return change (← part)) :
    Answered rest ((part? tree).map change) (member.run text) := by
  rw [reads]
  exact .of_ran (colon_run colonNext) ((means written).map change)

theorem ignored_behindColon {Value : Type} {tree : Tree} {text value rest : List Char}
    (colonNext : skipBlanks text = ':' :: value) (written : Written (.value tree) value rest)
    (soFar : Value) {member : Reader Value} (reads : member = do
      colon
      ignored
      return soFar) :
    Answered rest (some soFar) (member.run text) := by
  rw [reads]
  exact .of_ran (colon_run colonNext) (.of_ran (ignored_run written) .read)

theorem duplicate_rejects {Value : Type} {name : String} {text rest : List Char} :
    Answered rest none ((duplicate name : Reader Value).run text) := by
  simp only [duplicate]
  split <;> exact .rejected

/-- What the members of an object come to, one after the other, if what has been
read before them is known. -/
structure FoldsMembers {Value : Type} (member : Value → String → Reader Value)
    (final? : Value → List TreeMember → Option Value) : Prop where
  done : ∀ soFar, final? soFar [] = some soFar
  nameless : ∀ soFar tree members, final? soFar ((none, tree) :: members) = none
  next : ∀ soFar name members {tree text value rest}, skipBlanks text = ':' :: value →
    Written (.value tree) value rest →
      ∃ answer, Answered rest answer ((member soFar name).run text) ∧
        final? soFar ((some name, tree) :: members) = answer.bind fun value => final? value members

theorem laterMemberScan_of_lastMember {text rest : List Char}
    (written : Written (.laterMembers []) text rest) :
    laterMemberScan text = .ok (.close, rest) := by
  cases written with
  | lastMember closes => simp only [laterMemberScan, closes, if_true]

section Members

variable {Value : Type} {member : Value → String → Reader Value}
  {final? : Value → List TreeMember → Option Value} (folds : FoldsMembers member final?)

include folds

/-- A member in front of others that are all answered. -/
theorem memberAndLater_answered {soFar : Value} {name : Option String} {tree : Tree}
    {members : List TreeMember} {characters afterName value behind rest : List Char}
    (spells : SpellsContent name characters) (colonNext : skipBlanks afterName = ':' :: value)
    (first : Written (.value tree) value behind)
    (later : ∀ soFar, Answered rest (final? soFar members) (laterMembers member soFar behind)) :
    Answered rest (final? soFar ((name, tree) :: members))
      ((memberAndLater member soFar).run (characters ++ '"' :: afterName)) := by
  have named := spells.stringBody_answered afterName
  cases name with
  | none =>
    rw [folds.nameless]
    exact .of_failed named.exists_fault
  | some name =>
    obtain ⟨answer, answered, final⟩ := folds.next soFar name members colonNext first
    rw [final]
    exact .of_ran named.eq_ok (answered.bind fun value _ => later value)

theorem laterMembers_answered {members : List TreeMember} {soFar : Value} {text rest : List Char}
    (written : Written (.laterMembers members) text rest) :
    Answered rest (final? soFar members) (laterMembers member soFar text) := by
  induction members generalizing soFar text with
  | nil =>
    rw [laterMembers_of_close (laterMemberScan_of_lastMember written), folds.done]
    exact .read
  | cons first members laterAnswered =>
    cases written with
    | nextMember comma inner =>
      cases inner with
      | @firstMember _ characters afterName _ _ _ _ _ _ quote spells colonNext first later =>
        have turn : laterMemberScan text = .ok (.item, characters ++ '"' :: afterName) := by
          simp only [laterMemberScan, comma, Char.reduceEq, if_false, if_true, quote]
        rw [laterMembers_of_item turn]
        exact memberAndLater_answered folds spells colonNext first fun _ => laterAnswered later

theorem members_answered (start : Value) {members : List TreeMember} {text rest : List Char}
    (written : Written (.members members) text rest) :
    Answered rest (final? start members) ((Json.members member start).run text) := by
  cases written with
  | noMember closes =>
    have turn : firstMember.run text = .ok (.close, rest) := by
      simp [firstMember, Reader.onFirst, closes, Except.map]
    rw [folds.done]
    exact .of_ran turn .read
  | @firstMember _ characters afterName _ _ _ _ _ _ quote spells colonNext first later =>
    have turn : firstMember.run text = .ok (.item, characters ++ '"' :: afterName) := by
      simp [firstMember, Reader.onFirst, quote, Except.map]
    exact .of_ran turn
      (memberAndLater_answered folds spells colonNext first fun _ =>
        laterMembers_answered folds later)

end Members

/-! ## Maps -/

theorem memberEntries?_cons {Value : Type} (value? : Tree → Option Value) (name : String)
    (tree : Tree) (members : List TreeMember) :
    memberEntries? value? ((some name, tree) :: members) =
      (value? tree).bind fun value => (memberEntries? value? members).map ((name, value) :: ·) := by
  rw [memberEntries?, List.mapM_cons]
  cases value? tree with
  | none => rfl
  | some value =>
    change (memberEntries? value? members).bind (fun entries => some ((name, value) :: entries)) = _
    rw [Option.bind_some, Option.map_eq_bind]
    rfl

theorem mapOf_folds {Value : Type} {value : Reader Value} {value? : Tree → Option Value}
    (means : value.Means value?) :
    FoldsMembers (fun (map : OrderedMap String Value) name => do
        colon
        let value ← value
        return map.insert name value)
      fun start members => (memberEntries? value? members).map fun entries =>
        entries.foldl (fun map entry => map.insert entry.1 entry.2) start where
  done _ := rfl
  nameless _ _ _ := by simp [memberEntries?]
  next soFar name members {tree text value rest} colonNext written := by
    refine ⟨(value? tree).map (soFar.insert name),
      means.behindColon colonNext written (soFar.insert name) rfl, ?_⟩
    rw [memberEntries?_cons]
    cases value? tree with
    | none => rfl
    | some value =>
      rw [Option.bind_some, Option.map_map]
      rfl

theorem mapOf_means {Value : Type} {value : Reader Value} {value? : Tree → Option Value}
    (means : value.Means value?) : (mapOf value).Means (Tree.map? value?) := by
  intro tree text rest written
  cases written with
  | null front | true front | false front | text front | list front =>
    exact .of_failed (opener_of_other front (by decide))
  | number front isNumber => exact .of_failed (opener_of_number isNumber front (by decide))
  | object opens inner =>
    exact .of_ran (opener_of_same opens) (members_answered (mapOf_folds means) ∅ inner)

theorem assignment_means : assignment.Means Tree.assignment? :=
  mapOf_means string_means

theorem properties_means : properties.Means Tree.properties? :=
  mapOf_means (listOf_means string_means)

/-! ## Objects of two parts -/

/-- The value of a member that may be given once. -/
theorem Reader.Means.onceBehindColon {Value Part : Type} {part : Reader Part}
    {part? : Tree → Option Part} (means : part.Means part?) (name : String) (given : Option Part)
    {tree : Tree} {text value rest : List Char} (colonNext : skipBlanks text = ':' :: value)
    (written : Written (.value tree) value rest) (change : Part → Value) :
    Answered rest (if given.isSome then none else (part? tree).map change)
      ((if given.isSome then duplicate name
        else do
          colon
          return change (← part) : Reader Value).run text) := by
  cases given with
  | some => exact duplicate_rejects
  | none => exact means.behindColon colonNext written change rfl

/-- Reads members of which two are parts, each given once at most, and the others
are ignored. -/
structure ReadsTwoParts {Parts First Second : Type} (given : Parts ≃ Option First × Option Second)
    (firstName secondName : String) (first : Reader First) (second : Reader Second)
    (member : Parts → String → Reader Parts) : Prop where
  distinct : firstName ≠ secondName
  readsFirst : ∀ parts, member parts firstName =
    if (given parts).1.isSome then duplicate firstName
    else do
      colon
      return given.symm (some (← first), (given parts).2)
  readsSecond : ∀ parts, member parts secondName =
    if (given parts).2.isSome then duplicate secondName
    else do
      colon
      return given.symm ((given parts).1, some (← second))
  readsOther : ∀ parts name, name ≠ firstName → name ≠ secondName → member parts name = do
    colon
    ignored
    return parts

theorem ReadsTwoParts.folds {Parts First Second : Type}
    {given : Parts ≃ Option First × Option Second} {firstName secondName : String}
    {first : Reader First} {second : Reader Second} {member : Parts → String → Reader Parts}
    (reads : ReadsTwoParts given firstName secondName first second member)
    {first? : Tree → Option First} {second? : Tree → Option Second}
    (firstMeans : first.Means first?) (secondMeans : second.Means second?) :
    FoldsMembers member fun parts members =>
      (twoParts? firstName secondName first? second? (given parts) members).map given.symm where
  done parts := congrArg some (given.symm_apply_apply parts)
  nameless _ _ _ := by rw [twoParts?_nameless, Option.map_none]
  next parts name members {tree text value rest} colonNext written := by
    by_cases isFirst : name = firstName
    · subst isFirst
      rw [reads.readsFirst, twoParts?_first reads.distinct]
      refine ⟨_, firstMeans.onceBehindColon name _ colonNext written _, ?_⟩
      cases (given parts).1 with
      | some => rfl
      | none => cases first? tree <;> simp
    · by_cases isSecond : name = secondName
      · subst isSecond
        rw [reads.readsSecond, twoParts?_second reads.distinct]
        refine ⟨_, secondMeans.onceBehindColon name _ colonNext written _, ?_⟩
        cases (given parts).2 with
        | some => rfl
        | none => cases second? tree <;> simp
      · rw [reads.readsOther parts name isFirst isSecond, twoParts?_other isFirst isSecond]
        exact ⟨some parts, ignored_behindColon colonNext written parts rfl, rfl⟩

/-! ## States -/

def StateParts.given : StateParts ≃ Option UInt16 × Option Assignment where
  toFun parts := (parts.id, parts.assignment)
  invFun given := ⟨given.1, given.2⟩

theorem statePart_reads :
    ReadsTwoParts StateParts.given "id" "properties" stateId assignment statePart where
  distinct := by decide
  readsFirst _ := if_pos rfl
  readsSecond _ := (if_neg (by decide)).trans (if_pos rfl)
  readsOther _ _ notId notProperties := (if_neg notId).trans (if_neg notProperties)

theorem Tree.state?_object (members : List TreeMember) :
    (Tree.object members).state? =
      ((twoParts? "id" "properties" Tree.id? Tree.assignment? (none, none) members).map
        StateParts.given.symm).bind fun parts =>
          parts.id.map fun id => ⟨id, parts.assignment.getD ∅⟩ := by
  rw [Tree.state?]
  cases twoParts? "id" "properties" Tree.id? Tree.assignment? (none, none) members with
  | none => rfl
  | some given =>
    obtain ⟨id, assignment⟩ := given
    cases id <;> rfl

theorem stateObject_answered {members : List TreeMember} {text rest : List Char}
    (written : Written (.members members) text rest) :
    Answered rest (Tree.object members).state? (stateObject.run text) := by
  have folds := statePart_reads.folds stateId_means assignment_means
  rw [Tree.state?_object, stateObject]
  apply (members_answered folds ⟨none, none⟩ written).bind
  intro parts _
  cases given : parts.id with
  | none => exact .rejected
  | some id => exact .read

/-- Nothing follows the last part of a value that is written as a list. -/
theorem endOfItems_answered {items : List Tree} {text rest : List Char}
    (written : Written (.laterItems items) text rest) :
    Answered rest (if items = [] then some () else none) (endOfItems.run text) := by
  cases written with
  | lastItem closes =>
    simp only [endOfItems, Reader.onFirst, closes, if_true]
    exact .read
  | nextItem comma =>
    simp only [endOfItems, Reader.onFirst, comma, Char.reduceEq, if_false, if_true, reduceCtorEq]
    split <;> first | exact .rejected | (split <;> exact .rejected)

theorem lastItem_answered {Value Part : Type} {part : Reader Part} {part? : Tree → Option Part}
    (means : part.Means part?) {tree : Tree} {more : List Tree} {text behind rest : List Char}
    (written : Written (.value tree) text behind) (later : Written (.laterItems more) behind rest)
    (make : Part → Value) :
    Answered rest
      ((part? tree).bind fun part => (if more = [] then some () else none).map fun _ => make part)
      ((do
        let part ← part
        endOfItems
        return make part : Reader Value).run text) := by
  apply (means written).bind
  intro part _
  exact (endOfItems_answered later).map _

theorem laterItem_of_laterItems {items : List Tree} {text rest : List Char}
    (written : Written (.laterItems items) text rest) :
    match items with
    | [] => laterItem.run text = .ok (.close, rest)
    | item :: items => ∃ next behind, laterItem.run text = .ok (.item, next) ∧
        Written (.value item) next behind ∧ Written (.laterItems items) behind rest := by
  cases items with
  | nil => exact laterItemScan_of_lastItem written
  | cons item items =>
    obtain ⟨next, turn, inner⟩ := laterItemScan_of_nextItem written
    obtain ⟨behind, first, later, -⟩ := inner.exists_item
    exact ⟨_, behind, turn, first, later⟩

theorem Tree.state?_list (id : Tree) (items : List Tree) :
    (Tree.list (id :: items)).state? =
      id.id?.bind fun id =>
        match items with
        | [] => some ⟨id, ∅⟩
        | assignment :: more => assignment.assignment?.bind fun assignment =>
          (if more = [] then some () else none).map fun _ => ⟨id, assignment⟩ := by
  match items with
  | [] => rfl
  | [assignment] => rfl
  | assignment :: another :: more =>
    have noState : (Tree.list (id :: assignment :: another :: more)).state? = none := rfl
    rw [noState]
    simp

theorem stateList_answered {items : List Tree} {text rest : List Char}
    (written : Written (.items items) text rest) :
    Answered rest (Tree.list items).state? (stateList.run text) := by
  have turn := firstItem_of_items written
  cases items with
  | nil => exact .of_ran turn .rejected
  | cons id items =>
    obtain ⟨behind, first, later, -⟩ := written.exists_item
    apply Answered.of_ran turn
    rw [Tree.state?_list]
    apply (stateId_means first).bind
    intro id _
    have laterTurn := laterItem_of_laterItems later
    cases items with
    | nil => exact .of_ran laterTurn .read
    | cons assignment more =>
      obtain ⟨next, behindBoth, laterTurn, second, afterBoth⟩ := laterTurn
      exact .of_ran laterTurn (lastItem_answered assignment_means second afterBoth _)

theorem state_means : state.Means Tree.state? := by
  intro tree text rest written
  cases written with
  | null front | true front | false front | text front =>
    exact .of_failed (recordOpener_of_other front (by decide) (by decide))
  | number front isNumber => exact .of_failed (recordOpener_of_number isNumber front)
  | list opens inner =>
    exact .of_ran (recordOpener_of_opener .list opens) (stateList_answered inner)
  | object opens inner =>
    exact .of_ran (recordOpener_of_opener .object opens) (stateObject_answered inner)

theorem states_means : states.Means Tree.states? :=
  optional_means (listOf_means state_means)

/-! ## Blocks -/

def BlockParts.given : BlockParts ≃ Option Properties × Option (Option (List State)) where
  toFun parts := (parts.properties, parts.states)
  invFun given := ⟨given.1, given.2⟩

theorem blockPart_reads :
    ReadsTwoParts BlockParts.given "properties" "states" properties states blockPart where
  distinct := by decide
  readsFirst _ := if_pos rfl
  readsSecond _ := (if_neg (by decide)).trans (if_pos rfl)
  readsOther _ _ notProperties notStates := (if_neg notProperties).trans (if_neg notStates)

theorem Tree.block?_object (members : List TreeMember) :
    (Tree.object members).block? =
      ((twoParts? "properties" "states" Tree.properties? Tree.states? (none, none) members).map
        BlockParts.given.symm).map fun parts =>
          ⟨parts.properties.getD ∅, parts.states.getD none⟩ := by
  rw [Tree.block?]
  cases twoParts? "properties" "states" Tree.properties? Tree.states? (none, none) members <;> rfl

theorem blockObject_answered {members : List TreeMember} {text rest : List Char}
    (written : Written (.members members) text rest) :
    Answered rest (Tree.object members).block? (blockObject.run text) := by
  have folds := blockPart_reads.folds properties_means states_means
  rw [Tree.block?_object]
  exact (members_answered folds ⟨none, none⟩ written).map _

theorem Tree.block?_list (properties states : Tree) (more : List Tree) :
    (Tree.list (properties :: states :: more)).block? =
      properties.properties?.bind fun properties => states.states?.bind fun states =>
        (if more = [] then some () else none).map fun _ => ⟨properties, states⟩ := by
  cases more with
  | nil => rfl
  | cons another more =>
    have noBlock : (Tree.list (properties :: states :: another :: more)).block? = none := rfl
    rw [noBlock]
    simp

theorem blockList_answered {items : List Tree} {text rest : List Char}
    (written : Written (.items items) text rest) :
    Answered rest (Tree.list items).block? (blockList.run text) := by
  have turn := firstItem_of_items written
  cases items with
  | nil => exact .of_ran turn .rejected
  | cons properties items =>
    obtain ⟨behind, first, later, -⟩ := written.exists_item
    apply Answered.of_ran turn
    have laterTurn := laterItem_of_laterItems later
    cases items with
    | nil =>
      have noBlock : (Tree.list [properties]).block? =
          properties.properties?.bind fun _ => none := by
        rw [Option.bind_fun_none]
        rfl
      rw [noBlock]
      apply (properties_means first).bind
      intro _ _
      exact .of_ran laterTurn .rejected
    | cons states more =>
      obtain ⟨next, behindBoth, laterTurn, second, afterBoth⟩ := laterTurn
      rw [Tree.block?_list]
      apply (properties_means first).bind
      intro properties _
      exact .of_ran laterTurn (lastItem_answered states_means second afterBoth _)

theorem blockEntry_means : blockEntry.Means Tree.block? := by
  intro tree text rest written
  cases written with
  | null front | true front | false front | text front =>
    exact .of_failed (recordOpener_of_other front (by decide) (by decide))
  | number front isNumber => exact .of_failed (recordOpener_of_number isNumber front)
  | list opens inner =>
    exact .of_ran (recordOpener_of_opener .list opens) (blockList_answered inner)
  | object opens inner =>
    exact .of_ran (recordOpener_of_opener .object opens) (blockObject_answered inner)

/-! ## Whole texts -/

/-- What a text is read as follows from its tree. -/
theorem Tree.WrittenAs.whole_eq_ok_iff {Value : Type} {reader : Reader Value}
    {meaning : Tree → Option Value} (means : reader.Means meaning) {tree : Tree} {text : String}
    (written : tree.WrittenAs text) {value : Value} :
    reader.whole text.toList = .ok value ↔ meaning tree = some value := by
  obtain ⟨rest, front, nothing⟩ := written
  have answered := means front
  rw [Reader.whole]
  revert answered
  cases meaning tree with
  | none =>
    intro answered
    obtain ⟨fault, failed⟩ := answered.exists_fault
    simp [failed]
  | some meant =>
    intro answered
    simp [answered.eq_ok, nothing]

end BlockStates.Json
