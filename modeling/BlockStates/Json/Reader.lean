import BlockStates.OrderedMap
import BlockStates.Json.Ignored

/-!
# Readers of typed values

A reader takes a value from the front of a JSON text and leaves a suffix of the
text; it carries the proof of that, so readers of lists and objects end.  Lists
and objects are read item by item: before each item the reader learns whether
there is one or whether the closing bracket has been taken.
-/

set_option autoImplicit false

namespace BlockStates.Json

structure Reader (Value : Type) where
  run : List Char → Except Fault (Value × List Char)
  leavesSuffix : ∀ {text rest : List Char} {value : Value},
    run text = .ok (value, rest) → rest <:+ text

namespace Reader

variable {Value Other : Type}

protected def pure (value : Value) : Reader Value where
  run text := .ok (value, text)
  leavesSuffix success := by cases success; exact List.suffix_refl _

protected def bind (first : Reader Value) (second : Value → Reader Other) : Reader Other where
  run text :=
    match first.run text with
    | .error fault => .error fault
    | .ok (value, rest) => (second value).run rest
  leavesSuffix {text _ _} success := by
    cases firstRun : first.run text with
    | error fault => rw [firstRun] at success; cases success
    | ok result =>
      rw [firstRun] at success
      exact ((second result.1).leavesSuffix success).trans (first.leavesSuffix firstRun)

instance : Monad Reader where
  pure := Reader.pure
  bind := Reader.bind

@[simp] theorem run_pure (value : Value) (text : List Char) :
    (pure value : Reader Value).run text = .ok (value, text) := rfl

@[simp] theorem run_bind (first : Reader Value) (second : Value → Reader Other)
    (text : List Char) :
    (first >>= second).run text =
      match first.run text with
      | .error fault => .error fault
      | .ok (value, rest) => (second value).run rest := rfl

def fault (cause : Cause) : Reader Value where
  run text := .error (.before cause text)
  leavesSuffix success := by cases success

def ofScan (scan : List Char → Except Fault (List Char))
    (scanSuffix : ∀ {text rest : List Char}, scan text = .ok rest → rest <:+ text) :
    Reader Unit where
  run text := (scan text).map fun rest => ((), rest)
  leavesSuffix {text _ _} success := by
    cases scanned : scan text with
    | error fault => rw [scanned] at success; cases success
    | ok rest => rw [scanned] at success; cases success; exact scanSuffix scanned

/-- Looks at the first character behind blanks.  `choose` tells what it means
and how far to go: nothing for the character itself, or what is wrong. -/
def onFirst (atEnd : Cause) (choose : Char → List Char → Except Fault Value) :
    Reader Value where
  run text :=
    match skipBlanks text with
    | [] => .error (.atEnd atEnd)
    | first :: rest => (choose first rest).map fun value => (value, rest)
  leavesSuffix {text _ _} success := by
    have blanksSuffix := skipBlanks_suffix text
    split at success
    · cases success
    · next first rest blanks =>
      rw [blanks] at blanksSuffix
      cases chosen : choose first rest with
      | error fault => rw [chosen] at success; cases success
      | ok value =>
        rw [chosen] at success
        cases success
        exact (List.suffix_cons _ _).trans blanksSuffix

end Reader

def mistyped (wanted : Wanted) : List Char → Fault
  | [] => .atEnd .endInValue
  | first :: rest =>
    let behindWord (word : List Char) (found : Found) : Fault :=
      match skipWord word rest with
      | .error fault => fault
      | .ok rest => .before (.wrongType found wanted) rest
    if first = 'n' then behindWord ['u', 'l', 'l'] .null
    else if first = 't' then behindWord ['r', 'u', 'e'] (.boolean true)
    else if first = 'f' then behindWord ['a', 'l', 's', 'e'] (.boolean false)
    else if first = '"' then
      match readString rest with
      | .error fault => fault
      | .ok (characters, rest) =>
        .before (.wrongType (.text (String.ofList characters)) wanted) rest
    else if first = '[' then .before (.wrongType .list wanted) (first :: rest)
    else if first = '\x7b' then .before (.wrongType .object wanted) (first :: rest)
    else if first = '-' ∨ first.isDigit then
      match readNumber (first :: rest) with
      | .error fault => fault
      | .ok (number, rest) => .before (.wrongType (.number number) wanted) rest
    else .onFirst .expectedValue (first :: rest)

def opener (opening : Char) (wanted : Wanted) : Reader Unit :=
  .onFirst .endInValue fun first rest =>
    if first = opening then .ok () else .error (mistyped wanted (first :: rest))

/-- Takes the bracket that opens a value of named parts, which may be written
as an object or as a list. -/
def recordOpener (wanted : Wanted) : Reader Bracket :=
  .onFirst .endInValue fun first rest =>
    if first = '[' then .ok .list
    else if first = '\x7b' then .ok .object
    else .error (mistyped wanted (first :: rest))

def stringBody : Reader String where
  run text := (readString text).map fun result => (String.ofList result.1, result.2)
  leavesSuffix {text _ _} success := by
    cases stringRead : readString text with
    | error fault => rw [stringRead] at success; cases success
    | ok result =>
      rw [stringRead] at success
      cases success
      exact readString_suffix stringRead

def string : Reader String := do
  opener '"' .text
  stringBody

def colon : Reader Unit :=
  .ofScan skipColon skipColon_suffix

def ignored : Reader Unit :=
  .ofScan skipValue skipInside_suffix

def optional {Value : Type} (value : Reader Value) : Reader (Option Value) where
  run text :=
    match skipBlanks text with
    | 'n' :: rest => (skipWord ['u', 'l', 'l'] rest).map fun rest => (none, rest)
    | _ => (value.run text).map fun result => (some result.1, result.2)
  leavesSuffix {text _ _} success := by
    have blanksSuffix := skipBlanks_suffix text
    split at success
    · next rest blanks =>
      rw [blanks] at blanksSuffix
      cases word : skipWord ['u', 'l', 'l'] rest with
      | error fault => rw [word] at success; cases success
      | ok behind =>
        rw [word] at success
        cases success
        exact ((skipWord_suffix word).trans (List.suffix_cons _ _)).trans blanksSuffix
    · cases valueRead : value.run text with
      | error fault => rw [valueRead] at success; cases success
      | ok result =>
        rw [valueRead] at success
        cases success
        exact value.leavesSuffix valueRead

inductive Turn where
  | item
  | close
  deriving DecidableEq, Repr

def firstItem : Reader Turn where
  run text :=
    match skipBlanks text with
    | [] => .error (.atEnd .endInList)
    | first :: rest => if first = ']' then .ok (.close, rest) else .ok (.item, first :: rest)
  leavesSuffix {text _ _} success := by
    have blanksSuffix := skipBlanks_suffix text
    split at success
    · cases success
    · next first rest blanks =>
      rw [blanks] at blanksSuffix
      split at success
      · cases success
        exact (List.suffix_cons _ _).trans blanksSuffix
      · cases success
        exact blanksSuffix

def laterItemScan (text : List Char) : Except Fault (Turn × List Char) :=
  match skipBlanks text with
  | [] => .error (.atEnd .endInList)
  | first :: rest =>
    if first = ']' then .ok (.close, rest)
    else if first = ',' then
      match skipBlanks rest with
      | [] => .error (.atEnd .endInValue)
      | next :: later =>
        if next = ']' then .error (.onFirst .trailingComma (next :: later))
        else .ok (.item, next :: later)
    else .error (.onFirst .expectedCommaOrBracket (first :: rest))

theorem laterItemScan_shortens {text rest : List Char} {turn : Turn}
    (success : laterItemScan text = .ok (turn, rest)) :
    rest <:+ text ∧ rest.length < text.length := by
  unfold laterItemScan at success
  split at success
  · cases success
  · next first tail blanks =>
    have tailLength := (length_of_skipBlanks blanks).2
    have tailSuffix := (List.suffix_cons first tail).trans (suffix_of_skipBlanks blanks)
    split at success
    · cases success
      exact ⟨tailSuffix, tailLength⟩
    · split at success
      · split at success
        · cases success
        · next following later inner =>
          have nextLength := (length_of_skipBlanks inner).1
          split at success
          · cases success
          · cases success
            exact ⟨(suffix_of_skipBlanks inner).trans tailSuffix, by omega⟩
      · cases success

def laterItem : Reader Turn :=
  ⟨laterItemScan, fun success => (laterItemScan_shortens success).1⟩

def endOfItems : Reader Unit :=
  .onFirst .endInList fun first rest =>
    if first = ']' then .ok ()
    else if first = ',' then
      match skipBlanks rest with
      | [] => .error (.atEnd .trailingCharacters)
      | next :: later =>
        if next = ']' then .error (.onFirst .trailingComma (next :: later))
        else .error (.onFirst .trailingCharacters (next :: later))
    else .error (.onFirst .trailingCharacters (first :: rest))

def laterItems {Value : Type} (item : Reader Value) (text : List Char) :
    Except Fault (List Value × List Char) :=
  match turn : laterItemScan text with
  | .error fault => .error fault
  | .ok (.close, rest) => .ok ([], rest)
  | .ok (.item, rest) =>
    match itemRead : item.run rest with
    | .error fault => .error fault
    | .ok (value, behind) =>
      have _restLength := (laterItemScan_shortens turn).2
      have _behindLength := (item.leavesSuffix itemRead).length_le
      match laterItems item behind with
      | .error fault => .error fault
      | .ok (values, rest) => .ok (value :: values, rest)
termination_by text.length

theorem laterItems_suffix {Value : Type} {item : Reader Value} {text rest : List Char}
    {values : List Value} (success : laterItems item text = .ok (values, rest)) :
    rest <:+ text := by
  fun_induction laterItems item text generalizing values rest with
  | case1 => cases success
  | case2 text rest turn =>
    cases success
    exact (laterItemScan_shortens turn).1
  | case3 => cases success
  | case4 => cases success
  | case5 text rest turn value behind itemRead _ _ values end_ itemsRead restSuffix =>
    cases success
    exact ((restSuffix itemsRead).trans (item.leavesSuffix itemRead)).trans
      (laterItemScan_shortens turn).1

def listOf {Value : Type} (item : Reader Value) : Reader (List Value) := do
  opener '[' .list
  match ← firstItem with
  | .close => return []
  | .item =>
    let value ← item
    let values ← (⟨laterItems item, laterItems_suffix⟩ : Reader (List Value))
    return value :: values

/-- What comes behind the bracket that opens an object.  Of a member, the quote
that opens its name is taken. -/
def firstMember : Reader Turn :=
  .onFirst .endInObject fun first rest =>
    if first = '\x7d' then .ok .close
    else if first = '"' then .ok .item
    else .error (.onFirst .keyNotText (first :: rest))

def laterMemberScan (text : List Char) : Except Fault (Turn × List Char) :=
  match skipBlanks text with
  | [] => .error (.atEnd .endInObject)
  | first :: rest =>
    if first = '\x7d' then .ok (.close, rest)
    else if first = ',' then
      match skipBlanks rest with
      | [] => .error (.atEnd .endInValue)
      | next :: later =>
        if next = '"' then .ok (.item, later)
        else if next = '\x7d' then .error (.onFirst .trailingComma (next :: later))
        else .error (.onFirst .keyNotText (next :: later))
    else .error (.onFirst .expectedCommaOrBrace (first :: rest))

theorem laterMemberScan_shortens {text rest : List Char} {turn : Turn}
    (success : laterMemberScan text = .ok (turn, rest)) :
    rest <:+ text ∧ rest.length < text.length := by
  unfold laterMemberScan at success
  split at success
  · cases success
  · next first tail blanks =>
    have tailLength := (length_of_skipBlanks blanks).2
    have tailSuffix := (List.suffix_cons first tail).trans (suffix_of_skipBlanks blanks)
    split at success
    · cases success
      exact ⟨tailSuffix, tailLength⟩
    · split at success
      · split at success
        · cases success
        · next following later inner =>
          have nextLength := (length_of_skipBlanks inner).2
          split at success
          · cases success
            exact ⟨((List.suffix_cons _ _).trans (suffix_of_skipBlanks inner)).trans tailSuffix,
              by omega⟩
          · split at success <;> cases success
      · cases success

/-- Reads the members of an object that follow a member.  `member` is given
what has been read and a name, and reads from behind the name. -/
def laterMembers {Value : Type} (member : Value → String → Reader Value) (soFar : Value)
    (text : List Char) : Except Fault (Value × List Char) :=
  match turn : laterMemberScan text with
  | .error fault => .error fault
  | .ok (.close, rest) => .ok (soFar, rest)
  | .ok (.item, rest) =>
    match nameRead : stringBody.run rest with
    | .error fault => .error fault
    | .ok (name, afterName) =>
      match memberRead : (member soFar name).run afterName with
      | .error fault => .error fault
      | .ok (value, behind) =>
        have _restLength := (laterMemberScan_shortens turn).2
        have _nameLength := (stringBody.leavesSuffix nameRead).length_le
        have _behindLength := ((member soFar name).leavesSuffix memberRead).length_le
        laterMembers member value behind
termination_by text.length

theorem laterMembers_suffix {Value : Type} {member : Value → String → Reader Value}
    {soFar value : Value} {text rest : List Char}
    (success : laterMembers member soFar text = .ok (value, rest)) : rest <:+ text := by
  fun_induction laterMembers member soFar text with
  | case1 => cases success
  | case2 soFar text rest turn =>
    cases success
    exact (laterMemberScan_shortens turn).1
  | case3 => cases success
  | case4 => cases success
  | case5 soFar text rest turn name afterName nameRead next behind memberRead _ _ _ restSuffix =>
    exact (((restSuffix success).trans ((member soFar name).leavesSuffix memberRead)).trans
      (stringBody.leavesSuffix nameRead)).trans (laterMemberScan_shortens turn).1

def members {Value : Type} (member : Value → String → Reader Value) (start : Value) :
    Reader Value := do
  match ← firstMember with
  | .close => return start
  | .item =>
    let name ← stringBody
    let value ← member start name
    ⟨laterMembers member value, laterMembers_suffix⟩

/-- An object with values of one kind.  A repeated name keeps its first
position and takes its last value. -/
def mapOf {Value : Type} (value : Reader Value) : Reader (OrderedMap String Value) := do
  opener '\x7b' .map
  members (fun map name => do
    colon
    let value ← value
    return map.insert name value) ∅

/-- The fault of a part that is named twice.  It is reported behind the second
name, and behind the closing bracket if that comes next. -/
def duplicate {Value : Type} (name : String) : Reader Value where
  run text :=
    match skipBlanks text with
    | '\x7d' :: rest => .error (.before (.duplicateField name) rest)
    | rest => .error (.before (.duplicateField name) rest)
  leavesSuffix success := by
    split at success <;> cases success

def Reader.whole {Value : Type} (value : Reader Value) (text : List Char) :
    Except Fault Value :=
  match value.run text with
  | .error fault => .error fault
  | .ok (result, rest) =>
    match skipBlanks rest with
    | [] => .ok result
    | first :: rest => .error (.onFirst .trailingCharacters (first :: rest))

end BlockStates.Json
