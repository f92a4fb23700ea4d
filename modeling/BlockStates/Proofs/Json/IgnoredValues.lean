import Mathlib.Data.List.DropRight
import BlockStates.Proofs.CheckRuns
import BlockStates.Proofs.Json.Tree

/-!
# Ignored values are the values of the grammar

A value that nothing is read from is passed over with the open brackets kept in a
list.  It is passed over exactly if the grammar has it, at any depth and with
numbers of any size, and what is left is what the grammar leaves.
-/

set_option autoImplicit false

namespace BlockStates.Json

/-! ## Single steps -/

theorem skipBlanks_skipBlanks (text : List Char) :
    skipBlanks (skipBlanks text) = skipBlanks text :=
  List.dropWhile_idempotent isBlank text

/-- Only what is behind the blanks counts. -/
theorem skipBlanks_of_front {text tail : List Char} {first : Char}
    (front : skipBlanks text = first :: tail) : skipBlanks (first :: tail) = first :: tail := by
  rw [← front, skipBlanks_skipBlanks]

theorem skipWord_append (word rest : List Char) : skipWord word (word ++ rest) = .ok rest := by
  induction word with
  | nil => rfl
  | cons letter word laterSkipped => rw [List.cons_append, skipWord, if_pos rfl, laterSkipped]

theorem eq_append_of_skipWord {word text rest : List Char}
    (skipped : skipWord word text = .ok rest) : text = word ++ rest := by
  fun_induction skipWord word text with
  | case1 => cases skipped; rfl
  | case2 => cases skipped
  | case3 word next tail laterFound => rw [laterFound skipped, List.cons_append]
  | case4 => cases skipped

theorem skipColon_eq_ok_iff {text rest : List Char} :
    skipColon text = .ok rest ↔ skipBlanks text = ':' :: rest := by
  unfold skipColon
  split
  · next nothing => simp [nothing]
  · next first tail found =>
    by_cases isColon : first = ':' <;> simp [found, isColon]

/-- A name is a string, and a colon follows it. -/
theorem skipName_eq_ok_iff {text rest : List Char} :
    skipName text = .ok rest ↔
      ∃ characters afterName, skipBlanks text = '"' :: (characters ++ '"' :: afterName) ∧
        IsString characters ∧ skipBlanks afterName = ':' :: rest := by
  unfold skipName
  split
  · next nothing => simp [nothing]
  · next first tail found =>
    rw [found]
    by_cases isQuote : first = '"'
    · subst isQuote
      rw [if_pos rfl]
      constructor
      · intro skipped
        split at skipped
        · cases skipped
        · next afterName nameSkipped =>
          obtain ⟨characters, rfl, isString⟩ := skipString_eq_ok_iff.mp nameSkipped
          exact ⟨characters, afterName, rfl, isString, skipColon_eq_ok_iff.mp skipped⟩
      · rintro ⟨characters, afterName, front, isString, colon⟩
        obtain rfl := (List.cons.inj front).2
        simp only [isString.skipString_eq afterName, skipColon_eq_ok_iff.mpr colon]
    · rw [if_neg isQuote]
      constructor
      · intro skipped
        cases skipped
      · rintro ⟨characters, afterName, front, -⟩
        exact absurd (List.cons.inj front).1 isQuote

def skipPart (opened : List Bracket) : Bracket → List Char → Except Fault (List Char)
  | .list, text => skipInside (.list :: opened) text
  | .object, text => skipName text >>= skipInside (.object :: opened)

section Steps

variable {opened : List Bracket} {bracket : Bracket} {text inside tail : List Char} {first : Char}

theorem skipInside_of_scalar (blanks : skipBlanks text = first :: tail) (noList : first ≠ '[')
    (noObject : first ≠ '\x7b') :
    skipInside opened text = skipScalar (first :: tail) >>= skipBehind opened := by
  rw [skipInside]
  split
  · next nothing => cases nothing.symm.trans blanks
  · next found =>
    cases found.symm.trans blanks
    simp only [noList, noObject, if_false]
    split
    · next failed => rw [failed]; rfl
    · next skipped => rw [skipped]; rfl

theorem skipInside_of_opener (opens : skipBlanks text = bracket.opener :: inside) :
    skipInside opened text =
      match skipBlanks inside with
      | [] => .error (.atEnd bracket.endCause)
      | first :: tail =>
        if first = bracket.closer then skipBehind opened tail
        else skipPart opened bracket (first :: tail) := by
  rw [skipInside]
  split
  · next nothing => cases nothing.symm.trans opens
  · next found =>
    cases found.symm.trans opens
    cases bracket with
    | list =>
      simp only [Bracket.opener, if_true]
      split
      · next nothing => rw [nothing]; rfl
      · next found => rw [found]; rfl
    | object =>
      simp only [Bracket.opener, Char.reduceEq, if_false, if_true]
      split
      · next nothing => rw [nothing]; rfl
      · next found =>
        simp only [found, skipPart, Bracket.closer]
        congr 1
        split
        · next failed => rw [failed]; rfl
        · next skipped => rw [skipped]; rfl

theorem skipBehind_of_mark (blanks : skipBlanks text = first :: tail) :
    skipBehind (bracket :: opened) text =
      if first = ',' then skipPart opened bracket tail
      else if first = bracket.closer then skipBehind opened tail
      else .error (.onFirst bracket.commaCause (first :: tail)) := by
  rw [skipBehind]
  simp only
  split
  · next nothing => cases nothing.symm.trans blanks
  · next found =>
    cases found.symm.trans blanks
    congr 1
    cases bracket with
    | list => rfl
    | object =>
      simp only [skipPart]
      split
      · next failed => rw [failed]; rfl
      · next skipped => rw [skipped]; rfl

theorem skipInside_skipBlanks : skipInside opened (skipBlanks text) = skipInside opened text := by
  cases blanks : skipBlanks text with
  | nil =>
    rw [skipInside, skipInside]
    split
    · split
      · rfl
      · next found => cases found.symm.trans blanks
    · next found => cases found
  | cons first tail =>
    have again := skipBlanks_of_front blanks
    by_cases isOpener : ∃ bracket : Bracket, first = bracket.opener
    · obtain ⟨bracket, rfl⟩ := isOpener
      rw [skipInside_of_opener blanks, skipInside_of_opener again]
    · have noList : first ≠ '[' := fun isList => isOpener ⟨.list, isList⟩
      have noObject : first ≠ '\x7b' := fun isObject => isOpener ⟨.object, isObject⟩
      rw [skipInside_of_scalar blanks noList noObject, skipInside_of_scalar again noList noObject]

theorem skipPart_skipBlanks :
    skipPart opened bracket (skipBlanks text) = skipPart opened bracket text := by
  cases bracket with
  | list => exact skipInside_skipBlanks
  | object => simp only [skipPart, skipName, skipBlanks_skipBlanks]

theorem skipInside_of_closed (bracket : Bracket)
    (opens : skipBlanks text = bracket.opener :: inside)
    (closes : skipBlanks inside = bracket.closer :: tail) :
    skipInside opened text = skipBehind opened tail := by
  rw [skipInside_of_opener opens, closes]
  exact if_pos rfl

theorem skipInside_of_part (bracket : Bracket) (opens : skipBlanks text = bracket.opener :: inside)
    (front : skipBlanks inside = first :: tail) (noCloser : first ≠ bracket.closer) :
    skipInside opened text = skipPart opened bracket inside := by
  rw [skipInside_of_opener opens, ← skipPart_skipBlanks, front]
  exact if_neg noCloser

theorem skipBehind_of_closer (bracket : Bracket)
    (closes : skipBlanks text = bracket.closer :: tail) :
    skipBehind (bracket :: opened) text = skipBehind opened tail := by
  rw [skipBehind_of_mark closes, if_neg (by cases bracket <;> decide), if_pos rfl]

theorem skipBehind_of_comma (comma : skipBlanks text = ',' :: tail) :
    skipBehind (bracket :: opened) text = skipPart opened bracket tail := by
  rw [skipBehind_of_mark comma, if_pos rfl]

end Steps

/-! ## What the grammar has is passed over -/

/-- How a phrase is passed over, whatever brackets are open around it. -/
def Phrase.PassedOver : Phrase → List Char → List Char → Prop
  | .value _, text, rest => ∀ opened, skipInside opened text = skipBehind opened rest
  | .items [], text, rest => skipBlanks text = ']' :: rest
  | .items (_ :: _), text, rest =>
    (∃ first tail, skipBlanks text = first :: tail ∧ first ≠ ']') ∧
      ∀ opened, skipPart opened .list text = skipBehind opened rest
  | .laterItems _, text, rest =>
    ∀ opened, skipBehind (.list :: opened) text = skipBehind opened rest
  | .members [], text, rest => skipBlanks text = '\x7d' :: rest
  | .members (_ :: _), text, rest =>
    (∃ tail, skipBlanks text = '"' :: tail) ∧
      ∀ opened, skipPart opened .object text = skipBehind opened rest
  | .laterMembers _, text, rest =>
    ∀ opened, skipBehind (.object :: opened) text = skipBehind opened rest

theorem passedOver_of_scalar {tree : Tree} {text tail rest : List Char} {first : Char}
    (front : skipBlanks text = first :: tail) (noList : first ≠ '[') (noObject : first ≠ '\x7b')
    (skipped : skipScalar (first :: tail) = .ok rest) :
    (Phrase.value tree).PassedOver text rest := by
  intro opened
  rw [skipInside_of_scalar front noList noObject, skipped]
  rfl

theorem IsNumber.skipScalar_append {characters rest : List Char} (isNumber : IsNumber characters)
    (ended : Ended rest) :
    ∃ first tail, characters ++ rest = first :: tail ∧ first ≠ '[' ∧ first ≠ '\x7b' ∧
      skipScalar (first :: tail) = .ok rest := by
  cases isNumber with
  | @negative characters isUnsigned =>
    refine ⟨'-', characters ++ rest, rfl, by decide, by decide, ?_⟩
    simp [skipScalar, isUnsigned.skipUnsigned_append ended]
  | positive isUnsigned =>
    have skipped := isUnsigned.skipUnsigned_append ended
    obtain ⟨first, later, rfl, isDigit⟩ := isUnsigned.exists_first
    have differs (other : Char) (noDigit : other.isDigit = false) : first ≠ other := by
      rintro rfl
      exact Bool.false_ne_true (noDigit.symm.trans isDigit)
    refine ⟨first, later ++ rest, rfl, differs _ (by decide), differs _ (by decide), ?_⟩
    rw [List.cons_append] at skipped
    simp [skipScalar, differs 'n' (by decide), differs 't' (by decide), differs 'f' (by decide),
      differs '"' (by decide), differs '-' (by decide), isDigit, skipped]

theorem Written.passedOver {phrase : Phrase} {text rest : List Char}
    (written : Written phrase text rest) : phrase.PassedOver text rest := by
  induction written with
  | null word =>
    exact passedOver_of_scalar word (by decide) (by decide) (skipWord_append ['u', 'l', 'l'] _)
  | true word =>
    exact passedOver_of_scalar word (by decide) (by decide) (skipWord_append ['r', 'u', 'e'] _)
  | false word =>
    exact passedOver_of_scalar word (by decide) (by decide) (skipWord_append ['a', 'l', 's', 'e'] _)
  | number front isNumber ended =>
    obtain ⟨first, tail, sameFront, noList, noObject, skipped⟩ := isNumber.skipScalar_append ended
    exact passedOver_of_scalar (front.trans sameFront) noList noObject skipped
  | text front spells =>
    exact passedOver_of_scalar front (by decide) (by decide) (spells.isString.skipString_eq _)
  | @list _ _ _ items opens _ inner =>
    intro opened
    cases items with
    | nil => exact skipInside_of_closed .list opens inner
    | cons =>
      obtain ⟨⟨first, tail, front, noCloser⟩, passed⟩ := inner
      rw [skipInside_of_part .list opens front noCloser, passed]
  | @object _ _ _ members opens _ inner =>
    intro opened
    cases members with
    | nil => exact skipInside_of_closed .object opens inner
    | cons =>
      obtain ⟨⟨tail, front⟩, passed⟩ := inner
      rw [skipInside_of_part .object opens front (by decide), passed]
  | noItem closes | noMember closes => exact closes
  | firstItem written _ first later =>
    obtain ⟨mark, tail, front, opens⟩ := written.opens
    refine ⟨⟨mark, tail, front, opens.not_mark.1⟩, fun opened => ?_⟩
    rw [skipPart, first, later]
  | lastItem closes => exact fun opened => skipBehind_of_closer .list closes
  | lastMember closes => exact fun opened => skipBehind_of_closer .object closes
  | nextItem comma _ inner | nextMember comma _ inner =>
    intro opened
    rw [skipBehind_of_comma comma, inner.2]
  | firstMember quote spells colon _ _ first later =>
    refine ⟨⟨_, quote⟩, fun opened => ?_⟩
    have named := skipName_eq_ok_iff.mpr ⟨_, _, quote, spells.isString, colon⟩
    rw [skipPart, named]
    exact (first _).trans (later opened)

/-! ## What is passed over is what the grammar has -/

theorem exists_front_of_skipInside {opened : List Bracket} {text rest : List Char}
    (skipped : skipInside opened text = .ok rest) :
    ∃ first tail, skipBlanks text = first :: tail := by
  cases blanks : skipBlanks text with
  | cons first tail => exact ⟨first, tail, rfl⟩
  | nil =>
    rw [skipInside] at skipped
    split at skipped
    · cases skipped
    · next found => cases blanks.symm.trans found

/-- What is inside of a list or of an object: nothing or a first part. -/
theorem skipInside_eq_ok_of_opener {opened : List Bracket} {bracket : Bracket}
    {text inside rest : List Char} (opens : skipBlanks text = bracket.opener :: inside)
    (skipped : skipInside opened text = .ok rest) :
    (∃ tail, skipBlanks inside = bracket.closer :: tail ∧ skipBehind opened tail = .ok rest) ∨
      skipPart opened bracket inside = .ok rest := by
  rw [skipInside_of_opener opens] at skipped
  split at skipped
  · cases skipped
  · next first tail front =>
    split at skipped
    · next isCloser => exact Or.inl ⟨tail, isCloser ▸ front, skipped⟩
    · rw [← front, skipPart_skipBlanks] at skipped
      exact Or.inr skipped

/-- What follows a part of a list or of an object. -/
theorem skipBehind_eq_ok {opened : List Bracket} {bracket : Bracket} {text rest : List Char}
    (skipped : skipBehind (bracket :: opened) text = .ok rest) :
    ∃ tail, skipBlanks text = ',' :: tail ∧ skipPart opened bracket tail = .ok rest ∨
      skipBlanks text = bracket.closer :: tail ∧ skipBehind opened tail = .ok rest := by
  cases blanks : skipBlanks text with
  | nil =>
    rw [skipBehind] at skipped
    simp only at skipped
    split at skipped
    · cases skipped
    · next found => cases blanks.symm.trans found
  | cons first tail =>
    rw [skipBehind_of_mark blanks] at skipped
    split at skipped
    · next isComma => exact ⟨tail, Or.inl ⟨by rw [isComma], skipped⟩⟩
    · split at skipped
      · next isCloser => exact ⟨tail, Or.inr ⟨by rw [isCloser], skipped⟩⟩
      · cases skipped

theorem ended_of_skipBehind {opened : List Bracket} {text rest : List Char} (ended : Ended rest)
    (skipped : skipBehind opened text = .ok rest) : Ended text := by
  cases opened with
  | nil =>
    rw [skipBehind] at skipped
    cases skipped
    exact ended
  | cons bracket outer =>
    obtain ⟨tail, ⟨comma, -⟩ | ⟨closes, -⟩⟩ := skipBehind_eq_ok skipped
    · exact ended_of_mark comma (by decide)
    · exact ended_of_mark closes (by cases bracket <;> decide)

theorem exists_scalar {text tail rest : List Char} {first : Char}
    (front : skipBlanks text = first :: tail) (ended : Ended rest)
    (skipped : skipScalar (first :: tail) = .ok rest) :
    ∃ tree, Written (.value tree) text rest := by
  unfold skipScalar at skipped
  simp only at skipped
  split at skipped
  · next isN =>
    rw [isN, eq_append_of_skipWord skipped] at front
    exact ⟨.null, .null front⟩
  · split at skipped
    · next isT =>
      rw [isT, eq_append_of_skipWord skipped] at front
      exact ⟨.boolean true, .true front⟩
    · split at skipped
      · next isF =>
        rw [isF, eq_append_of_skipWord skipped] at front
        exact ⟨.boolean false, .false front⟩
      · split at skipped
        · next isQuote =>
          obtain ⟨characters, rfl, isString⟩ := skipString_eq_ok_iff.mp skipped
          obtain ⟨content, spells⟩ := isString.exists_content
          exact ⟨.text content, .text (isQuote ▸ front) spells⟩
        · split at skipped
          · next isMinus =>
            obtain ⟨characters, rfl, isUnsigned⟩ := isUnsigned_of_skipUnsigned skipped
            exact ⟨.number ('-' :: characters),
              .number (isMinus ▸ front) (.negative isUnsigned) ended⟩
          · split at skipped
            · obtain ⟨characters, sameText, isUnsigned⟩ := isUnsigned_of_skipUnsigned skipped
              exact ⟨.number characters,
                .number (front.trans sameText) (.positive isUnsigned) ended⟩
            · cases skipped

structure OnlyGrammar (rest text : List Char) : Prop where
  value : ∀ opened, skipInside opened text = .ok rest →
    ∃ tree behind, Written (.value tree) text behind ∧ skipBehind opened behind = .ok rest
  laterItems : ∀ opened, skipBehind (.list :: opened) text = .ok rest →
    ∃ items behind, Written (.laterItems items) text behind ∧ skipBehind opened behind = .ok rest
  laterMembers : ∀ opened, skipBehind (.object :: opened) text = .ok rest →
    ∃ members behind, Written (.laterMembers members) text behind ∧
      skipBehind opened behind = .ok rest

section Parts

variable {opened : List Bracket} {text rest : List Char}
  (here : OnlyGrammar rest text)
  (later : ∀ behind, behind.length < text.length → OnlyGrammar rest behind)

include later

theorem exists_members (skipped : skipPart opened .object text = .ok rest) :
    ∃ member members behind, Written (.members (member :: members)) text behind ∧
      skipBehind opened behind = .ok rest := by
  obtain ⟨value, named, valueSkipped⟩ := (bind_eq_ok_iff _ _ _).mp skipped
  obtain ⟨characters, afterName, quote, isString, colon⟩ := skipName_eq_ok_iff.mp named
  obtain ⟨name, spells⟩ := isString.exists_content
  have valueShorter : value.length < text.length := by
    have nameLength := (length_of_skipBlanks quote).2
    have colonLength := (length_of_skipBlanks colon).2
    simp only [List.length_append, List.length_cons] at nameLength
    omega
  obtain ⟨tree, behindValue, first, behindSkipped⟩ :=
    (later value valueShorter).value _ valueSkipped
  have behindShorter := Nat.lt_trans first.length_lt valueShorter
  obtain ⟨members, behind, laterWritten, restSkipped⟩ :=
    (later behindValue behindShorter).laterMembers opened behindSkipped
  exact ⟨(name, tree), members, behind, .firstMember quote spells colon first laterWritten,
    restSkipped⟩

include here

theorem exists_items (skipped : skipPart opened .list text = .ok rest) :
    ∃ item items behind, Written (.items (item :: items)) text behind ∧
      skipBehind opened behind = .ok rest := by
  obtain ⟨item, behindItem, first, behindSkipped⟩ := here.value _ skipped
  obtain ⟨items, behind, laterWritten, restSkipped⟩ :=
    (later behindItem first.length_lt).laterItems opened behindSkipped
  exact ⟨item, items, behind, .firstItem first laterWritten, restSkipped⟩

end Parts

theorem onlyGrammar {rest : List Char} (ended : Ended rest) (text : List Char) :
    OnlyGrammar rest text := by
  induction length : text.length using Nat.strongRecOn generalizing text with
  | ind size smaller =>
    subst length
    have later (behind : List Char) (shorter : behind.length < text.length) :
        OnlyGrammar rest behind := smaller behind.length shorter behind rfl
    have furtherOn {front : List Char} (shorter : front.length < text.length) (behind : List Char)
        (behindShorter : behind.length < front.length) : OnlyGrammar rest behind :=
      later behind (Nat.lt_trans behindShorter shorter)
    refine ⟨?_, ?_, ?_⟩
    · intro opened skipped
      obtain ⟨first, tail, front⟩ := exists_front_of_skipInside skipped
      have tailShorter := (length_of_skipBlanks front).2
      by_cases isOpener : ∃ bracket : Bracket, first = bracket.opener
      · obtain ⟨bracket, rfl⟩ := isOpener
        obtain ⟨behind, closes, restSkipped⟩ | partSkipped :=
          skipInside_eq_ok_of_opener front skipped
        · cases bracket with
          | list => exact ⟨.list [], behind, .list front (.noItem closes), restSkipped⟩
          | object => exact ⟨.object [], behind, .object front (.noMember closes), restSkipped⟩
        · cases bracket with
          | list =>
            obtain ⟨item, items, behind, written, restSkipped⟩ :=
              exists_items (later tail tailShorter) (furtherOn tailShorter) partSkipped
            exact ⟨.list (item :: items), behind, .list front written, restSkipped⟩
          | object =>
            obtain ⟨member, members, behind, written, restSkipped⟩ :=
              exists_members (furtherOn tailShorter) partSkipped
            exact ⟨.object (member :: members), behind, .object front written, restSkipped⟩
      · have noList : first ≠ '[' := fun isList => isOpener ⟨.list, isList⟩
        have noObject : first ≠ '\x7b' := fun isObject => isOpener ⟨.object, isObject⟩
        rw [skipInside_of_scalar front noList noObject, bind_eq_ok_iff] at skipped
        obtain ⟨behind, scalarSkipped, behindSkipped⟩ := skipped
        obtain ⟨tree, written⟩ :=
          exists_scalar front (ended_of_skipBehind ended behindSkipped) scalarSkipped
        exact ⟨tree, behind, written, behindSkipped⟩
    · intro opened skipped
      obtain ⟨tail, ⟨comma, partSkipped⟩ | ⟨closes, restSkipped⟩⟩ := skipBehind_eq_ok skipped
      · have shorter := (length_of_skipBlanks comma).2
        obtain ⟨item, items, behind, written, restSkipped⟩ :=
          exists_items (later tail shorter) (furtherOn shorter) partSkipped
        exact ⟨item :: items, behind, .nextItem comma written, restSkipped⟩
      · exact ⟨[], tail, .lastItem closes, restSkipped⟩
    · intro opened skipped
      obtain ⟨tail, ⟨comma, partSkipped⟩ | ⟨closes, restSkipped⟩⟩ := skipBehind_eq_ok skipped
      · have shorter := (length_of_skipBlanks comma).2
        obtain ⟨member, members, behind, written, restSkipped⟩ :=
          exists_members (furtherOn shorter) partSkipped
        exact ⟨member :: members, behind, .nextMember comma written, restSkipped⟩
      · exact ⟨[], tail, .lastMember closes, restSkipped⟩

/-- A value is passed over exactly if the grammar has it in front of what is left. -/
theorem skipValue_eq_ok_iff {text rest : List Char} (ended : Ended rest) :
    skipValue text = .ok rest ↔ ∃ tree, Written (.value tree) text rest := by
  constructor
  · intro skipped
    obtain ⟨tree, behind, written, behindSkipped⟩ := (onlyGrammar ended text).value [] skipped
    rw [skipBehind] at behindSkipped
    cases behindSkipped
    exact ⟨tree, written⟩
  · rintro ⟨tree, written⟩
    have passed := written.passedOver []
    rwa [skipBehind] at passed

end BlockStates.Json
