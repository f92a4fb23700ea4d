import BlockStates.Json.StringToken
import BlockStates.Json.NumberToken

/-!
# Ignored values

A value that nothing is read from is only checked for its grammar.  The
brackets that are open around the place that is read are kept in a list, so
that values may be nested to any depth.
-/

set_option autoImplicit false

namespace BlockStates.Json

inductive Bracket where
  | list
  | object
  deriving DecidableEq, Repr

def Bracket.closer : Bracket → Char
  | .list => ']'
  | .object => '\x7d'

def Bracket.endCause : Bracket → Cause
  | .list => .endInList
  | .object => .endInObject

def Bracket.commaCause : Bracket → Cause
  | .list => .expectedCommaOrBracket
  | .object => .expectedCommaOrBrace

def skipScalar : List Char → Except Fault (List Char)
  | [] => .error (.atEnd .endInValue)
  | first :: rest =>
    if first = 'n' then skipWord ['u', 'l', 'l'] rest
    else if first = 't' then skipWord ['r', 'u', 'e'] rest
    else if first = 'f' then skipWord ['a', 'l', 's', 'e'] rest
    else if first = '"' then skipString rest
    else if first = '-' then skipUnsigned rest
    else if first.isDigit then skipUnsigned (first :: rest)
    else .error (.onFirst .expectedValue (first :: rest))

theorem skipScalar_suffix {text rest : List Char} (success : skipScalar text = .ok rest) :
    rest <:+ text := by
  unfold skipScalar at success
  split at success
  · cases success
  · next first tail =>
    have tailSuffix : tail <:+ first :: tail := List.suffix_cons _ _
    split at success
    · exact (skipWord_suffix success).trans tailSuffix
    · split at success
      · exact (skipWord_suffix success).trans tailSuffix
      · split at success
        · exact (skipWord_suffix success).trans tailSuffix
        · split at success
          · exact (skipString_suffix success).trans tailSuffix
          · split at success
            · exact (skipUnsigned_suffix success).trans tailSuffix
            · split at success
              · exact skipUnsigned_suffix success
              · cases success

def skipColon (text : List Char) : Except Fault (List Char) :=
  match skipBlanks text with
  | [] => .error (.atEnd .endInObject)
  | first :: rest =>
    if first = ':' then .ok rest else .error (.onFirst .expectedColon (first :: rest))

theorem skipColon_suffix {text rest : List Char} (success : skipColon text = .ok rest) :
    rest <:+ text := by
  have blanksSuffix := skipBlanks_suffix text
  unfold skipColon at success
  split at success
  · cases success
  · next first tail blanks =>
    rw [blanks] at blanksSuffix
    split at success
    · cases success
      exact (List.suffix_cons _ _).trans blanksSuffix
    · cases success

def skipName (text : List Char) : Except Fault (List Char) :=
  match skipBlanks text with
  | [] => .error (.atEnd .endInObject)
  | first :: rest =>
    if first = '"' then
      match skipString rest with
      | .error fault => .error fault
      | .ok rest => skipColon rest
    else .error (.onFirst .keyNotText (first :: rest))

theorem skipName_suffix {text rest : List Char} (success : skipName text = .ok rest) :
    rest <:+ text := by
  have blanksSuffix := skipBlanks_suffix text
  unfold skipName at success
  split at success
  · cases success
  · next first tail blanks =>
    rw [blanks] at blanksSuffix
    split at success
    · split at success
      · cases success
      · next afterName nameSkipped =>
        exact (((skipColon_suffix success).trans (skipString_suffix nameSkipped)).trans
          (List.suffix_cons _ _)).trans blanksSuffix
    · cases success

/-- What is left behind blanks is no longer than the text, and shorter without
its first character. -/
theorem length_of_skipBlanks {text rest : List Char} {first : Char}
    (blanks : skipBlanks text = first :: rest) :
    (first :: rest).length ≤ text.length ∧ rest.length < text.length := by
  have blanksLength := (skipBlanks_suffix text).length_le
  rw [blanks] at blanksLength
  exact ⟨blanksLength, blanksLength⟩

theorem suffix_of_skipBlanks {text rest : List Char} {first : Char}
    (blanks : skipBlanks text = first :: rest) : first :: rest <:+ text :=
  blanks ▸ skipBlanks_suffix text

mutual

/-- Checks a value inside the brackets that are open, and then what follows
until the outermost value ends. -/
def skipInside (opened : List Bracket) (text : List Char) : Except Fault (List Char) :=
  match blanks : skipBlanks text with
  | [] => .error (.atEnd .endInValue)
  | first :: rest =>
    have _firstLength := length_of_skipBlanks blanks
    if first = '[' then
      match inner : skipBlanks rest with
      | [] => .error (.atEnd .endInList)
      | next :: later =>
        have _nextLength := length_of_skipBlanks inner
        if next = ']' then skipBehind opened later
        else skipInside (.list :: opened) (next :: later)
    else if first = '\x7b' then
      match inner : skipBlanks rest with
      | [] => .error (.atEnd .endInObject)
      | next :: later =>
        have _nextLength := length_of_skipBlanks inner
        if next = '\x7d' then skipBehind opened later
        else
          match name : skipName (next :: later) with
          | .error fault => .error fault
          | .ok value =>
            have _valueLength := (skipName_suffix name).length_le
            skipInside (.object :: opened) value
    else
      match scalar : skipScalar (first :: rest) with
      | .error fault => .error fault
      | .ok rest =>
        have _scalarLength := (skipScalar_suffix scalar).length_le
        skipBehind opened rest
termination_by 2 * text.length + 1

/-- Checks what follows a value inside the brackets that are open. -/
def skipBehind (opened : List Bracket) (text : List Char) : Except Fault (List Char) :=
  match opened with
  | [] => .ok text
  | bracket :: outer =>
    match blanks : skipBlanks text with
    | [] => .error (.atEnd bracket.endCause)
    | first :: rest =>
      have _firstLength := length_of_skipBlanks blanks
      if first = ',' then
        match bracket with
        | .list => skipInside (.list :: outer) rest
        | .object =>
          match name : skipName rest with
          | .error fault => .error fault
          | .ok value =>
            have _valueLength := (skipName_suffix name).length_le
            skipInside (.object :: outer) value
      else if first = bracket.closer then skipBehind outer rest
      else .error (.onFirst bracket.commaCause (first :: rest))
termination_by 2 * text.length

end

mutual

theorem skipInside_suffix {opened : List Bracket} {text rest : List Char}
    (success : skipInside opened text = .ok rest) : rest <:+ text := by
  unfold skipInside at success
  split at success
  · cases success
  · next first tail blanks =>
    have _firstLength := length_of_skipBlanks blanks
    have firstSuffix := suffix_of_skipBlanks blanks
    have tailSuffix := (List.suffix_cons first tail).trans firstSuffix
    simp only at success
    split at success
    · split at success
      · cases success
      · next following later inner =>
        have _nextLength := length_of_skipBlanks inner
        have nextSuffix := (suffix_of_skipBlanks inner).trans tailSuffix
        split at success
        · exact ((skipBehind_suffix success).trans (List.suffix_cons _ _)).trans nextSuffix
        · exact (skipInside_suffix success).trans nextSuffix
    · split at success
      · split at success
        · cases success
        · next following later inner =>
          have _nextLength := length_of_skipBlanks inner
          have nextSuffix := (suffix_of_skipBlanks inner).trans tailSuffix
          split at success
          · exact ((skipBehind_suffix success).trans (List.suffix_cons _ _)).trans nextSuffix
          · split at success
            · cases success
            · next value name =>
              have valueSuffix := skipName_suffix name
              have _valueLength := valueSuffix.length_le
              exact ((skipInside_suffix success).trans valueSuffix).trans nextSuffix
      · split at success
        · cases success
        · next after scalar =>
          have scalarSuffix := skipScalar_suffix scalar
          have _scalarLength := scalarSuffix.length_le
          exact ((skipBehind_suffix success).trans scalarSuffix).trans firstSuffix
termination_by 2 * text.length + 1

theorem skipBehind_suffix {opened : List Bracket} {text rest : List Char}
    (success : skipBehind opened text = .ok rest) : rest <:+ text := by
  unfold skipBehind at success
  split at success
  · cases success
    exact List.suffix_refl _
  · next bracket outer =>
    split at success
    · cases success
    · next first tail blanks =>
      have _firstLength := length_of_skipBlanks blanks
      have tailSuffix := (List.suffix_cons first tail).trans (suffix_of_skipBlanks blanks)
      simp only at success
      split at success
      · split at success
        · exact (skipInside_suffix success).trans tailSuffix
        · split at success
          · cases success
          · next value name =>
            have valueSuffix := skipName_suffix name
            have _valueLength := valueSuffix.length_le
            exact ((skipInside_suffix success).trans valueSuffix).trans tailSuffix
      · split at success
        · exact (skipBehind_suffix success).trans tailSuffix
        · cases success
termination_by 2 * text.length

end

def skipValue (text : List Char) : Except Fault (List Char) :=
  skipInside [] text

end BlockStates.Json
