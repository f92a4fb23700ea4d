import BlockStates.Json.Scan

/-!
# Strings

A string of a JSON text, from behind its opening quote to behind its closing
one.  `readString` gives the characters that it stands for; `skipString` only
finds its end, and lets escapes pass that stand for half of a surrogate pair.
-/

set_option autoImplicit false

namespace BlockStates.Json

def hexDigit? (character : Char) : Option Nat :=
  let code := character.toNat
  if character.isDigit then some (code - 0x30)
  else if 0x41 ≤ code ∧ code ≤ 0x46 then some (code - 0x37)
  else if 0x61 ≤ code ∧ code ≤ 0x66 then some (code - 0x57)
  else none

def hexUnit? (first second third fourth : Char) : Option Nat := do
  let first ← hexDigit? first
  let second ← hexDigit? second
  let third ← hexDigit? third
  let fourth ← hexDigit? fourth
  return ((first * 16 + second) * 16 + third) * 16 + fourth

/-- The fault of an escape without four hexadecimal digits.  It is reported
behind the four bytes that should be digits. -/
def brokenUnit (text : List Char) : Fault :=
  if byteLength text < 4 then .atEnd .endInText
  else ⟨.invalidEscape, byteLength text - 4⟩

def readUnit : List Char → Except Fault (Nat × List Char)
  | first :: second :: third :: fourth :: rest =>
    match hexUnit? first second third fourth with
    | some unit => .ok (unit, rest)
    | none => .error (brokenUnit (first :: second :: third :: fourth :: rest))
  | text => .error (brokenUnit text)

theorem readUnit_suffix {text rest : List Char} {unit : Nat}
    (success : readUnit text = .ok (unit, rest)) : rest <:+ text := by
  unfold readUnit at success
  split at success
  · next first second third fourth tail =>
    split at success
    · cases success
      exact ⟨[first, second, third, fourth], rfl⟩
    · cases success
  · cases success

def isHighSurrogate (unit : Nat) : Bool :=
  0xD800 ≤ unit && unit ≤ 0xDBFF

def isLowSurrogate (unit : Nat) : Bool :=
  0xDC00 ≤ unit && unit ≤ 0xDFFF

def pairedCharacter (high low : Nat) : Char :=
  Char.ofNat (0x10000 + (high - 0xD800) * 0x400 + (low - 0xDC00))

/-- Reads the second half of a surrogate pair, which must be an escape too. -/
def readLowSurrogate (high : Nat) : List Char → Except Fault (Char × List Char)
  | [] => .error (.atEnd .endInText)
  | first :: tail =>
    if first = '\\' then
      match tail with
      | [] => .error (.atEnd .endInText)
      | second :: tail =>
        if second = 'u' then
          match readUnit tail with
          | .error fault => .error fault
          | .ok (low, rest) =>
            if isLowSurrogate low then .ok (pairedCharacter high low, rest)
            else .error (.before .loneSurrogate rest)
        else .error (.onFirst .unfinishedSurrogatePair (second :: tail))
    else .error (.onFirst .unfinishedSurrogatePair (first :: tail))

theorem readLowSurrogate_suffix {high : Nat} {text rest : List Char} {character : Char}
    (success : readLowSurrogate high text = .ok (character, rest)) : rest <:+ text := by
  unfold readLowSurrogate at success
  split at success
  · cases success
  · next first tail =>
    split at success
    · split at success
      · cases success
      · next second after =>
        split at success
        · split at success
          · cases success
          · next low afterUnit unitRead =>
            split at success
            · simp only [Except.ok.injEq, Prod.mk.injEq] at success
              obtain ⟨-, rfl⟩ := success
              exact (readUnit_suffix unitRead).trans ⟨[first, second], rfl⟩
            · cases success
        · cases success
    · cases success

/-- Reads what follows `\u`: a character, or two halves of one. -/
def readCodePoint (text : List Char) : Except Fault (Char × List Char) :=
  match readUnit text with
  | .error fault => .error fault
  | .ok (unit, rest) =>
    if isLowSurrogate unit then .error (.before .loneSurrogate rest)
    else if isHighSurrogate unit then readLowSurrogate unit rest
    else .ok (Char.ofNat unit, rest)

theorem readCodePoint_suffix {text rest : List Char} {character : Char}
    (success : readCodePoint text = .ok (character, rest)) : rest <:+ text := by
  unfold readCodePoint at success
  split at success
  · cases success
  · next unit after unitRead =>
    have afterSuffix := readUnit_suffix unitRead
    split at success
    · cases success
    · split at success
      · exact (readLowSurrogate_suffix success).trans afterSuffix
      · cases success
        exact afterSuffix

def shortEscape? (letter : Char) : Option Char :=
  if letter = '"' then some '"'
  else if letter = '\\' then some '\\'
  else if letter = '/' then some '/'
  else if letter = 'b' then some '\x08'
  else if letter = 'f' then some '\x0c'
  else if letter = 'n' then some '\n'
  else if letter = 'r' then some '\r'
  else if letter = 't' then some '\t'
  else none

def readEscape : List Char → Except Fault (Char × List Char)
  | [] => .error (.atEnd .endInText)
  | letter :: rest =>
    match shortEscape? letter with
    | some character => .ok (character, rest)
    | none =>
      if letter = 'u' then readCodePoint rest
      else .error (.onFirst .invalidEscape (letter :: rest))

theorem readEscape_suffix {text rest : List Char} {character : Char}
    (success : readEscape text = .ok (character, rest)) : rest <:+ text := by
  unfold readEscape at success
  split at success
  · cases success
  · next letter tail =>
    split at success
    · cases success
      exact List.suffix_cons letter rest
    · split at success
      · exact (readCodePoint_suffix success).trans (List.suffix_cons letter tail)
      · cases success

/-- Whether a character may not stand in a string as it is. -/
def isControl (character : Char) : Bool :=
  character.toNat < 0x20

def readString : List Char → Except Fault (List Char × List Char)
  | [] => .error (.atEnd .endInText)
  | character :: tail =>
    if character = '"' then .ok ([], tail)
    else if character = '\\' then
      match escape : readEscape tail with
      | .error fault => .error fault
      | .ok (meant, rest) =>
        have _restLength := (readEscape_suffix escape).length_le
        match readString rest with
        | .error fault => .error fault
        | .ok (characters, rest) => .ok (meant :: characters, rest)
    else if isControl character then .error (.before .controlCharacter tail)
    else
      match readString tail with
      | .error fault => .error fault
      | .ok (characters, rest) => .ok (character :: characters, rest)
termination_by text => text.length
decreasing_by all_goals simp only [List.length_cons]; omega

theorem readString_suffix {text rest characters : List Char}
    (success : readString text = .ok (characters, rest)) : rest <:+ text := by
  fun_induction readString text generalizing characters rest with
  | case1 => cases success
  | case2 tail => cases success; exact List.suffix_cons _ _
  | case3 => cases success
  | case4 => cases success
  | case5 tail meant afterEscape escape _ characters rest stringRead _ restSuffix =>
    cases success
    exact ((restSuffix stringRead).trans (readEscape_suffix escape)).trans (List.suffix_cons _ _)
  | case6 => cases success
  | case7 => cases success
  | case8 character tail _ _ _ characters rest stringRead restSuffix =>
    cases success
    exact (restSuffix stringRead).trans (List.suffix_cons _ _)

def skipEscape : List Char → Except Fault (List Char)
  | [] => .error (.atEnd .endInText)
  | letter :: rest =>
    match shortEscape? letter with
    | some _ => .ok rest
    | none =>
      if letter = 'u' then (readUnit rest).map Prod.snd
      else .error (.onFirst .invalidEscape (letter :: rest))

theorem skipEscape_suffix {text rest : List Char} (success : skipEscape text = .ok rest) :
    rest <:+ text := by
  unfold skipEscape at success
  split at success
  · cases success
  · next letter tail =>
    split at success
    · cases success
      exact List.suffix_cons letter rest
    · split at success
      · cases unitRead : readUnit tail with
        | error fault => rw [unitRead] at success; cases success
        | ok result =>
          rw [unitRead] at success
          cases success
          exact (readUnit_suffix unitRead).trans (List.suffix_cons letter tail)
      · cases success

def skipString : List Char → Except Fault (List Char)
  | [] => .error (.atEnd .endInText)
  | character :: tail =>
    if character = '"' then .ok tail
    else if character = '\\' then
      match escape : skipEscape tail with
      | .error fault => .error fault
      | .ok rest =>
        have _restLength := (skipEscape_suffix escape).length_le
        skipString rest
    else if isControl character then .error (.before .controlCharacter (character :: tail))
    else skipString tail
termination_by text => text.length
decreasing_by all_goals simp only [List.length_cons]; omega

theorem skipString_suffix {text rest : List Char} (success : skipString text = .ok rest) :
    rest <:+ text := by
  fun_induction skipString text with
  | case1 => cases success
  | case2 tail => cases success; exact List.suffix_cons _ _
  | case3 => cases success
  | case4 tail afterEscape escape _ _ restSuffix =>
    exact ((restSuffix success).trans (skipEscape_suffix escape)).trans (List.suffix_cons _ _)
  | case5 => cases success
  | case6 character tail _ _ _ restSuffix =>
    exact (restSuffix success).trans (List.suffix_cons _ _)

end BlockStates.Json
