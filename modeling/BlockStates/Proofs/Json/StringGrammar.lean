import Mathlib.Data.List.Forall2
import BlockStates.Proofs.Json.TokenReading

/-!
# The strings that are read and the strings that are passed over

What is read as a string is exactly what spells a value.  What is passed over is
more: `\u` may stand with any four digits there, and such a string has no value
if it leaves half of a surrogate pair alone.
-/

set_option autoImplicit false

namespace BlockStates.Json

/-! ## Strings with and without a value -/

/-- A character or an escape of a string, whether or not it means a character. -/
inductive StringPiece : List Char → Prop where
  | raw {character : Char} (noQuote : character ≠ '"') (noBackslash : character ≠ '\\')
      (noControl : 0x20 ≤ character.toNat) : StringPiece [character]
  | short {letter character : Char} (listed : (letter, character) ∈ shortEscapes) :
      StringPiece ['\\', letter]
  | unit {unit : Nat} {digits : List Char} (isUnit : SpellsUnit unit digits) :
      StringPiece ('\\' :: 'u' :: digits)

inductive IsString : List Char → Prop where
  | nil : IsString []
  | cons {piece pieces : List Char} (first : StringPiece piece) (later : IsString pieces) :
      IsString (piece ++ pieces)

/-- What stands between the quotes of a string, with the value of the string if it
has one. -/
inductive SpellsContent : Option String → List Char → Prop where
  | value {value : String} {characters : List Char} (spells : SpellsText value.toList characters) :
      SpellsContent (some value) characters
  | noValue {characters : List Char} (isString : IsString characters)
      (broken : ∀ value, ¬ SpellsText value characters) : SpellsContent none characters

theorem IsString.append {front back : List Char} (isFront : IsString front)
    (isBack : IsString back) : IsString (front ++ back) := by
  induction isFront with
  | nil => exact isBack
  | cons first _ laterAppend =>
    rw [List.append_assoc]
    exact .cons first laterAppend

theorem StringPiece.isString {piece : List Char} (isPiece : StringPiece piece) :
    IsString piece := by
  have alone := IsString.cons isPiece .nil
  rwa [List.append_nil] at alone

theorem SpellsCharacter.isString {character : Char} {piece : List Char}
    (spells : SpellsCharacter character piece) : IsString piece := by
  cases spells with
  | raw noQuote noBackslash noControl =>
    exact (StringPiece.raw noQuote noBackslash noControl).isString
  | short listed => exact (StringPiece.short listed).isString
  | unit isUnit => exact (StringPiece.unit isUnit).isString
  | pair _ isHigh isLow =>
    exact (StringPiece.unit isHigh).isString.append (StringPiece.unit isLow).isString

theorem SpellsText.isString {value characters : List Char} (spells : SpellsText value characters) :
    IsString characters := by
  induction spells with
  | nil => exact .nil
  | cons first _ laterIsString => exact first.isString.append laterIsString

theorem SpellsContent.isString {content : Option String} {characters : List Char}
    (spells : SpellsContent content characters) : IsString characters := by
  cases spells with
  | value spells => exact spells.isString
  | noValue isString _ => exact isString

/-- Every string either has a value or has none. -/
theorem IsString.exists_content {characters : List Char} (isString : IsString characters) :
    ∃ content, SpellsContent content characters := by
  by_cases broken : ∀ value, ¬ SpellsText value characters
  · exact ⟨none, .noValue isString broken⟩
  · obtain ⟨value, spells⟩ := not_forall_not.mp broken
    refine ⟨some (String.ofList value), .value ?_⟩
    rwa [String.toList_ofList]

/-! ## Digits and escapes -/

theorem isHexDigit_of_hexDigit? {character : Char} {value : Nat}
    (read : hexDigit? character = some value) : IsHexDigit value character := by
  have all : ∀ code < 0x67, ∀ value ∈ hexDigit? (Char.ofNat code),
      IsHexDigit value (Char.ofNat code) := by decide
  have small : character.toNat < 0x67 := by
    by_contra large
    have noDigit : character.isDigit = false := by
      rw [← Bool.not_eq_true, Char.isDigit_iff_toNat]
      rintro ⟨-, upToNine⟩
      exact large (Nat.lt_of_le_of_lt upToNine (by decide))
    have noUpper : ¬(0x41 ≤ character.toNat ∧ character.toNat ≤ 0x46) := by omega
    have noLower : ¬(0x61 ≤ character.toNat ∧ character.toNat ≤ 0x66) := by omega
    simp [hexDigit?, noDigit, noUpper, noLower] at read
  have isDigit := all character.toNat small value
  rw [Char.ofNat_toNat] at isDigit
  exact isDigit read

theorem spellsUnit_of_readUnit {text rest : List Char} {unit : Nat}
    (read : readUnit text = .ok (unit, rest)) :
    ∃ digits, text = digits ++ rest ∧ SpellsUnit unit digits := by
  unfold readUnit at read
  split at read
  · next first second third fourth tail =>
    split at read
    · next value isUnit =>
      cases read
      simp only [hexUnit?, Option.bind_eq_bind, Option.bind_eq_some_iff, Option.pure_def,
        Option.some.injEq] at isUnit
      obtain ⟨one, isOne, two, isTwo, three, isThree, four, isFour, rfl⟩ := isUnit
      exact ⟨[first, second, third, fourth], rfl, .digits (isHexDigit_of_hexDigit? isOne)
        (isHexDigit_of_hexDigit? isTwo) (isHexDigit_of_hexDigit? isThree)
        (isHexDigit_of_hexDigit? isFour)⟩
    · cases read
  · cases read

theorem SpellsUnit.lt {unit : Nat} {digits : List Char} (spells : SpellsUnit unit digits) :
    unit < 0x10000 := by
  cases spells with
  | digits isFirst isSecond isThird isFourth =>
    have firstSmall := isFirst.1
    have secondSmall := isSecond.1
    have thirdSmall := isThird.1
    have fourthSmall := isFourth.1
    omega

theorem mem_shortEscapes {letter character : Char} (known : shortEscape? letter = some character) :
    (letter, character) ∈ shortEscapes := by
  unfold shortEscape? at known
  split_ifs at known <;> subst letter <;> cases known <;> decide

/-! ## What is read -/

theorem toNat_ofNat_of_valid {code : Nat} (valid : code.isValidChar) :
    (Char.ofNat code).toNat = code := by
  rw [Char.ofNat, dif_pos valid]
  rfl

theorem spellsCharacter_of_readLowSurrogate {high : Nat} {digits text rest : List Char}
    {character : Char} (isHigh : isHighSurrogate high = true) (highDigits : SpellsUnit high digits)
    (read : readLowSurrogate high text = .ok (character, rest)) :
    ∃ piece, text = piece ++ rest ∧
      SpellsCharacter character ('\\' :: 'u' :: (digits ++ piece)) := by
  simp only [isHighSurrogate, Bool.and_eq_true, decide_eq_true_eq] at isHigh
  unfold readLowSurrogate at read
  split at read
  · cases read
  · split at read
    · next isBackslash =>
      split at read
      · cases read
      · split at read
        · next isU =>
          split at read
          · cases read
          · next low afterUnit unitRead =>
            obtain ⟨lowDigits, rfl, isUnit⟩ := spellsUnit_of_readUnit unitRead
            split at read
            · next isLow =>
              simp only [isLowSurrogate, Bool.and_eq_true, decide_eq_true_eq] at isLow
              simp only [Except.ok.injEq, Prod.mk.injEq] at read
              obtain ⟨rfl, rfl⟩ := read
              have valid :
                  (0x10000 + (high - 0xD800) * 0x400 + (low - 0xDC00)).isValidChar := by
                unfold Nat.isValidChar
                omega
              have code : (pairedCharacter high low).toNat =
                  0x10000 + (high - 0xD800) * 0x400 + (low - 0xDC00) := toNat_ofNat_of_valid valid
              have beyond : 0x10000 ≤ (pairedCharacter high low).toNat := by omega
              have highBack :
                  0xD800 + ((pairedCharacter high low).toNat - 0x10000) / 0x400 = high := by
                omega
              have lowBack :
                  0xDC00 + ((pairedCharacter high low).toNat - 0x10000) % 0x400 = low := by
                omega
              subst isBackslash isU
              rw [← highBack] at highDigits
              rw [← lowBack] at isUnit
              exact ⟨'\\' :: 'u' :: lowDigits, rfl, .pair beyond highDigits isUnit⟩
            · cases read
        · cases read
    · cases read

theorem spellsCharacter_of_readCodePoint {text rest : List Char} {character : Char}
    (read : readCodePoint text = .ok (character, rest)) :
    ∃ piece, text = piece ++ rest ∧ SpellsCharacter character ('\\' :: 'u' :: piece) := by
  unfold readCodePoint at read
  split at read
  · cases read
  · next unit afterUnit unitRead =>
    obtain ⟨digits, rfl, isUnit⟩ := spellsUnit_of_readUnit unitRead
    have unitSmall := isUnit.lt
    split at read
    · cases read
    · next notLow =>
      split at read
      · next isHigh =>
        obtain ⟨piece, rfl, spells⟩ := spellsCharacter_of_readLowSurrogate isHigh isUnit read
        exact ⟨digits ++ piece, (List.append_assoc _ _ _).symm, spells⟩
      · next notHigh =>
        simp only [isLowSurrogate, isHighSurrogate, Bool.and_eq_true, decide_eq_true_eq, not_and,
          Nat.not_le] at notLow notHigh
        cases read
        have valid : unit.isValidChar := by
          unfold Nat.isValidChar
          omega
        refine ⟨digits, rfl, .unit ?_⟩
        rwa [toNat_ofNat_of_valid valid]

theorem spellsCharacter_of_readEscape {text rest : List Char} {character : Char}
    (read : readEscape text = .ok (character, rest)) :
    ∃ piece, text = piece ++ rest ∧ SpellsCharacter character ('\\' :: piece) := by
  unfold readEscape at read
  split at read
  · cases read
  · next letter tail =>
    split at read
    · next known =>
      cases read
      exact ⟨[letter], rfl, .short (mem_shortEscapes known)⟩
    · split at read
      · next isU =>
        obtain ⟨piece, rfl, spells⟩ := spellsCharacter_of_readCodePoint read
        exact ⟨letter :: piece, rfl, isU ▸ spells⟩
      · cases read

theorem noControl_of_not_isControl {character : Char} (allowed : ¬isControl character = true) :
    0x20 ≤ character.toNat := by
  simpa [isControl] using allowed

theorem spellsText_of_readString {text rest value : List Char}
    (read : readString text = .ok (value, rest)) :
    ∃ characters, text = characters ++ '"' :: rest ∧ SpellsText value characters := by
  fun_induction readString text generalizing value rest with
  | case1 => cases read
  | case2 tail =>
    cases read
    exact ⟨[], rfl, .nil⟩
  | case3 => cases read
  | case4 => cases read
  | case5 tail meant afterEscape escape _ value rest stringRead _ laterSpelled =>
    cases read
    obtain ⟨piece, rfl, first⟩ := spellsCharacter_of_readEscape escape
    obtain ⟨characters, rfl, later⟩ := laterSpelled stringRead
    exact ⟨'\\' :: piece ++ characters, by simp, .cons first later⟩
  | case6 => cases read
  | case7 => cases read
  | case8 character tail noQuote noBackslash allowed value rest stringRead laterSpelled =>
    cases read
    obtain ⟨characters, rfl, later⟩ := laterSpelled stringRead
    have first := SpellsCharacter.raw noQuote noBackslash (noControl_of_not_isControl allowed)
    exact ⟨[character] ++ characters, rfl, .cons first later⟩

/-- A string is read exactly if what stands in front of its closing quote spells
the value. -/
theorem readString_eq_ok_iff {text rest value : List Char} :
    readString text = .ok (value, rest) ↔
      ∃ characters, text = characters ++ '"' :: rest ∧ SpellsText value characters := by
  constructor
  · exact spellsText_of_readString
  · rintro ⟨characters, rfl, spells⟩
    exact spells.readString_eq rest

/-! ## What is passed over -/

theorem skipString_escape {tail rest behind : List Char} (escape : skipEscape tail = .ok rest)
    (later : skipString rest = .ok behind) : skipString ('\\' :: tail) = .ok behind := by
  rw [skipString]
  simp only [Char.reduceEq, if_false, if_true]
  split
  · next failed => cases failed.symm.trans escape
  · next skipped =>
    cases skipped.symm.trans escape
    exact later

theorem StringPiece.skipString_append {piece : List Char} (isPiece : StringPiece piece)
    {tail rest : List Char} (later : skipString tail = .ok rest) :
    skipString (piece ++ tail) = .ok rest := by
  cases isPiece with
  | @raw character noQuote noBackslash noControl =>
    have allowed : isControl character = false := by
      simpa [isControl] using noControl
    rw [List.singleton_append, skipString]
    simp [noQuote, noBackslash, allowed, later]
  | @short letter character listed =>
    have known : ∀ entry ∈ shortEscapes, shortEscape? entry.1 = some entry.2 := by decide
    apply skipString_escape _ later
    simp [skipEscape, known (letter, character) listed]
  | @unit _ digits isUnit =>
    have skipped : skipEscape ('u' :: (digits ++ tail)) = .ok tail := by
      have unknown : shortEscape? 'u' = none := by decide
      simp only [skipEscape, unknown, if_true, isUnit.readUnit_append tail]
      rfl
    exact skipString_escape skipped later

theorem IsString.skipString_eq {characters : List Char} (isString : IsString characters)
    (rest : List Char) : skipString (characters ++ '"' :: rest) = .ok rest := by
  induction isString with
  | nil => simp [skipString]
  | cons first _ laterSkipped =>
    rw [List.append_assoc]
    exact first.skipString_append laterSkipped

theorem stringPiece_of_skipEscape {text rest : List Char} (skipped : skipEscape text = .ok rest) :
    ∃ piece, text = piece ++ rest ∧ StringPiece ('\\' :: piece) := by
  unfold skipEscape at skipped
  split at skipped
  · cases skipped
  · next letter tail =>
    split at skipped
    · next known =>
      cases skipped
      exact ⟨[letter], rfl, .short (mem_shortEscapes known)⟩
    · split at skipped
      · next isU =>
        cases unitRead : readUnit tail with
        | error fault => rw [unitRead] at skipped; cases skipped
        | ok result =>
          rw [unitRead] at skipped
          cases skipped
          obtain ⟨digits, rfl, isUnit⟩ := spellsUnit_of_readUnit unitRead
          exact ⟨letter :: digits, rfl, isU ▸ .unit isUnit⟩
      · cases skipped

/-- A string is passed over exactly if it is one for the grammar. -/
theorem skipString_eq_ok_iff {text rest : List Char} :
    skipString text = .ok rest ↔
      ∃ characters, text = characters ++ '"' :: rest ∧ IsString characters := by
  constructor
  · intro skipped
    fun_induction skipString text with
    | case1 => cases skipped
    | case2 tail =>
      cases skipped
      exact ⟨[], rfl, .nil⟩
    | case3 => cases skipped
    | case4 tail afterEscape escape _ _ laterIsString =>
      obtain ⟨piece, rfl, first⟩ := stringPiece_of_skipEscape escape
      obtain ⟨characters, rfl, later⟩ := laterIsString skipped
      exact ⟨'\\' :: piece ++ characters, by simp, .cons first later⟩
    | case5 => cases skipped
    | case6 character tail noQuote noBackslash allowed laterIsString =>
      obtain ⟨characters, rfl, later⟩ := laterIsString skipped
      have first := StringPiece.raw noQuote noBackslash (noControl_of_not_isControl allowed)
      exact ⟨[character] ++ characters, rfl, .cons first later⟩
  · rintro ⟨characters, rfl, isString⟩
    exact isString.skipString_eq rest

/-! ## Both scans end at the same quote -/

theorem IsString.eq_of_append_eq {first second firstRest secondRest : List Char}
    (isFirst : IsString first) (isSecond : IsString second)
    (same : first ++ '"' :: firstRest = second ++ '"' :: secondRest) :
    first = second ∧ firstRest = secondRest := by
  have firstSkipped := isFirst.skipString_eq firstRest
  rw [same, isSecond.skipString_eq secondRest] at firstSkipped
  cases firstSkipped
  exact ⟨List.append_cancel_right same, rfl⟩

/-- A string without a value cannot be read. -/
theorem SpellsContent.readString_of_none {characters : List Char}
    (spells : SpellsContent none characters) (rest : List Char) :
    ∃ fault, readString (characters ++ '"' :: rest) = .error fault := by
  cases spells with
  | noValue isString broken =>
    cases stringRead : readString (characters ++ '"' :: rest) with
    | error fault => exact ⟨fault, rfl⟩
    | ok result =>
      obtain ⟨others, sameText, othersSpell⟩ := spellsText_of_readString stringRead
      obtain ⟨rfl, -⟩ := isString.eq_of_append_eq othersSpell.isString sameText
      exact absurd othersSpell (broken result.1)

end BlockStates.Json
