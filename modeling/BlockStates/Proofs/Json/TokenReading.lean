import BlockStates.Catalog.Reading
import BlockStates.Proofs.Json.Spelling

/-!
# Single tokens are read back

A string is read back from every spelling of it, and a whole number from its
decimal digits.  A number of more than 64 bits becomes a binary one, or none at
all; it is never taken for another whole number.
-/

set_option autoImplicit false

namespace BlockStates.Json

/-! ## Strings -/

theorem IsHexDigit.hexDigit?_eq {value : Nat} {digit : Char} (isDigit : IsHexDigit value digit) :
    hexDigit? digit = some value := by
  have all : ∀ value < 16, hexDigit? (Nat.digitChar value) = some value ∧
      hexDigit? (Nat.digitChar value).toUpper = some value := by decide
  obtain ⟨small, rfl | rfl⟩ := isDigit
  · exact (all value small).1
  · exact (all value small).2

theorem SpellsUnit.readUnit_append {unit : Nat} {digits : List Char}
    (spells : SpellsUnit unit digits) (rest : List Char) :
    readUnit (digits ++ rest) = .ok (unit, rest) := by
  cases spells with
  | digits isFirst isSecond isThird isFourth =>
    simp [readUnit, hexUnit?, isFirst.hexDigit?_eq, isSecond.hexDigit?_eq,
      isThird.hexDigit?_eq, isFourth.hexDigit?_eq]

/-- No character is half of a surrogate pair. -/
theorem not_surrogate (character : Char) :
    isLowSurrogate character.toNat = false ∧ isHighSurrogate character.toNat = false := by
  have valid : character.toNat < 0xD800 ∨ 0xDFFF < character.toNat ∧ character.toNat < 0x110000 :=
    character.valid
  simp only [isLowSurrogate, isHighSurrogate, Bool.and_eq_false_iff, decide_eq_false_iff_not]
  omega

theorem readCodePoint_of_unit {character : Char} {digits : List Char}
    (spells : SpellsUnit character.toNat digits) (rest : List Char) :
    readCodePoint (digits ++ rest) = .ok (character, rest) := by
  obtain ⟨notLow, notHigh⟩ := not_surrogate character
  simp [readCodePoint, spells.readUnit_append rest, notLow, notHigh, Char.ofNat_toNat]

theorem readCodePoint_of_pair {character : Char} {high low : List Char}
    (beyond : 0x10000 ≤ character.toNat)
    (isHigh : SpellsUnit (0xD800 + (character.toNat - 0x10000) / 0x400) high)
    (isLow : SpellsUnit (0xDC00 + (character.toNat - 0x10000) % 0x400) low) (rest : List Char) :
    readCodePoint (high ++ '\\' :: 'u' :: (low ++ rest)) = .ok (character, rest) := by
  have valid : character.toNat < 0xD800 ∨ 0xDFFF < character.toNat ∧ character.toNat < 0x110000 :=
    character.valid
  have highFirst : isLowSurrogate (0xD800 + (character.toNat - 0x10000) / 0x400) = false := by
    simp only [isLowSurrogate, Bool.and_eq_false_iff, decide_eq_false_iff_not]
    omega
  have isHighHalf : isHighSurrogate (0xD800 + (character.toNat - 0x10000) / 0x400) = true := by
    simp only [isHighSurrogate, Bool.and_eq_true, decide_eq_true_eq]
    omega
  have isLowHalf : isLowSurrogate (0xDC00 + (character.toNat - 0x10000) % 0x400) = true := by
    simp only [isLowSurrogate, Bool.and_eq_true, decide_eq_true_eq]
    omega
  have paired : pairedCharacter (0xD800 + (character.toNat - 0x10000) / 0x400)
      (0xDC00 + (character.toNat - 0x10000) % 0x400) = character := by
    have code : 0x10000 + (0xD800 + (character.toNat - 0x10000) / 0x400 - 0xD800) * 0x400 +
        (0xDC00 + (character.toNat - 0x10000) % 0x400 - 0xDC00) = character.toNat := by
      omega
    rw [pairedCharacter, code, Char.ofNat_toNat]
  simp [readCodePoint, isHigh.readUnit_append, highFirst, isHighHalf, readLowSurrogate,
    isLow.readUnit_append, isLowHalf, paired]

theorem readString_escape {tail rest behind value : List Char} {character : Char}
    (escape : readEscape tail = .ok (character, rest))
    (later : readString rest = .ok (value, behind)) :
    readString ('\\' :: tail) = .ok (character :: value, behind) := by
  rw [readString]
  simp only [Char.reduceEq, if_false, if_true]
  split
  · next failed => cases failed.symm.trans escape
  · next read =>
    cases read.symm.trans escape
    simp [later]

/-- However a character is spelled, it is read in front of what follows. -/
theorem SpellsCharacter.readString_append {character : Char} {piece : List Char}
    (spells : SpellsCharacter character piece) {tail value rest : List Char}
    (later : readString tail = .ok (value, rest)) :
    readString (piece ++ tail) = .ok (character :: value, rest) := by
  cases spells with
  | raw noQuote noBackslash noControl =>
    have allowed : isControl character = false := by
      simpa [isControl] using noControl
    rw [List.singleton_append, readString]
    simp [noQuote, noBackslash, allowed, later]
  | @short letter _ listed =>
    have known : ∀ entry ∈ shortEscapes, shortEscape? entry.1 = some entry.2 := by decide
    apply readString_escape _ later
    simp [readEscape, known (letter, character) listed]
  | @unit _ digits isUnit =>
    apply readString_escape _ later
    have unknown : shortEscape? 'u' = none := by decide
    simp [readEscape, unknown, readCodePoint_of_unit isUnit tail]
  | @pair _ high low beyond isHigh isLow =>
    apply readString_escape _ later
    have unknown : shortEscape? 'u' = none := by decide
    simp [readEscape, unknown, readCodePoint_of_pair beyond isHigh isLow tail]

theorem SpellsText.readString_eq {value characters : List Char}
    (spells : SpellsText value characters) (rest : List Char) :
    readString (characters ++ '"' :: rest) = .ok (value, rest) := by
  induction spells with
  | nil => simp [readString]
  | cons first _ laterRead =>
    rw [List.append_assoc]
    exact first.readString_append laterRead

/-! ## Whole numbers -/

theorem isPlain_of_isDigit {character : Char} (isDigit : character.isDigit = true) :
    isPlain character = true := by
  simp [isPlain, Char.isAlphanum, isDigit]

theorem ofDigitChars_le (characters : List Char) (significand : Nat) :
    significand ≤ Nat.ofDigitChars 10 characters significand := by
  induction characters generalizing significand with
  | nil => exact Nat.le_refl _
  | cons character later laterLe =>
    rw [Nat.ofDigitChars_cons]
    have grown := laterLe (10 * significand + (character.toNat - '0'.toNat))
    omega

theorem append_digitValue (significand : Nat) (character : Char) :
    significand * 10 + digitValue character =
      10 * significand + (character.toNat - '0'.toNat) := by
  rw [Nat.mul_comm]
  rfl

/-- Digits that fit into 64 bits are all taken. -/
theorem appendDigits_of_le (characters : List Char) (significand : Nat)
    (fits : Nat.ofDigitChars 10 characters significand ≤ greatestWord) :
    appendDigits significand (characters.map digitValue) =
      (Nat.ofDigitChars 10 characters significand, []) := by
  induction characters generalizing significand with
  | nil => rfl
  | cons character later laterAppend =>
    rw [Nat.ofDigitChars_cons] at fits ⊢
    have grown := ofDigitChars_le later (10 * significand + (character.toNat - '0'.toNat))
    rw [List.map_cons, appendDigits, append_digitValue, if_pos (Nat.le_trans grown fits),
      laterAppend _ fits]

/-- If no digit is left over, all are taken. -/
theorem appendDigits_of_none_left (characters : List Char) (significand : Nat)
    (noneLeft : (appendDigits significand (characters.map digitValue)).2 = []) :
    (appendDigits significand (characters.map digitValue)).1 =
      Nat.ofDigitChars 10 characters significand := by
  induction characters generalizing significand with
  | nil => rfl
  | cons character later laterAppend =>
    rw [List.map_cons, appendDigits, append_digitValue] at noneLeft ⊢
    by_cases fits : 10 * significand + (character.toNat - '0'.toNat) ≤ greatestWord
    · rw [if_pos fits] at noneLeft ⊢
      rw [Nat.ofDigitChars_cons]
      exact laterAppend _ noneLeft
    · rw [if_neg fits] at noneLeft
      cases noneLeft

theorem head_toDigits_ne_zero (number : Nat) (positive : 0 < number) :
    ∃ first rest, Nat.toDigits 10 number = first :: rest ∧ first ≠ '0' := by
  induction number using Nat.strongRecOn with
  | ind number smaller =>
    rw [Nat.toDigits_eq_if (by decide)]
    by_cases single : number < 10
    · rw [if_pos single]
      have notZero : ∀ digit < 10, 0 < digit → Nat.digitChar digit ≠ '0' := by decide
      exact ⟨_, [], rfl, notZero number single positive⟩
    · rw [if_neg single]
      obtain ⟨first, rest, digits, noZero⟩ := smaller (number / 10) (by omega) (by omega)
      exact ⟨first, rest ++ [(number % 10).digitChar], by rw [digits, List.cons_append], noZero⟩

section Ended

variable {rest : List Char} (ended : ∀ first ∈ rest.head?, isPlain first = false)

include ended

theorem not_isDigit_of_ended : ∀ first ∈ rest.head?, first.isDigit = false := by
  intro first isFirst
  rw [← Bool.not_eq_true]
  intro isDigit
  exact Bool.false_ne_true ((ended first isFirst).symm.trans (isPlain_of_isDigit isDigit))

theorem takeWhile_isDigit_append {digits : List Char}
    (areDigits : ∀ character ∈ digits, character.isDigit = true) :
    (digits ++ rest).takeWhile Char.isDigit = digits ∧ skipDigits (digits ++ rest) = rest := by
  have noDigit := not_isDigit_of_ended ended
  rw [skipDigits, List.takeWhile_append_of_pos areDigits, List.dropWhile_append_of_pos areDigits]
  cases rest with
  | nil => simp
  | cons first later => simp [noDigit first rfl]

theorem readTail_of_ended (negative : Bool) (significand leftOver : Nat) :
    readTail negative significand leftOver rest =
      finishWhole negative significand leftOver rest := by
  cases rest with
  | nil => rfl
  | cons mark later =>
    have notPlain := ended mark rfl
    have noPoint : mark ≠ '.' := by
      rintro rfl
      exact absurd notPlain (by decide)
    have noExponent : isExponentMark mark = false := by
      rw [← Bool.not_eq_true, isExponentMark, Bool.or_eq_true, beq_iff_eq, beq_iff_eq]
      rintro (rfl | rfl) <;> exact absurd notPlain (by decide)
    simp [readTail, noPoint, noExponent]

/-- The digits of a number are all that is read, and either the number is known
exactly or some digits are left over. -/
theorem readUnsigned_toDigits (negative : Bool) (number : Nat) :
    ∃ significand leftOver, readUnsigned negative (Nat.toDigits 10 number ++ rest) =
        finishWhole negative significand leftOver rest ∧
      (leftOver = 0 → significand = number) ∧ (number ≤ greatestWord → leftOver = 0) := by
  by_cases zero : number = 0
  · refine ⟨0, 0, ?_, fun _ => zero.symm, fun _ => rfl⟩
    rw [zero, Nat.toDigits_zero, List.singleton_append, ← readTail_of_ended ended]
    unfold readUnsigned
    cases rest with
    | nil => rfl
    | cons next later => simp [not_isDigit_of_ended ended next rfl]
  · obtain ⟨first, others, digits, noZero⟩ := head_toDigits_ne_zero number (by omega)
    have areDigits : ∀ character ∈ Nat.toDigits 10 number, character.isDigit = true :=
      fun character member => Nat.isDigit_of_mem_toDigits (by decide) (by decide) member
    obtain ⟨taken, skipped⟩ := takeWhile_isDigit_append ended areDigits
    have firstDigit : first.isDigit = true := areDigits first (by rw [digits]; simp)
    have leading : leadingDigits (Nat.toDigits 10 number ++ rest) =
        (Nat.toDigits 10 number).map digitValue := by
      rw [leadingDigits, taken]
    refine ⟨(appendDigits 0 ((Nat.toDigits 10 number).map digitValue)).1,
      (appendDigits 0 ((Nat.toDigits 10 number).map digitValue)).2.length, ?_, ?_, ?_⟩
    · rw [← readTail_of_ended ended, ← leading, readUnsigned.eq_def, digits, List.cons_append]
      rw [digits, List.cons_append] at skipped
      simp [noZero, firstDigit, skipped]
    · intro noneLeft
      rw [appendDigits_of_none_left _ _ (List.length_eq_zero_iff.mp noneLeft),
        Nat.ofDigitChars_ten_toDigits]
    · intro fits
      rw [← Nat.ofDigitChars_ten_toDigits (n := number)] at fits
      rw [appendDigits_of_le _ _ fits]
      rfl

end Ended

theorem finish_cases (negative : Bool) (significand : Nat) (exponent : Int) (rest : List Char) :
    (∃ magnitude, finish negative significand exponent rest =
        .ok (.binary negative magnitude, rest)) ∨
      ∃ fault, finish negative significand exponent rest = .error fault := by
  unfold finish
  cases scaled? significand exponent with
  | none => exact Or.inr ⟨_, rfl⟩
  | some magnitude => exact Or.inl ⟨magnitude, rfl⟩

theorem finishWhole_of_whole {negative : Bool} {significand : Nat} {value : Int}
    (isWhole : wholeNumber? negative significand = some value) (rest : List Char) :
    finishWhole negative significand 0 rest = .ok (.whole value, rest) := by
  simp [finishWhole, isWhole]

theorem finishWhole_cases (negative : Bool) (significand leftOver : Nat) (rest : List Char) :
    (∃ value, leftOver = 0 ∧ wholeNumber? negative significand = some value ∧
        finishWhole negative significand leftOver rest = .ok (.whole value, rest)) ∨
      (∃ magnitude, finishWhole negative significand leftOver rest =
        .ok (.binary negative magnitude, rest)) ∨
      ∃ fault, finishWhole negative significand leftOver rest = .error fault := by
  cases isWhole : wholeNumber? negative significand with
  | none =>
    have notWhole : finishWhole negative significand leftOver rest =
        finish negative significand leftOver rest := by
      simp [finishWhole, isWhole]
    rw [notWhole]
    exact Or.inr (finish_cases negative significand leftOver rest)
  | some value =>
    cases leftOver with
    | zero => exact Or.inl ⟨value, rfl, rfl, finishWhole_of_whole isWhole rest⟩
    | succ more => exact Or.inr (finish_cases negative significand (more + 1 : Nat) rest)

theorem toList_ofNat (number : Nat) :
    (toString (Int.ofNat number)).toList = Nat.toDigits 10 number :=
  Nat.toList_repr

theorem toList_negSucc (number : Nat) :
    (toString (Int.negSucc number)).toList = '-' :: Nat.toDigits 10 (number + 1) := by
  have signed : toString (Int.negSucc number) = "-" ++ (number + 1).repr := rfl
  rw [signed, String.toList_append, Nat.toList_repr]
  rfl

theorem exists_first_digit (number : Nat) :
    ∃ first others, Nat.toDigits 10 number = first :: others ∧ first.isDigit = true := by
  obtain ⟨first, others, digits⟩ :=
    List.exists_cons_of_ne_nil (Nat.toDigits_ne_nil (b := 10) (n := number))
  exact ⟨first, others, digits,
    Nat.isDigit_of_mem_toDigits (by decide) (by decide) (digits ▸ List.mem_cons_self)⟩

theorem readNumber_toDigits (number : Nat) (rest : List Char) :
    readNumber (Nat.toDigits 10 number ++ rest) =
      readUnsigned false (Nat.toDigits 10 number ++ rest) := by
  obtain ⟨first, others, digits, isDigit⟩ := exists_first_digit number
  have noSign : first ≠ '-' := by
    rintro rfl
    exact absurd isDigit (by decide)
  rw [digits, List.cons_append, readNumber, if_neg noSign]

/-- The digits of a whole number are read as that number or as no whole number,
and those of a natural number of 64 bits are read as that number. -/
theorem readNumber_integer (value : Int) {rest : List Char}
    (ended : ∀ first ∈ rest.head?, isPlain first = false) :
    ∃ negative significand leftOver, readNumber ((toString value).toList ++ rest) =
        finishWhole negative significand leftOver rest ∧
      (∀ whole, leftOver = 0 → wholeNumber? negative significand = some whole → whole = value) ∧
      (0 ≤ value → value ≤ greatestWord →
        leftOver = 0 ∧ wholeNumber? negative significand = some value) := by
  cases value with
  | ofNat number =>
    obtain ⟨significand, leftOver, read, exactly, fits⟩ :=
      readUnsigned_toDigits ended false number
    refine ⟨false, significand, leftOver, ?_, ?_, ?_⟩
    · rw [toList_ofNat, readNumber_toDigits, read]
    · intro whole noneLeft isWhole
      rw [wholeNumber?, if_pos Bool.false_ne_true, exactly noneLeft] at isWhole
      exact (Option.some.inj isWhole).symm
    · intro _ small
      have noneLeft := fits (Int.ofNat_le.mp small)
      rw [wholeNumber?, if_pos Bool.false_ne_true, exactly noneLeft]
      exact ⟨noneLeft, rfl⟩
  | negSucc number =>
    obtain ⟨significand, leftOver, read, exactly, -⟩ :=
      readUnsigned_toDigits ended true (number + 1)
    refine ⟨true, significand, leftOver, ?_, ?_, ?_⟩
    · rw [toList_negSucc, List.cons_append, readNumber, if_pos rfl, read]
    · intro whole noneLeft isWhole
      rw [exactly noneLeft] at isWhole
      unfold wholeNumber? at isWhole
      split at isWhole
      · contradiction
      · split at isWhole
        · cases isWhole
        · exact (Option.some.inj isWhole).symm
    · intro natural
      exact absurd natural (by omega)

def idOf? (value : Int) : Option UInt16 :=
  if 0 ≤ value ∧ value ≤ greatestId then some (UInt16.ofNat value.toNat) else none

theorem integer_opens (value : Int) :
    ∃ first others, (toString value).toList = first :: others ∧
      (first = '-' ∨ first.isDigit = true) := by
  cases value with
  | ofNat number =>
    obtain ⟨first, others, digits, isDigit⟩ := exists_first_digit number
    exact ⟨first, others, by rw [toList_ofNat, digits], Or.inr isDigit⟩
  | negSucc number => exact ⟨'-', _, toList_negSucc number, Or.inl rfl⟩

theorem integerToken_spelled (value : Int) :
    (integerToken value).Spelled (toString value).toList := by
  have plainDigits (number : Nat) : ∀ digit ∈ Nat.toDigits 10 number, isPlain digit = true := by
    intro digit member
    exact isPlain_of_isDigit (Nat.isDigit_of_mem_toDigits (by decide) (by decide) member)
  obtain ⟨first, others, characters, -⟩ := integer_opens value
  apply Token.Spelled.plain
  · rw [characters]
    exact List.cons_ne_nil first others
  · cases value with
    | ofNat number =>
      rw [toList_ofNat]
      exact plainDigits number
    | negSucc number =>
      rw [toList_negSucc]
      exact List.forall_mem_cons.mpr ⟨by decide, plainDigits (number + 1)⟩

/-- Any whole number is read as the identifier that it is, or not at all. -/
theorem stateId_integer (value : Int) {text rest : List Char}
    (skipped : skipBlanks text = (toString value).toList ++ rest)
    (ended : ∀ first ∈ rest.head?, isPlain first = false) :
    (∀ id, idOf? value = some id → stateId.run text = .ok (id, rest)) ∧
      (idOf? value = none → ∃ fault, stateId.run text = .error fault) := by
  obtain ⟨negative, significand, leftOver, read, exactly, fits⟩ := readNumber_integer value ended
  obtain ⟨first, others, characters, opens⟩ := integer_opens value
  rw [characters, List.cons_append] at read skipped
  simp only [stateId, skipped, opens, if_true, read]
  constructor
  · intro id isId
    unfold idOf? at isId
    split at isId
    · next inside =>
      have withinWord : value ≤ greatestWord := Int.le_trans inside.2 (by decide)
      obtain ⟨rfl, isWhole⟩ := fits inside.1 withinWord
      simp only [finishWhole_of_whole isWhole, inside, Option.some.inj isId]
      simp
    · cases isId
  · intro noId
    rcases finishWhole_cases negative significand leftOver rest with
      ⟨whole, noneLeft, isWhole, finished⟩ | ⟨magnitude, finished⟩ | ⟨fault, finished⟩
    · obtain rfl := exactly whole noneLeft isWhole
      have outside : ¬ (0 ≤ whole ∧ whole ≤ greatestId) := by
        intro inside
        rw [idOf?, if_pos inside] at noId
        cases noId
      rw [finished]
      simp [outside]
    · rw [finished]
      exact ⟨_, rfl⟩
    · rw [finished]
      exact ⟨_, rfl⟩

end BlockStates.Json
