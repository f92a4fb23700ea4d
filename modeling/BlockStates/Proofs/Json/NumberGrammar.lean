import Mathlib.Data.List.Forall2
import BlockStates.Proofs.Json.TokenReading

/-!
# Numbers of any size

The grammar of numbers sets no bound.  A number is passed over whatever its size
is; it is read as an identifier exactly if it is written with digits alone and is
not too large.
-/

set_option autoImplicit false

namespace BlockStates.Json

/-! ## The grammar -/

/-- Nothing follows that would prolong a number. -/
def Ended (rest : List Char) : Prop :=
  ∀ first ∈ rest.head?, isPlain first = false

def AllDigits (characters : List Char) : Prop :=
  ∀ character ∈ characters, character.isDigit = true

instance (characters : List Char) : Decidable (AllDigits characters) :=
  List.decidableBAll _ characters

inductive IsWhole : List Char → Prop where
  | zero : IsWhole ['0']
  | digits {first : Char} {later : List Char} (isDigit : first.isDigit = true)
      (notZero : first ≠ '0') (digits : AllDigits later) : IsWhole (first :: later)

inductive IsFraction : List Char → Prop where
  | absent : IsFraction []
  | digits {first : Char} {later : List Char} (isDigit : first.isDigit = true)
      (digits : AllDigits later) : IsFraction ('.' :: first :: later)

inductive IsSign : List Char → Prop where
  | absent : IsSign []
  | plus : IsSign ['+']
  | minus : IsSign ['-']

inductive IsExponent : List Char → Prop where
  | absent : IsExponent []
  | digits {mark first : Char} {sign later : List Char} (isMark : isExponentMark mark = true)
      (isSign : IsSign sign) (isDigit : first.isDigit = true) (digits : AllDigits later) :
      IsExponent (mark :: (sign ++ first :: later))

inductive IsUnsigned : List Char → Prop where
  | parts {whole fraction exponent : List Char} (isWhole : IsWhole whole)
      (isFraction : IsFraction fraction) (isExponent : IsExponent exponent) :
      IsUnsigned (whole ++ (fraction ++ exponent))

inductive IsNumber : List Char → Prop where
  | positive {characters : List Char} (isUnsigned : IsUnsigned characters) : IsNumber characters
  | negative {characters : List Char} (isUnsigned : IsUnsigned characters) :
      IsNumber ('-' :: characters)

/-! ## The front of what follows a part -/

theorem not_isDigit_of_isExponentMark {mark : Char} (isMark : isExponentMark mark = true) :
    mark.isDigit = false ∧ mark ≠ '.' := by
  rw [isExponentMark, Bool.or_eq_true, beq_iff_eq, beq_iff_eq] at isMark
  rcases isMark with rfl | rfl <;> decide

theorem skipDigits_append {digits rest : List Char} (allDigits : AllDigits digits)
    (noDigit : ∀ first ∈ rest.head?, first.isDigit = false) :
    skipDigits (digits ++ rest) = rest := by
  rw [skipDigits, List.dropWhile_append_of_pos allDigits]
  cases rest with
  | nil => rfl
  | cons first later => exact List.dropWhile_cons_of_neg (by simp [noDigit first rfl])

section Ended

variable {rest : List Char} (ended : Ended rest)

include ended

theorem Ended.not_mark : ∀ first ∈ rest.head?, first.isDigit = false ∧ first ≠ '.' ∧
    isExponentMark first = false := by
  intro first isFirst
  have notPlain := ended first isFirst
  refine ⟨not_isDigit_of_ended ended first isFirst, ?_, ?_⟩
  · rintro rfl
    exact absurd notPlain (by decide)
  · rw [← Bool.not_eq_true, isExponentMark, Bool.or_eq_true, beq_iff_eq, beq_iff_eq]
    rintro (rfl | rfl) <;> exact absurd notPlain (by decide)

theorem Ended.not_mark_of_exponent {exponent : List Char} (isExponent : IsExponent exponent) :
    ∀ first ∈ (exponent ++ rest).head?, first.isDigit = false ∧ first ≠ '.' := by
  intro first isFirst
  cases isExponent with
  | absent =>
    obtain ⟨noDigit, noPoint, -⟩ := ended.not_mark first isFirst
    exact ⟨noDigit, noPoint⟩
  | digits isMark =>
    obtain rfl := Option.some.inj isFirst
    exact not_isDigit_of_isExponentMark isMark

theorem Ended.not_isDigit_of_fraction {fraction exponent : List Char}
    (isFraction : IsFraction fraction) (isExponent : IsExponent exponent) :
    ∀ first ∈ (fraction ++ (exponent ++ rest)).head?, first.isDigit = false := by
  intro first isFirst
  cases isFraction with
  | absent => exact (ended.not_mark_of_exponent isExponent first isFirst).1
  | digits =>
    obtain rfl := Option.some.inj isFirst
    decide

/-! ## Every number is passed over -/

theorem IsExponent.skipScale_append {exponent : List Char} (isExponent : IsExponent exponent) :
    skipScale (exponent ++ rest) = .ok rest := by
  cases isExponent with
  | absent =>
    rw [List.nil_append]
    cases rest with
    | nil => rfl
    | cons first later => simp [skipScale, (ended.not_mark first rfl).2.2]
  | @digits mark first sign later isMark isSign isDigit digits =>
    have unsigned : (readSign (sign ++ first :: (later ++ rest))).2 = first :: (later ++ rest) := by
      cases isSign with
      | absent =>
        unfold readSign
        split <;> first | rfl | cases ‹_ = _›; cases isDigit
      | plus | minus => rfl
    have skipped := skipDigits_append digits fun first isFirst => (ended.not_mark first isFirst).1
    rw [List.cons_append, List.append_assoc, List.cons_append, skipScale, if_pos isMark,
      skipExponent, unsigned]
    simp only [isDigit, if_true, skipped]

theorem skipTail_append {fraction exponent : List Char} (isFraction : IsFraction fraction)
    (isExponent : IsExponent exponent) :
    skipTail (fraction ++ (exponent ++ rest)) = .ok rest := by
  have scaleSkipped := isExponent.skipScale_append ended
  have notMark := ended.not_mark_of_exponent isExponent
  cases isFraction with
  | absent =>
    rw [List.nil_append]
    revert scaleSkipped notMark
    cases exponent ++ rest with
    | nil => exact fun scaleSkipped _ => scaleSkipped
    | cons first later =>
      intro scaleSkipped notMark
      rw [skipTail, if_neg (notMark first rfl).2, scaleSkipped]
  | @digits first later isDigit digits =>
    have skipped := skipDigits_append digits fun first isFirst => (notMark first isFirst).1
    simp only [List.cons_append, skipTail, skipFraction, isDigit, if_true, skipped, scaleSkipped]

theorem IsUnsigned.skipUnsigned_append {characters : List Char}
    (isUnsigned : IsUnsigned characters) : skipUnsigned (characters ++ rest) = .ok rest := by
  cases isUnsigned with
  | @parts whole fraction exponent isWhole isFraction isExponent =>
    have noDigit := ended.not_isDigit_of_fraction isFraction isExponent
    have tailSkipped := skipTail_append ended isFraction isExponent
    rw [List.append_assoc, List.append_assoc]
    cases isWhole with
    | zero =>
      revert noDigit tailSkipped
      rw [List.singleton_append]
      cases fraction ++ (exponent ++ rest) with
      | nil => exact fun _ tailSkipped => tailSkipped
      | cons next later =>
        intro noDigit tailSkipped
        simp only [skipUnsigned, if_true, noDigit next rfl, Bool.false_eq_true, if_false,
          tailSkipped]
    | digits isDigit notZero digits =>
      simp only [List.cons_append, skipUnsigned, notZero, if_false, isDigit, if_true,
        skipDigits_append digits noDigit, tailSkipped]

end Ended

/-! ## Only numbers are passed over -/

theorem exists_digits (text : List Char) :
    ∃ digits, text = digits ++ skipDigits text ∧ AllDigits digits := by
  refine ⟨text.takeWhile Char.isDigit, List.takeWhile_append_dropWhile.symm, ?_⟩
  exact List.all_eq_true.mp List.all_takeWhile

theorem exists_sign (text : List Char) :
    ∃ sign, text = sign ++ (readSign text).2 ∧ IsSign sign := by
  unfold readSign
  split
  · exact ⟨['+'], rfl, .plus⟩
  · exact ⟨['-'], rfl, .minus⟩
  · exact ⟨[], rfl, .absent⟩

theorem exists_exponent {text rest : List Char} (skipped : skipScale text = .ok rest) :
    ∃ exponent, text = exponent ++ rest ∧ IsExponent exponent := by
  unfold skipScale at skipped
  split at skipped
  · cases skipped
    exact ⟨[], rfl, .absent⟩
  · next mark tail =>
    split at skipped
    · next isMark =>
      obtain ⟨sign, signed, isSign⟩ := exists_sign tail
      unfold skipExponent at skipped
      split at skipped
      · cases skipped
      · next first later unsigned =>
        split at skipped
        · next isDigit =>
          cases skipped
          obtain ⟨digits, split, allDigits⟩ := exists_digits later
          refine ⟨mark :: (sign ++ first :: digits), ?_, .digits isMark isSign isDigit allDigits⟩
          rw [signed, unsigned, List.cons_append, List.append_assoc, List.cons_append, ← split]
        · cases skipped
    · cases skipped
      exact ⟨[], rfl, .absent⟩

theorem exists_fraction {text rest : List Char} (skipped : skipTail text = .ok rest) :
    ∃ fraction exponent, text = fraction ++ (exponent ++ rest) ∧ IsFraction fraction ∧
      IsExponent exponent := by
  unfold skipTail at skipped
  split at skipped
  · cases skipped
    exact ⟨[], [], rfl, .absent, .absent⟩
  · next mark tail =>
    split at skipped
    · next isPoint =>
      unfold skipFraction at skipped
      split at skipped
      · cases skipped
      · next first later =>
        split at skipped
        · next isDigit =>
          obtain ⟨digits, split, allDigits⟩ := exists_digits later
          obtain ⟨exponent, scale, isExponent⟩ := exists_exponent skipped
          refine ⟨'.' :: first :: digits, exponent, ?_, .digits isDigit allDigits, isExponent⟩
          rw [isPoint, List.cons_append, List.cons_append, ← scale, ← split]
        · cases skipped
    · obtain ⟨exponent, scale, isExponent⟩ := exists_exponent skipped
      exact ⟨[], exponent, scale, .absent, isExponent⟩

theorem isUnsigned_of_skipUnsigned {text rest : List Char}
    (skipped : skipUnsigned text = .ok rest) :
    ∃ characters, text = characters ++ rest ∧ IsUnsigned characters := by
  unfold skipUnsigned at skipped
  split at skipped
  · cases skipped
  · next first tail =>
    split at skipped
    · next isZero =>
      have tailSkipped : skipTail tail = .ok rest := by
        revert skipped
        split
        · exact fun skipped => skipped
        · split
          · rintro ⟨⟩
          · exact fun skipped => skipped
      obtain ⟨fraction, exponent, rfl, isFraction, isExponent⟩ := exists_fraction tailSkipped
      refine ⟨['0'] ++ (fraction ++ exponent), ?_, .parts .zero isFraction isExponent⟩
      simp [isZero]
    · next notZero =>
      split at skipped
      · next isDigit =>
        obtain ⟨digits, split, allDigits⟩ := exists_digits tail
        obtain ⟨fraction, exponent, parts, isFraction, isExponent⟩ := exists_fraction skipped
        refine ⟨(first :: digits) ++ (fraction ++ exponent), ?_,
          .parts (.digits isDigit notZero allDigits) isFraction isExponent⟩
        rw [List.append_assoc, List.append_assoc, ← parts, List.cons_append, ← split]
      · cases skipped

theorem IsUnsigned.exists_first {characters : List Char} (isUnsigned : IsUnsigned characters) :
    ∃ first later, characters = first :: later ∧ first.isDigit = true := by
  cases isUnsigned with
  | parts isWhole =>
    cases isWhole with
    | zero => exact ⟨'0', _, rfl, rfl⟩
    | digits isDigit => exact ⟨_, _, rfl, isDigit⟩

theorem IsNumber.exists_first {characters : List Char} (isNumber : IsNumber characters) :
    ∃ first later, characters = first :: later ∧ (first = '-' ∨ first.isDigit = true) := by
  cases isNumber with
  | positive isUnsigned =>
    obtain ⟨first, later, rfl, isDigit⟩ := isUnsigned.exists_first
    exact ⟨first, later, rfl, Or.inr isDigit⟩
  | negative => exact ⟨'-', _, rfl, Or.inl rfl⟩

/-! ## Reading whole numbers -/

theorem digitChar_of_isDigit {character : Char} (isDigit : character.isDigit = true) :
    Nat.digitChar (character.toNat - '0'.toNat) = character ∧
      character.toNat - '0'.toNat < 10 := by
  have all : ∀ code < 58, (Char.ofNat code).isDigit = true →
      Nat.digitChar ((Char.ofNat code).toNat - '0'.toNat) = Char.ofNat code ∧
        (Char.ofNat code).toNat - '0'.toNat < 10 := by decide
  have upToNine : character.toNat ≤ '9'.toNat := (Char.isDigit_iff_toNat.mp isDigit).2
  have found := all character.toNat (Nat.lt_succ_of_le upToNine)
  rw [Char.ofNat_toNat] at found
  exact found isDigit

theorem toDigits_append {digits : List Char} (allDigits : AllDigits digits) (start : Nat)
    (positive : 0 < start) :
    Nat.toDigits 10 start ++ digits = Nat.toDigits 10 (Nat.ofDigitChars 10 digits start) := by
  induction digits generalizing start with
  | nil => rw [List.append_nil, Nat.ofDigitChars_nil]
  | cons digit later laterAppend =>
    obtain ⟨isDigit, laterDigits⟩ := List.forall_mem_cons.mp allDigits
    obtain ⟨rebuilt, small⟩ := digitChar_of_isDigit isDigit
    have longer := Nat.toDigits_append_toDigits (by decide) positive small
    rw [Nat.toDigits_of_lt_base small, rebuilt] at longer
    rw [Nat.ofDigitChars_cons, ← laterAppend laterDigits _ (by omega), ← longer,
      List.append_assoc, List.singleton_append]

/-- Digits without a leading zero are those of the number they come to. -/
theorem IsWhole.toDigits_eq {whole : List Char} (isWhole : IsWhole whole) :
    Nat.toDigits 10 (Nat.ofDigitChars 10 whole 0) = whole := by
  cases isWhole with
  | zero => decide
  | @digits first later isDigit notZero digits =>
    obtain ⟨rebuilt, small⟩ := digitChar_of_isDigit isDigit
    have positive : 0 < first.toNat - '0'.toNat := by
      apply Nat.pos_of_ne_zero
      intro isZero
      rw [isZero] at rebuilt
      exact notZero rebuilt.symm
    rw [Nat.ofDigitChars_cons, Nat.mul_zero, Nat.zero_add, ← toDigits_append digits _ positive,
      Nat.toDigits_of_lt_base small, rebuilt, List.singleton_append]

/-- A number that is not whole is never taken for one. -/
theorem finish_ne_whole {negative : Bool} {significand : Nat} {exponent value : Int}
    {text rest : List Char} :
    finish negative significand exponent text ≠ .ok (.whole value, rest) := by
  unfold finish
  split <;> simp

theorem readExponent_ne_whole {negative : Bool} {significand : Nat} {exponent value : Int}
    {text rest : List Char} :
    readExponent negative significand exponent text ≠ .ok (.whole value, rest) := by
  unfold readExponent
  split
  · simp
  · split
    · split
      · exact finish_ne_whole
      · split <;> simp
    · simp

theorem readFraction_ne_whole {negative : Bool} {significand : Nat} {exponent value : Int}
    {text rest : List Char} :
    readFraction negative significand exponent text ≠ .ok (.whole value, rest) := by
  unfold readFraction
  split
  · simp
  · split
    · unfold readScale
      split
      · exact finish_ne_whole
      · split
        · exact readExponent_ne_whole
        · exact finish_ne_whole
    · simp

theorem wholeNumber?_negative {significand : Nat} {value : Int}
    (isWhole : wholeNumber? true significand = some value) : value < 0 := by
  unfold wholeNumber? at isWhole
  split at isWhole
  · contradiction
  · split at isWhole
    · cases isWhole
    · cases isWhole
      omega

theorem finishWhole_eq_whole {negative : Bool} {significand leftOver : Nat} {value : Int}
    {text rest : List Char}
    (finished : finishWhole negative significand leftOver text = .ok (.whole value, rest)) :
    rest = text ∧ (negative = true → value < 0) := by
  unfold finishWhole at finished
  split at finished
  · next isWhole =>
    cases finished
    refine ⟨rfl, ?_⟩
    rintro rfl
    exact wholeNumber?_negative isWhole
  · exact absurd finished finish_ne_whole

/-- Behind the digits of a whole number nothing is taken. -/
theorem readTail_eq_whole {negative : Bool} {significand leftOver : Nat} {value : Int}
    {text rest : List Char}
    (read : readTail negative significand leftOver text = .ok (.whole value, rest)) :
    rest = text ∧ skipTail text = .ok text ∧ (negative = true → value < 0) := by
  unfold readTail at read
  split at read
  · obtain ⟨same, below⟩ := finishWhole_eq_whole read
    exact ⟨same, rfl, below⟩
  · next mark tail =>
    split at read
    · exact absurd read readFraction_ne_whole
    · next noPoint =>
      split at read
      · exact absurd read readExponent_ne_whole
      · next noExponent =>
        obtain ⟨same, below⟩ := finishWhole_eq_whole read
        refine ⟨same, ?_, below⟩
        rw [skipTail, if_neg noPoint, skipScale, if_neg noExponent]

theorem readUnsigned_eq_whole {negative : Bool} {value : Int} {text rest : List Char}
    (read : readUnsigned negative text = .ok (.whole value, rest)) :
    (∃ digits, text = digits ++ rest ∧ IsWhole digits) ∧ skipUnsigned text = .ok rest ∧
      (negative = true → value < 0) := by
  unfold readUnsigned at read
  split at read
  · cases read
  · next first tail =>
    split at read
    · next isZero =>
      have tailRead : readTail negative 0 0 tail = .ok (.whole value, rest) ∧
          skipUnsigned (first :: tail) = skipTail tail := by
        subst isZero
        revert read
        split
        · exact fun read => ⟨read, rfl⟩
        · split
          · rintro ⟨⟩
          · next noDigit =>
            intro read
            refine ⟨read, ?_⟩
            rw [skipUnsigned, if_pos rfl]
            exact if_neg noDigit
      obtain ⟨rfl, tailSkipped, below⟩ := readTail_eq_whole tailRead.1
      rw [tailRead.2]
      exact ⟨⟨['0'], by rw [isZero]; rfl, .zero⟩, tailSkipped, below⟩
    · next notZero =>
      split at read
      · next isDigit =>
        obtain ⟨digits, split, allDigits⟩ := exists_digits tail
        obtain ⟨rfl, tailSkipped, below⟩ := readTail_eq_whole read
        have sameRest : skipDigits (first :: tail) = skipDigits tail := by
          rw [skipDigits, List.dropWhile_cons_of_pos isDigit]
          rfl
        rw [sameRest] at tailSkipped ⊢
        refine ⟨⟨first :: digits, ?_, .digits isDigit notZero allDigits⟩, ?_, below⟩
        · rw [List.cons_append, ← split]
        · rw [skipUnsigned.eq_def]
          simp only [notZero, if_false, isDigit, if_true, tailSkipped]
      · cases read

/-- The identifier that a number stands for: it is written with digits alone. -/
def numberId? (characters : List Char) : Option UInt16 :=
  if characters.all Char.isDigit then idOf? (Nat.ofDigitChars 10 characters 0) else none

theorem AllDigits.all {characters : List Char} (allDigits : AllDigits characters) :
    characters.all Char.isDigit = true :=
  List.all_eq_true.mpr allDigits

theorem IsWhole.allDigits {whole : List Char} (isWhole : IsWhole whole) : AllDigits whole := by
  cases isWhole with
  | zero => exact List.forall_mem_singleton.mpr rfl
  | digits isDigit _ digits => exact List.forall_mem_cons.mpr ⟨isDigit, digits⟩

/-- A number of digits alone has no sign, no fraction and no exponent. -/
theorem IsNumber.isWhole_of_allDigits {characters : List Char} (isNumber : IsNumber characters)
    (allDigits : AllDigits characters) : IsWhole characters := by
  cases isNumber with
  | negative => exact absurd (allDigits '-' List.mem_cons_self) (by decide)
  | positive isUnsigned =>
    cases isUnsigned with
    | @parts whole fraction exponent isWhole isFraction isExponent =>
      cases isFraction with
      | digits => exact absurd (allDigits '.' (by simp)) (by decide)
      | absent =>
        cases isExponent with
        | @digits mark first sign later isMark =>
          have isDigit := allDigits mark (by simp)
          rw [(not_isDigit_of_isExponentMark isMark).1] at isDigit
          cases isDigit
        | absent => rwa [List.append_nil, List.append_nil]

/-- A natural number that is read is written with digits, and ends where a number
is passed over. -/
theorem readNumber_eq_natural {value : Int} {text rest : List Char}
    (read : readNumber text = .ok (.whole value, rest)) (natural : 0 ≤ value) :
    (∃ digits, text = digits ++ rest ∧ IsWhole digits) ∧ skipUnsigned text = .ok rest := by
  unfold readNumber at read
  split at read
  · cases read
  · split at read
    · obtain ⟨-, -, below⟩ := readUnsigned_eq_whole read
      exact absurd natural (Int.not_le.mpr (below rfl))
    · obtain ⟨isWhole, skipped, -⟩ := readUnsigned_eq_whole read
      exact ⟨isWhole, skipped⟩

theorem stateId_eq_ok {id : UInt16} {text rest : List Char}
    (read : stateId.run text = .ok (id, rest)) :
    ∃ value, 0 ≤ value ∧ readNumber (skipBlanks text) = .ok (.whole value, rest) := by
  simp only [stateId] at read
  split at read
  · cases read
  · next first tail blanks =>
    rw [blanks]
    split at read
    · split at read
      · cases read
      · next value behind numberRead =>
        split at read
        · next inside =>
          simp only [Except.ok.injEq, Prod.mk.injEq] at read
          obtain ⟨-, rfl⟩ := read
          exact ⟨value, inside.1, numberRead⟩
        · cases read
      · cases read
    · cases read

/-- A number is read as the identifier that it stands for, or not at all. -/
theorem IsNumber.stateId_run {characters text rest : List Char} (isNumber : IsNumber characters)
    (skipped : skipBlanks text = characters ++ rest) (ended : Ended rest) :
    (∀ id, numberId? characters = some id → stateId.run text = .ok (id, rest)) ∧
      (numberId? characters = none → ∃ fault, stateId.run text = .error fault) := by
  by_cases allDigits : AllDigits characters
  · have isWhole := isNumber.isWhole_of_allDigits allDigits
    rw [numberId?, if_pos allDigits.all]
    apply stateId_integer _ _ ended
    rw [skipped, ← Int.ofNat_eq_natCast, toList_ofNat, isWhole.toDigits_eq]
  · have noId : numberId? characters = none := by
      rw [numberId?, if_neg]
      exact fun all => allDigits (List.all_eq_true.mp all)
    refine ⟨fun id isId => absurd (noId.symm.trans isId) (by simp), fun _ => ?_⟩
    cases idRead : stateId.run text with
    | error fault => exact ⟨fault, rfl⟩
    | ok result =>
      obtain ⟨value, natural, numberRead⟩ := stateId_eq_ok idRead
      rw [skipped] at numberRead
      obtain ⟨⟨digits, sameText, isWhole⟩, ends⟩ := readNumber_eq_natural numberRead natural
      cases isNumber with
      | negative =>
        cases isWhole with
        | zero => simp at sameText
        | digits isDigit =>
          obtain ⟨rfl, -⟩ := List.cons.inj sameText
          exact absurd isDigit (by decide)
      | positive isUnsigned =>
        rw [isUnsigned.skipUnsigned_append ended] at ends
        obtain rfl := Except.ok.inj ends
        rw [List.append_cancel_right sameText] at allDigits
        exact absurd isWhole.allDigits allDigits

end BlockStates.Json
