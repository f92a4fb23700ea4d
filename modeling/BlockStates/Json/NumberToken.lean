import BlockStates.Json.Scan

/-!
# Numbers

A number of a JSON text.  `readNumber` gives its value: a whole number of 64
bits exactly, every other number as the product of its leading digits and a
power of ten, each rounded to binary.  `skipUnsigned` checks the grammar alone,
from behind the sign.
-/

set_option autoImplicit false

namespace BlockStates.Json

open Decimal (Binary64)

def digitValue (character : Char) : Nat :=
  character.toNat - 0x30

def leadingDigits (text : List Char) : List Nat :=
  (text.takeWhile Char.isDigit).map digitValue

def greatestWord : Nat := 18446744073709551615

/-- Appends digits to a number as long as it stays within 64 bits, and gives
the digits that were left over. -/
def appendDigits (significand : Nat) : List Nat → Nat × List Nat
  | [] => (significand, [])
  | digit :: later =>
    if significand * 10 + digit ≤ greatestWord then appendDigits (significand * 10 + digit) later
    else (significand, digit :: later)

def powerOfTen? (exponent : Nat) : Option Binary64 :=
  Binary64.ofNat? (Nat.pow 10 exponent)

/-- The greatest power of ten that is divided by or multiplied with at once. -/
def greatestPower : Nat := 308

def divideByPower (number : Binary64) (exponent : Nat) : Option Binary64 :=
  if exponent ≤ greatestPower then (powerOfTen? exponent).bind number.div?
  else if number.isZero then some number
  else
    ((powerOfTen? greatestPower).bind number.div?).bind fun smaller =>
      divideByPower smaller (exponent - greatestPower)
termination_by exponent
decreasing_by unfold greatestPower at *; omega

/-- The binary number for some leading digits and a power of ten, if it is not
too large. -/
def scaled? (significand : Nat) (exponent : Int) : Option Binary64 := do
  let number ← Binary64.ofNat? significand
  if exponent < 0 then divideByPower number exponent.natAbs
  else if exponent.natAbs ≤ greatestPower then powerOfTen? exponent.natAbs >>= number.mul?
  else if number.isZero then some number
  else none

def isExponentMark (character : Char) : Bool :=
  character == 'e' || character == 'E'

def greatestExponent : Nat := 2147483647

/-- What the digits of an exponent come to: its value and the text behind it,
or, if it is too large, the text behind the digit that makes it so. -/
inductive ExponentDigits where
  | value (exponent : Nat) (rest : List Char)
  | tooLarge (rest : List Char)

def readExponentDigits (exponent : Nat) : List Char → ExponentDigits
  | [] => .value exponent []
  | character :: rest =>
    if character.isDigit then
      if exponent * 10 + digitValue character ≤ greatestExponent then
        readExponentDigits (exponent * 10 + digitValue character) rest
      else .tooLarge rest
    else .value exponent (character :: rest)

/-- The text behind a sign at its front, and whether the sign is a minus. -/
def readSign : List Char → Bool × List Char
  | '+' :: rest => (false, rest)
  | '-' :: rest => (true, rest)
  | text => (false, text)

def finish (negative : Bool) (significand : Nat) (exponent : Int) (rest : List Char) :
    Except Fault (Number × List Char) :=
  match scaled? significand exponent with
  | some magnitude => .ok (.binary negative magnitude, rest)
  | none => .error (.before .numberOutOfRange rest)

def readExponent (negative : Bool) (significand : Nat) (exponent : Int) (text : List Char) :
    Except Fault (Number × List Char) :=
  match (readSign text).2 with
  | [] => .error (.atEnd .endInValue)
  | first :: rest =>
    if first.isDigit then
      match readExponentDigits (digitValue first) rest with
      | .value shift rest =>
        let exponent := if (readSign text).1 then exponent - shift else exponent + shift
        finish negative significand exponent rest
      | .tooLarge rest =>
        if significand ≠ 0 ∧ ¬(readSign text).1 then .error (.before .numberOutOfRange rest)
        else .ok (.binary negative ⟨0, 0⟩, skipDigits rest)
    else .error (.onFirst .invalidNumber (first :: rest))

def readScale (negative : Bool) (significand : Nat) (exponent : Int) :
    List Char → Except Fault (Number × List Char)
  | [] => finish negative significand exponent []
  | mark :: rest =>
    if isExponentMark mark then readExponent negative significand exponent rest
    else finish negative significand exponent (mark :: rest)

def readFraction (negative : Bool) (significand : Nat) (exponent : Int) (text : List Char) :
    Except Fault (Number × List Char) :=
  match text with
  | [] => .error (.atEnd .endInValue)
  | first :: _ =>
    if first.isDigit then
      let digits := leadingDigits text
      let (significand, leftOver) := appendDigits significand digits
      readScale negative significand (exponent - (digits.length - leftOver.length))
        (skipDigits text)
    else .error (.onFirst .invalidNumber text)

def greatestNegative : Nat := 9223372036854775808

/-- A whole number, if it is one of 64 bits and not a negative zero. -/
def wholeNumber? (negative : Bool) (significand : Nat) : Option Int :=
  if ¬negative then some significand
  else if significand = 0 ∨ greatestNegative < significand then none
  else some (-significand)

/-- A number without point and exponent.  `leftOver` counts the digits that did
not fit into 64 bits. -/
def finishWhole (negative : Bool) (significand leftOver : Nat) (rest : List Char) :
    Except Fault (Number × List Char) :=
  match leftOver, wholeNumber? negative significand with
  | 0, some value => .ok (.whole value, rest)
  | _, _ => finish negative significand leftOver rest

def readTail (negative : Bool) (significand leftOver : Nat) :
    List Char → Except Fault (Number × List Char)
  | [] => finishWhole negative significand leftOver []
  | mark :: rest =>
    if mark = '.' then readFraction negative significand leftOver rest
    else if isExponentMark mark then readExponent negative significand leftOver rest
    else finishWhole negative significand leftOver (mark :: rest)

def readUnsigned (negative : Bool) (text : List Char) : Except Fault (Number × List Char) :=
  match text with
  | [] => .error (.atEnd .endInValue)
  | first :: rest =>
    if first = '0' then
      match rest with
      | [] => readTail negative 0 0 []
      | next :: later =>
        if next.isDigit then .error (.onFirst .invalidNumber (next :: later))
        else readTail negative 0 0 (next :: later)
    else if first.isDigit then
      let (significand, leftOver) := appendDigits 0 (leadingDigits text)
      readTail negative significand leftOver.length (skipDigits text)
    else .error (.onFirst .invalidNumber text)

def readNumber : List Char → Except Fault (Number × List Char)
  | [] => readUnsigned false []
  | first :: rest =>
    if first = '-' then readUnsigned true rest else readUnsigned false (first :: rest)

theorem readSign_suffix (text : List Char) : (readSign text).2 <:+ text := by
  unfold readSign
  split
  · exact List.suffix_cons _ _
  · exact List.suffix_cons _ _
  · exact List.suffix_refl _

theorem finish_suffix {negative : Bool} {significand : Nat} {exponent : Int}
    {text rest : List Char} {number : Number}
    (success : finish negative significand exponent text = .ok (number, rest)) :
    rest <:+ text := by
  unfold finish at success
  split at success
  · cases success
    exact List.suffix_refl _
  · cases success

theorem finishWhole_suffix {negative : Bool} {significand leftOver : Nat}
    {text rest : List Char} {number : Number}
    (success : finishWhole negative significand leftOver text = .ok (number, rest)) :
    rest <:+ text := by
  unfold finishWhole at success
  split at success
  · cases success
    exact List.suffix_refl _
  · exact finish_suffix success

def ExponentDigits.rest : ExponentDigits → List Char
  | .value _ rest => rest
  | .tooLarge rest => rest

theorem readExponentDigits_suffix (exponent : Nat) (text : List Char) :
    (readExponentDigits exponent text).rest <:+ text := by
  induction text generalizing exponent with
  | nil => exact List.suffix_refl _
  | cons character tail tailSuffix =>
    unfold readExponentDigits
    split
    · split
      · exact (tailSuffix _).trans (List.suffix_cons _ _)
      · exact List.suffix_cons _ _
    · exact List.suffix_refl _

theorem readExponent_suffix {negative : Bool} {significand : Nat} {exponent : Int}
    {text rest : List Char} {number : Number}
    (success : readExponent negative significand exponent text = .ok (number, rest)) :
    rest <:+ text := by
  have signSuffix := readSign_suffix text
  unfold readExponent at success
  split at success
  · cases success
  · next first tail unsigned =>
    rw [unsigned] at signSuffix
    have tailSuffix : tail <:+ text := (List.suffix_cons _ _).trans signSuffix
    have digitsSuffix := (readExponentDigits_suffix (digitValue first) tail).trans tailSuffix
    split at success
    · split at success
      · next shift after digitsRead =>
        rw [digitsRead] at digitsSuffix
        exact (finish_suffix success).trans digitsSuffix
      · next after digitsRead =>
        rw [digitsRead] at digitsSuffix
        split at success
        · cases success
        · cases success
          exact (skipDigits_suffix _).trans digitsSuffix
    · cases success

theorem readScale_suffix {negative : Bool} {significand : Nat} {exponent : Int}
    {text rest : List Char} {number : Number}
    (success : readScale negative significand exponent text = .ok (number, rest)) :
    rest <:+ text := by
  unfold readScale at success
  split at success
  · exact finish_suffix success
  · split at success
    · exact (readExponent_suffix success).trans (List.suffix_cons _ _)
    · exact finish_suffix success

theorem readFraction_suffix {negative : Bool} {significand : Nat} {exponent : Int}
    {text rest : List Char} {number : Number}
    (success : readFraction negative significand exponent text = .ok (number, rest)) :
    rest <:+ text := by
  unfold readFraction at success
  split at success
  · cases success
  · split at success
    · exact (readScale_suffix success).trans (skipDigits_suffix _)
    · cases success

theorem readTail_suffix {negative : Bool} {significand leftOver : Nat}
    {text rest : List Char} {number : Number}
    (success : readTail negative significand leftOver text = .ok (number, rest)) :
    rest <:+ text := by
  unfold readTail at success
  split at success
  · exact finishWhole_suffix success
  · split at success
    · exact (readFraction_suffix success).trans (List.suffix_cons _ _)
    · split at success
      · exact (readExponent_suffix success).trans (List.suffix_cons _ _)
      · exact finishWhole_suffix success

theorem readUnsigned_suffix {negative : Bool} {text rest : List Char} {number : Number}
    (success : readUnsigned negative text = .ok (number, rest)) : rest <:+ text := by
  unfold readUnsigned at success
  split at success
  · cases success
  · split at success
    · split at success
      · exact (readTail_suffix success).trans (List.nil_suffix)
      · split at success
        · cases success
        · exact (readTail_suffix success).trans (List.suffix_cons _ _)
    · split at success
      · exact (readTail_suffix success).trans (skipDigits_suffix _)
      · cases success

theorem readNumber_suffix {text rest : List Char} {number : Number}
    (success : readNumber text = .ok (number, rest)) : rest <:+ text := by
  unfold readNumber at success
  split at success
  · exact readUnsigned_suffix success
  · split at success
    · exact (readUnsigned_suffix success).trans (List.suffix_cons _ _)
    · exact readUnsigned_suffix success

def skipExponent (text : List Char) : Except Fault (List Char) :=
  match (readSign text).2 with
  | [] => .error (.atEnd .invalidNumber)
  | first :: rest =>
    if first.isDigit then .ok (skipDigits rest)
    else .error (.onFirst .invalidNumber (first :: rest))

def skipScale : List Char → Except Fault (List Char)
  | [] => .ok []
  | mark :: rest => if isExponentMark mark then skipExponent rest else .ok (mark :: rest)

def skipFraction : List Char → Except Fault (List Char)
  | [] => .error (.atEnd .invalidNumber)
  | first :: rest =>
    if first.isDigit then skipScale (skipDigits rest)
    else .error (.onFirst .invalidNumber (first :: rest))

def skipTail : List Char → Except Fault (List Char)
  | [] => .ok []
  | mark :: rest =>
    if mark = '.' then skipFraction rest else skipScale (mark :: rest)

def skipUnsigned : List Char → Except Fault (List Char)
  | [] => .error (.atEnd .invalidNumber)
  | first :: rest =>
    if first = '0' then
      match rest with
      | [] => .ok []
      | next :: later =>
        if next.isDigit then .error (.onFirst .invalidNumber (next :: later))
        else skipTail (next :: later)
    else if first.isDigit then skipTail (skipDigits rest)
    else .error (.onFirst .invalidNumber (first :: rest))

theorem skipExponent_suffix {text rest : List Char} (success : skipExponent text = .ok rest) :
    rest <:+ text := by
  have signSuffix := readSign_suffix text
  unfold skipExponent at success
  split at success
  · cases success
  · next first tail unsigned =>
    rw [unsigned] at signSuffix
    split at success
    · cases success
      exact ((skipDigits_suffix _).trans (List.suffix_cons _ _)).trans signSuffix
    · cases success

theorem skipScale_suffix {text rest : List Char} (success : skipScale text = .ok rest) :
    rest <:+ text := by
  unfold skipScale at success
  split at success
  · cases success
    exact List.suffix_refl _
  · split at success
    · exact (skipExponent_suffix success).trans (List.suffix_cons _ _)
    · cases success
      exact List.suffix_refl _

theorem skipFraction_suffix {text rest : List Char} (success : skipFraction text = .ok rest) :
    rest <:+ text := by
  unfold skipFraction at success
  split at success
  · cases success
  · split at success
    · exact ((skipScale_suffix success).trans (skipDigits_suffix _)).trans (List.suffix_cons _ _)
    · cases success

theorem skipTail_suffix {text rest : List Char} (success : skipTail text = .ok rest) :
    rest <:+ text := by
  unfold skipTail at success
  split at success
  · cases success
    exact List.suffix_refl _
  · split at success
    · exact (skipFraction_suffix success).trans (List.suffix_cons _ _)
    · exact skipScale_suffix success

theorem skipUnsigned_suffix {text rest : List Char} (success : skipUnsigned text = .ok rest) :
    rest <:+ text := by
  unfold skipUnsigned at success
  split at success
  · cases success
  · split at success
    · split at success
      · cases success
        exact List.nil_suffix
      · split at success
        · cases success
        · exact (skipTail_suffix success).trans (List.suffix_cons _ _)
    · split at success
      · exact ((skipTail_suffix success).trans (skipDigits_suffix _)).trans (List.suffix_cons _ _)
      · cases success

end BlockStates.Json
