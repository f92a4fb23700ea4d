/-!
# Binary floating-point numbers

Finite, non-negative numbers of the 64-bit binary format, in exact arithmetic:
a mantissa below 2⁵³ times a power of two not below 2⁻¹⁰⁷⁴.  Every operation
computes the exact quotient and rounds it once, to the nearest number of the
format and to the even mantissa when two are equally near.
-/

set_option autoImplicit false

namespace BlockStates.Decimal

/-- The number `mantissa * 2 ^ exponent`. -/
structure Binary64 where
  mantissa : Nat
  exponent : Int
  deriving DecidableEq, Repr

namespace Binary64

/-- The least mantissa of a number that keeps all its digits, `2 ^ 52`. -/
def leastNormal : Nat := 4503599627370496

def leastExponent : Int := -1074

def greatestExponent : Int := 971

/-- The whole number nearest to a quotient; a half goes to the even neighbour. -/
def roundHalfEven (numerator denominator : Nat) : Nat :=
  let quotient := numerator / denominator
  let doubled := 2 * (numerator % denominator)
  if doubled < denominator then quotient
  else if denominator < doubled then quotient + 1
  else if quotient % 2 = 0 then quotient
  else quotient + 1

/-- The quotient of a fraction and a power of two, as a fraction. -/
def shiftDown (numerator denominator : Nat) (exponent : Int) : Nat × Nat :=
  if 0 ≤ exponent then (numerator, denominator * Nat.pow 2 exponent.toNat)
  else (numerator * Nat.pow 2 (-exponent).toNat, denominator)

/-- The exponent of the greatest power of two not above a positive fraction. -/
def floorLog2 (numerator denominator : Nat) : Int :=
  let guess : Int := (numerator.log2 : Int) - denominator.log2
  let shifted := shiftDown numerator denominator guess
  if shifted.2 ≤ shifted.1 then guess else guess - 1

/-- The number of the format nearest to a fraction, if the fraction does not
round beyond the largest one. -/
def nearest (numerator denominator : Nat) : Option Binary64 :=
  if numerator = 0 then some ⟨0, 0⟩
  else
    let exponent := max (floorLog2 numerator denominator - 52) leastExponent
    let shifted := shiftDown numerator denominator exponent
    let mantissa := roundHalfEven shifted.1 shifted.2
    let rounded : Binary64 :=
      if mantissa = 2 * leastNormal then ⟨leastNormal, exponent + 1⟩
      else ⟨mantissa, exponent⟩
    if greatestExponent < rounded.exponent then none else some rounded

def isZero (number : Binary64) : Bool :=
  number.mantissa == 0

def ofNat? (whole : Nat) : Option Binary64 :=
  nearest whole 1

def mul? (left right : Binary64) : Option Binary64 :=
  let shifted :=
    shiftDown (left.mantissa * right.mantissa) 1 (-(left.exponent + right.exponent))
  nearest shifted.1 shifted.2

def div? (left right : Binary64) : Option Binary64 :=
  let shifted := shiftDown left.mantissa right.mantissa (right.exponent - left.exponent)
  nearest shifted.1 shifted.2

end Binary64

end BlockStates.Decimal
