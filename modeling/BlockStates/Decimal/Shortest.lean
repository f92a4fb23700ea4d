import BlockStates.Decimal.Binary64

/-!
# Shortest decimals

The decimal with the fewest digits that reads back as a given binary number,
and of those with equally few the nearest one.  A decimal reads back when it
lies in the interval of numbers that round to the binary number: half way to
each neighbour, both ends included when the mantissa is even.
-/

set_option autoImplicit false

namespace BlockStates.Decimal

/-- The number `d.ddd * 10 ^ exponent` with the given digits. -/
structure Scientific where
  digits : List Char
  exponent : Int
  deriving DecidableEq, Repr

/-- The exponent of the greatest power of ten not above a positive fraction. -/
def floorLog10 (numerator denominator : Nat) : Int :=
  if denominator ≤ numerator then
    ((Nat.toDigits 10 (numerator / denominator)).length : Int) - 1
  else
    -((Nat.toDigits 10 ((denominator - 1) / numerator)).length : Int)

/-- A grid of decimals laid over a binary number.  The number, the ends of its
interval and the distance of two decimals are given in one common unit. -/
structure Grid where
  value : Nat
  lower : Nat
  upper : Nat
  step : Nat
  closed : Bool

def Grid.ofExponent (number : Binary64) (exponent : Int) : Grid :=
  let quarter := number.exponent - 2
  let unit := Nat.pow 2 quarter.toNat * Nat.pow 10 (-exponent).toNat
  let below :=
    if number.mantissa = Binary64.leastNormal ∧ Binary64.leastExponent < number.exponent then 1
    else 2
  { value := 4 * number.mantissa * unit
    lower := (4 * number.mantissa - below) * unit
    upper := (4 * number.mantissa + 2) * unit
    step := Nat.pow 10 exponent.toNat * Nat.pow 2 (-quarter).toNat
    closed := number.mantissa % 2 == 0 }

/-- Whether the `count`th decimal of the grid reads back. -/
def Grid.admits (grid : Grid) (count : Nat) : Bool :=
  let decimal := count * grid.step
  if grid.closed then grid.lower ≤ decimal && decimal ≤ grid.upper
  else grid.lower < decimal && decimal < grid.upper

/-- The decimal of the grid that reads back, if there is one; of two, the
nearer one, and the even one if both are equally near. -/
def Grid.choice? (grid : Grid) : Option Nat :=
  let below := grid.value / grid.step
  let above := below + 1
  match grid.admits below, grid.admits above with
  | false, false => none
  | true, false => some below
  | false, true => some above
  | true, true =>
    let toBelow := grid.value - below * grid.step
    let toAbove := above * grid.step - grid.value
    if toBelow < toAbove then some below
    else if toAbove < toBelow then some above
    else if below % 2 = 0 then some below
    else some above

/-- The whole number `count` times `10 ^ exponent`, without zeros at its end. -/
def Scientific.ofGrid (count : Nat) (exponent : Int) : Scientific :=
  let digits := Nat.toDigits 10 count
  { digits := (digits.reverse.dropWhile (· == '0')).reverse
    exponent := exponent + (digits.length : Int) - 1 }

/-- Tries the grids with one digit, two digits and so on; `remaining` more
digits are allowed. -/
def shortestFrom (number : Binary64) (leading : Int) (digits : Nat) : Nat → Scientific
  | 0 =>
    let exponent := leading - digits
    let grid := Grid.ofExponent number exponent
    Scientific.ofGrid (grid.value / grid.step) exponent
  | remaining + 1 =>
    let exponent := leading - digits
    match (Grid.ofExponent number exponent).choice? with
    | some count => Scientific.ofGrid count exponent
    | none => shortestFrom number leading (digits + 1) remaining

def shortest (number : Binary64) : Scientific :=
  if number.isZero then ⟨['0'], 0⟩
  else
    let fraction := Binary64.shiftDown number.mantissa 1 (-number.exponent)
    shortestFrom number (floorLog10 fraction.1 fraction.2) 0 17

end BlockStates.Decimal
