/-! The fewest decimal digits that read back as a given binary floating-point value. -/

namespace Phrasebook.Decimal

/-- A positive value and the ends of the interval of numbers that round to it, all over one denominator. -/
structure Interval where
  low : Nat
  value : Nat
  high : Nat
  denominator : Nat
  /-- Whether the two ends themselves round to the value. -/
  closed : Bool
deriving Repr

/-- The numbers that round to `mantissa * 2 ^ exponent`. Half the gap to each neighbour belongs to it;
below a power of two the gap is half as wide, unless that neighbour is as far away as the other one. -/
def Interval.around (mantissa : Nat) (exponent : Int) : Interval :=
  let scale := Nat.pow 2 exponent.toNat
  let below := if mantissa = Nat.pow 2 52 ∧ exponent > -1074 then 1 else 2
  { low := (4 * mantissa - below) * scale
    value := 4 * mantissa * scale
    high := (4 * mantissa + 2) * scale
    denominator := 4 * Nat.pow 2 (-exponent).toNat
    closed := mantissa % 2 == 0 }

/-- Which of two equally near decimals is taken. -/
inductive Tie where
  | up
  | even
deriving DecidableEq, Repr

/-- Whether the fraction rounds to the value. -/
def Interval.holds (i : Interval) (numerator denominator : Nat) : Bool :=
  let low := i.low * denominator
  let middle := numerator * i.denominator
  let high := i.high * denominator
  if i.closed then low ≤ middle && middle ≤ high else low < middle && middle < high

/-- The power of ten of the leading digit of a positive fraction, found by counting. -/
def leadingPower (numerator denominator : Nat) : Int :=
  if denominator ≤ numerator then ((Nat.toDigits 10 (numerator / denominator)).length : Int) - 1
  else firstPower 400 1 where
  /-- The number of places the point moves until the fraction reaches one. -/
  firstPower : Nat → Nat → Int
  | 0, places => -(places : Int)
  | fuel + 1, places =>
    if denominator ≤ numerator * Nat.pow 10 places then -(places : Int) else firstPower fuel (places + 1)

/-- The one of the two neighbours of the value on the grid of multiples of `10 ^ power` that rounds to
the value, the nearer one if both do. -/
def Interval.onGrid? (i : Interval) (tie : Tie) (power : Int) : Option Nat :=
  let step := Nat.pow 10 power.toNat
  let part := Nat.pow 10 (-power).toNat
  -- The value divided by the grid step, as a fraction.
  let numerator := i.value * part
  let denominator := i.denominator * step
  let down := numerator / denominator
  let remainder := numerator % denominator
  let fits (n : Nat) : Bool := i.holds (n * step) part
  match fits down, fits (down + 1) with
  | false, false => none
  | true, false => some down
  | false, true => some (down + 1)
  | true, true =>
    if 2 * remainder < denominator then some down
    else if 2 * remainder > denominator then some (down + 1)
    else match tie with
      | .up => some (down + 1)
      | .even => some (if down % 2 = 0 then down else down + 1)

/-- Digits without zeros at their end, and the power of ten of the last one. -/
def dropZeros (digits : Nat) (power : Int) : Nat × Int :=
  if h : digits ≠ 0 ∧ digits % 10 = 0 then dropZeros (digits / 10) (power + 1) else (digits, power)
termination_by digits
decreasing_by omega

/-- The coarsest grid with a point that rounds to the value, tried from one digit to seventeen, which
always suffice: the point's digits and the power of ten of the last one. -/
def Interval.shortest (i : Interval) (tie : Tie) : Nat × Int :=
  let leading := leadingPower i.value i.denominator
  let grids := (List.range 17).map fun (places : Nat) => leading - (places : Int)
  match grids.findSome? fun power => (i.onGrid? tie power).map fun digits => (digits, power) with
  | some (digits, power) => dropZeros digits power
  | none => (0, 0)

end Phrasebook.Decimal
