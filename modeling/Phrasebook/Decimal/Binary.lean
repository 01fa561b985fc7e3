/-! Floating-point numbers taken apart into sign, whole mantissa and power of two. -/

namespace Phrasebook.Decimal

/-- What a double-precision number stands for: no number, an infinity, or `mantissa * 2 ^ exponent`
with a sign that zero has too. -/
inductive Binary where
  | nan
  | infinite (negative : Bool)
  | finite (negative : Bool) (mantissa : Nat) (exponent : Int)
deriving DecidableEq, Repr

/-- Reading the sixty-four bits of a number: one for the sign, eleven for the exponent, the rest for
the mantissa, whose leading bit is left out unless the number is subnormal. -/
def Binary.ofBits (bits : Nat) : Binary :=
  let negative := decide (bits / Nat.pow 2 63 % 2 = 1)
  let power : Nat := bits / Nat.pow 2 52 % 2048
  let fraction : Nat := bits % Nat.pow 2 52
  if power = 2047 then
    if fraction = 0 then .infinite negative else .nan
  else if power = 0 then .finite negative fraction (-1074)
  else .finite negative (Nat.pow 2 52 + fraction) ((power : Int) - 1075)

/-- The parts of a floating-point number. -/
def Binary.ofFloat (x : Float) : Binary :=
  .ofBits x.toBits.toNat

/-- The whole number a finite value is equal to, if it has no fractional part. -/
def Binary.whole? : Binary → Option Int
  | .finite negative mantissa exponent =>
    let numerator := mantissa * Nat.pow 2 exponent.toNat
    let denominator := Nat.pow 2 (-exponent).toNat
    let size : Int := (numerator / denominator : Nat)
    if numerator % denominator = 0 then some (if negative then -size else size)
    else none
  | _ => none

end Phrasebook.Decimal
