import Phrasebook.Decimal.Binary
import Phrasebook.Decimal.Shortest

/-! How a floating-point number is written: its shortest digits, with the point or the power of ten that
its style asks for. -/

namespace Phrasebook.Decimal

/-- The decisions of a style. -/
structure Style where
  /-- Of two equally near decimals, the one written. -/
  tie : Tie
  /-- The powers of ten of the leading digit for which the number is written without an exponent; none
  means all of them. -/
  positional : Option (Int × Int)
  /-- Whether a whole number is written with a zero behind the point. -/
  wholePoint : Bool

/-- Digits with the point moved to where the power of ten of the last digit puts it. -/
def positionalText (wholePoint : Bool) (digits : List Char) (power : Int) : List Char :=
  if 0 ≤ power then
    digits ++ List.replicate power.toNat '0' ++ (if wholePoint then ['.', '0'] else [])
  else
    let places := (-power).toNat
    if places < digits.length then
      digits.take (digits.length - places) ++ '.' :: digits.drop (digits.length - places)
    else
      ['0', '.'] ++ List.replicate (places - digits.length) '0' ++ digits

/-- Digits with the point behind the first one, and the power of ten of that digit with its sign. -/
def exponentText (digits : List Char) (leading : Int) : List Char :=
  let head := digits.take 1
  let tail := digits.drop 1
  let sign := if leading < 0 then '-' else '+'
  head ++ (if tail.isEmpty then [] else '.' :: tail) ++ ['e', sign] ++ Nat.toDigits 10 leading.natAbs

/-- The text of a number in a style. -/
def Style.render (style : Style) (x : Float) : String :=
  match Binary.ofFloat x with
  | .nan => "NaN"
  | .infinite negative => if negative then "-inf" else "inf"
  | .finite negative mantissa exponent =>
    let (digits, power) :=
      if mantissa = 0 then (0, 0) else (Interval.around mantissa exponent).shortest style.tie
    let text := Nat.toDigits 10 digits
    let leading := power + text.length - 1
    let positional := match style.positional with
      | none => true
      | some (least, most) => least ≤ leading && leading ≤ most
    let body := if positional then positionalText style.wholePoint text power else exponentText text leading
    String.ofList (if negative then '-' :: body else body)

/-- Arguments are shown in full: never an exponent, and no point in a whole number. -/
def Style.plain : Style :=
  { tie := .up, positional := none, wholePoint := false }

/-- Data is written with a point or an exponent, so that it is read as a floating-point number again;
the exponent takes over from `1e+16` on and below `1e-5`. -/
def Style.data : Style :=
  { tie := .even, positional := some (-5, 15), wholePoint := true }

end Phrasebook.Decimal
