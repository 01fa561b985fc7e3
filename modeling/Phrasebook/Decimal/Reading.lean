import Phrasebook.Text.Blank

/-! Numbers read from text: whole numbers within bounds, and decimals with a fraction or an exponent. -/

namespace Phrasebook.Decimal

/-- The value of an ASCII digit. -/
def digit? (c : Char) : Option Nat :=
  if '0' ≤ c ∧ c ≤ '9' then some (c.toNat - '0'.toNat) else none

/-- The value of a digit of a base up to sixteen, in either case of the letters. -/
def digitIn? (base : Nat) (c : Char) : Option Nat :=
  let value :=
    if '0' ≤ c ∧ c ≤ '9' then some (c.toNat - '0'.toNat)
    else if 'a' ≤ c ∧ c ≤ 'f' then some (c.toNat - 'a'.toNat + 10)
    else if 'A' ≤ c ∧ c ≤ 'F' then some (c.toNat - 'A'.toNat + 10)
    else none
  value.filter (· < base)

/-- The number written by the digits alone; there is at least one. -/
def natural? (base : Nat) (s : List Char) : Option Nat :=
  if s.isEmpty then none
  else s.foldlM (fun n c => (digitIn? base c).map (n * base + ·)) 0

/-- A whole number with an optional sign. -/
def integer? : List Char → Option Int
  | '+' :: digits => (natural? 10 digits).map Int.ofNat
  | '-' :: digits => (natural? 10 digits).map fun n => -Int.ofNat n
  | digits => (natural? 10 digits).map Int.ofNat

/-- Whether a whole number fits the sixty-four bit range with a sign. -/
def fitsSigned (n : Int) : Bool :=
  -(Nat.pow 2 63 : Int) ≤ n && n < (Nat.pow 2 63 : Int)

/-- A whole number of the sixty-four bit range with a sign. -/
def signed64? (s : List Char) : Option Int :=
  (integer? s).filter fitsSigned

/-- A whole number below `2 ^ 32`. A minus sign is not read, not even before a zero. -/
def unsigned32? (s : List Char) : Option Nat :=
  let digits := match s with
    | '+' :: rest => rest
    | _ => s
  (natural? 10 digits).filter (· < UInt32.size)

/-- The digits at the front of a text, and what follows them. -/
def spanDigits (s : List Char) : List Char × List Char :=
  s.span fun c => (digit? c).isSome

/-- The exponent part of a decimal, from its letter on; without one the exponent is zero. -/
def exponent? : List Char → Option Int
  | [] => some 0
  | c :: rest => if c = 'e' ∨ c = 'E' then integer? rest else none

/-- The nearest floating-point number to `digits * 10 ^ power`. -/
def nearest (digits : Nat) (power : Int) : Float :=
  -- Beyond these powers the digits cannot bring the value back between the least and the greatest number.
  let size : Int := (Nat.toDigits 10 digits).length
  if digits = 0 ∨ power + size < -400 then 0
  else if power + size > 400 then Float.ofScientific 1 false 400
  else if power < 0 then Float.ofScientific digits true power.natAbs
  else Float.ofScientific digits false power.natAbs

/-- A decimal without a sign: digits with at most one point, then an optional exponent. At least one
digit stands before or behind the point. -/
def unsignedDecimal? (s : List Char) : Option Float := do
  let (whole, rest) := spanDigits s
  let (fraction, tail) := match rest with
    | '.' :: after => spanDigits after
    | _ => ([], rest)
  let digits ← natural? 10 (whole ++ fraction)
  let exponent ← exponent? tail
  return nearest digits (exponent - fraction.length)

/-- The ASCII capital letters of a text in lower case. -/
def lowerAscii (s : List Char) : List Char :=
  s.map fun c => if 'A' ≤ c ∧ c ≤ 'Z' then Char.ofNat (c.toNat + 32) else c

/-- A decimal or the name of an infinity or of no number, in any case, with an optional sign. -/
def decimal? (s : List Char) : Option Float :=
  match s with
  | '-' :: rest => (size? rest).map (-·)
  | '+' :: rest => size? rest
  | _ => size? s
where
  /-- The part behind the sign. -/
  size? (s : List Char) : Option Float :=
    let name := lowerAscii s
    if name = "inf".toList ∨ name = "infinity".toList then some (1 / 0)
    else if name = "nan".toList then some (0 / 0)
    else unsignedDecimal? s

end Phrasebook.Decimal
