import Phrasebook.Json.Basic
import Phrasebook.Decimal.Reading

/-! Data read from JSON text. -/

namespace Phrasebook.Json

/-- What may stand between the parts of a text. -/
def isGap (c : Char) : Bool :=
  c == ' ' || c == '\n' || c == '\t' || c == '\r'

/-- The text from its first significant character on. -/
def skipGap (s : List Char) : List Char :=
  s.dropWhile isGap

/-- The number that four hexadecimal digits at the front of a text stand for, and what follows them. -/
def fourDigits? : List Char → Option (Nat × List Char)
  | a :: b :: c :: d :: rest => (Decimal.natural? 16 [a, b, c, d]).map fun n => (n, rest)
  | _ => none

/-- The character an escape stands for, read behind its backslash. A character beyond the first plane
is written as two escapes; one half of such a pair stands for nothing by itself. -/
def escape? : List Char → Option (Char × List Char)
  | '"' :: rest => some ('"', rest)
  | '\\' :: rest => some ('\\', rest)
  | '/' :: rest => some ('/', rest)
  | 'b' :: rest => some ('\x08', rest)
  | 'f' :: rest => some ('\x0c', rest)
  | 'n' :: rest => some ('\n', rest)
  | 'r' :: rest => some ('\r', rest)
  | 't' :: rest => some ('\t', rest)
  | 'u' :: digits => do
    let (first, rest) ← fourDigits? digits
    if 0xdc00 ≤ first ∧ first ≤ 0xdfff then none
    else if 0xd800 ≤ first ∧ first ≤ 0xdbff then
      match rest with
      | '\\' :: 'u' :: more =>
        let (second, rest) ← fourDigits? more
        if 0xdc00 ≤ second ∧ second ≤ 0xdfff then
          some (Char.ofNat (0x10000 + (first - 0xd800) * 0x400 + (second - 0xdc00)), rest)
        else none
      | _ => none
    else some (Char.ofNat first, rest)
  | _ => none

/-- The text of a string read behind its opening quote, and what follows the closing one. The text so
far is held in reverse. -/
def stringBody? : Nat → List Char → List Char → Option (String × List Char)
  | 0, _, _ => none
  | _ + 1, _, [] => none
  | fuel + 1, held, c :: rest =>
    if c = '"' then some (String.ofList held.reverse, rest)
    else if c = '\\' then do
      let (escaped, rest) ← escape? rest
      stringBody? fuel (escaped :: held) rest
    else if c.toNat < 32 then none
    else stringBody? fuel (c :: held) rest

/-- A string read behind its opening quote. -/
def string? (s : List Char) : Option (String × List Char) :=
  stringBody? (s.length + 1) [] s

/-- The digits that a word of sixty-four bits can still take in behind the ones it holds, and how many
these are. -/
def fillWord (word taken : Nat) : List Char → Nat × Nat
  | [] => (word, taken)
  | c :: rest =>
    match Decimal.digit? c with
    | none => (word, taken)
    | some d => if word * 10 + d < UInt64.size then fillWord (word * 10 + d) (taken + 1) rest else (word, taken)

/-- A number divided by `10 ^ power`, in steps of `10 ^ 308` as long as the power is greater. -/
def shrink (x : Float) (power : Nat) : Float :=
  if power ≤ 308 then x / Float.ofScientific 1 false power
  else if x == 0 then x
  else shrink (x / Float.ofScientific 1 false 308) (power - 308)
termination_by power

/-- The word times `10 ^ power` in floating-point arithmetic; nothing if that is out of range. -/
def scale? (word : Nat) (power : Int) : Option Float :=
  let x := (UInt64.ofNat word).toFloat
  if power < 0 then some (shrink x power.natAbs)
  else if power ≤ 308 then
    let product := x * Float.ofScientific 1 false power.natAbs
    if product.isInf then none else some product
  else if x == 0 then some x
  else none

/-- The exponent behind a number, zero if there is none: an optional sign and digits. -/
def exponent? : List Char → Option (Int × List Char)
  | [] => some (0, [])
  | c :: rest =>
    if c = 'e' ∨ c = 'E' then
      let (negative, rest) := match rest with
        | '+' :: rest => (false, rest)
        | '-' :: rest => (true, rest)
        | _ => (false, rest)
      let (digits, rest) := Decimal.spanDigits rest
      (Decimal.natural? 10 digits).map fun n => (if negative then -(n : Int) else n, rest)
    else some (0, c :: rest)

/-- A number from its parts. Without fraction and exponent it stays whole if it fits sixty-four bits,
with the exception of a negative zero; otherwise the leading digits that fit are scaled. -/
def number? (negative : Bool) (whole : List Char) (fraction : Option (List Char)) (power : Option Int) :
    Option Number :=
  let (word, taken) := fillWord 0 0 whole
  let exact := taken = whole.length
  match fraction, power, decide exact, negative with
  | none, none, true, false => some (.whole word)
  | none, none, true, true =>
    if word ≠ 0 ∧ word ≤ Nat.pow 2 63 then some (.whole (-(word : Int)))
    else some (.real (-(UInt64.ofNat word).toFloat))
  | _, _, _, _ =>
    let (word, behind) := fillWord word 0 (fraction.getD [])
    let places : Int := (whole.length - taken : Nat) - (behind : Int) + power.getD 0
    (scale? word places).map fun x => .real (if negative then -x else x)

/-- A number at the front of a text, and what follows it. Zeros do not lead other digits. -/
def numberAt? (s : List Char) : Option (Number × List Char) := do
  let (negative, s) := match s with
    | '-' :: rest => (true, rest)
    | _ => (false, s)
  let (whole, rest) := Decimal.spanDigits s
  if whole.isEmpty then none
  let (whole, rest) := match whole with
    | '0' :: more => (['0'], more ++ rest)
    | _ => (whole, rest)
  let (fraction, rest) ← match rest with
    | '.' :: more =>
      let (digits, rest) := Decimal.spanDigits more
      if digits.isEmpty then none else some (some digits, rest)
    | _ => some (none, rest)
  let (power, rest) ← match rest with
    | 'e' :: _ | 'E' :: _ => (exponent? rest).map fun (power, rest) => (some power, rest)
    | _ => some (none, rest)
  let value ← number? negative whole fraction power
  return (value, rest)

/-- The items of an array behind its opening bracket, read with the given reader for one of them. -/
def items? (item? : List Char → Option (Json × List Char)) :
    Nat → List Json → List Char → Option (List Json × List Char)
  | 0, _, _ => none
  | fuel + 1, held, s => do
    let (item, rest) ← item? s
    match skipGap rest with
    | ',' :: rest => items? item? fuel (item :: held) rest
    | ']' :: rest => some ((item :: held).reverse, rest)
    | _ => none

/-- The members of an object behind its opening brace, read with the given reader for their values. -/
def members? (value? : List Char → Option (Json × List Char)) :
    Nat → List (String × Json) → List Char → Option (List (String × Json) × List Char)
  | 0, _, _ => none
  | fuel + 1, held, s => do
    let '"' :: s := skipGap s | none
    let (name, rest) ← string? s
    let ':' :: rest := skipGap rest | none
    let (value, rest) ← value? rest
    match skipGap rest with
    | ',' :: rest => members? value? fuel ((name, value) :: held) rest
    | '\x7d' :: rest => some (((name, value) :: held).reverse, rest)
    | _ => none

/-- What follows a word at the front of a text. -/
def word? (word : List Char) (value : Json) (s : List Char) : Option (Json × List Char) :=
  if word.isPrefixOf s then some (value, s.drop word.length) else none

/-- A value at the front of a text in which arrays and objects lie at most `depth` deep, and what
follows it. -/
def value? : Nat → List Char → Option (Json × List Char)
  | depth, s =>
    match skipGap s with
    | '"' :: rest => (string? rest).map fun (body, rest) => (.text body, rest)
    | 'n' :: rest => word? "ull".toList .null rest
    | 't' :: rest => word? "rue".toList (.bool true) rest
    | 'f' :: rest => word? "alse".toList (.bool false) rest
    | '[' :: rest =>
      match depth with
      | 0 => none
      | depth + 1 =>
        match skipGap rest with
        | ']' :: rest => some (.array [], rest)
        | _ => (items? (value? depth) (rest.length + 1) [] rest).map fun (items, rest) =>
          (.array items, rest)
    | '\x7b' :: rest =>
      match depth with
      | 0 => none
      | depth + 1 =>
        match skipGap rest with
        | '\x7d' :: rest => some (.object [], rest)
        | _ => (members? (value? depth) (rest.length + 1) [] rest).map fun (members, rest) =>
          (.object members, rest)
    | rest => (numberAt? rest).map fun (value, rest) => (.number value, rest)

/-- How deep arrays and objects may lie in each other. -/
def depthLimit : Nat := 127

/-- The data of a whole text with the members of objects as they were written. -/
def readMembers? (s : String) : Option Json := do
  let (value, rest) ← value? depthLimit s.toList
  if (skipGap rest).isEmpty then some value else none

/-- The data of a whole text. -/
def read? (s : String) : Option Json :=
  (readMembers? s).map canonical

end Phrasebook.Json
