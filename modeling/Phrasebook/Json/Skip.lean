import Phrasebook.Json.Reader
import Phrasebook.Text.Split

/-! Passing over a value without reading it. Numbers may be out of range, escapes may stand for half a
character, and nothing limits the depth. -/

namespace Phrasebook.Json

/-- What follows a string, from behind its opening quote. -/
def skipString? : Nat → List Char → Option (List Char)
  | 0, _ => none
  | _ + 1, [] => none
  | _ + 1, '"' :: rest => some rest
  | fuel + 1, '\\' :: 'u' :: rest => (fourDigits? rest).bind fun found => skipString? fuel found.2
  | fuel + 1, '\\' :: rest => (escape? rest).bind fun found => skipString? fuel found.2
  | fuel + 1, c :: rest => if c.toNat < 32 then none else skipString? fuel rest

/-- What follows a number, from its first character on. -/
def skipNumber? (s : List Char) : Option (List Char) := do
  let s := if s.head? = some '-' then s.drop 1 else s
  let (whole, rest) := Decimal.spanDigits s
  if whole.isEmpty ∨ (whole.head? = some '0' ∧ 1 < whole.length) then none
  let rest ← match rest with
    | '.' :: more =>
      let (digits, rest) := Decimal.spanDigits more
      if digits.isEmpty then none else some rest
    | _ => some rest
  (exponent? rest).map Prod.snd

mutual

/-- What follows a value. -/
def skip? : Nat → List Char → Option (List Char)
  | 0, _ => none
  | fuel + 1, s =>
    match skipGap s with
    | '"' :: rest => skipString? (rest.length + 1) rest
    | 'n' :: rest => Text.stripPrefix? "ull".toList rest
    | 't' :: rest => Text.stripPrefix? "rue".toList rest
    | 'f' :: rest => Text.stripPrefix? "alse".toList rest
    | '[' :: rest =>
      match skipGap rest with
      | ']' :: rest => some rest
      | rest => skipItems? fuel rest
    | '\x7b' :: rest =>
      match skipGap rest with
      | '\x7d' :: rest => some rest
      | rest => skipMembers? fuel rest
    | rest => skipNumber? rest

/-- What follows an array, from its first item on. -/
def skipItems? : Nat → List Char → Option (List Char)
  | 0, _ => none
  | fuel + 1, s => do
    match skipGap (← skip? fuel s) with
    | ',' :: rest => skipItems? fuel rest
    | ']' :: rest => some rest
    | _ => none

/-- What follows an object, from its first member on. -/
def skipMembers? : Nat → List Char → Option (List Char)
  | 0, _ => none
  | fuel + 1, s => do
    let '"' :: rest := skipGap s | none
    let ':' :: rest := skipGap (← skipString? (rest.length + 1) rest) | none
    match skipGap (← skip? fuel rest) with
    | ',' :: rest => skipMembers? fuel rest
    | '\x7d' :: rest => some rest
    | _ => none

end

end Phrasebook.Json
