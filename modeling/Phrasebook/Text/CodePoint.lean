import Phrasebook.Decimal.Reading

/-! Characters named by their numbers. -/

namespace Phrasebook.Text

/-- The character that a count of hexadecimal digits stands for, and what follows them. -/
def codePoint? (count : Nat) (s : List Char) : Option (Char × List Char) := do
  if s.length < count then none
  let n ← Decimal.natural? 16 (s.take count)
  if (0xd800 ≤ n ∧ n ≤ 0xdfff) ∨ 0x10ffff < n then none
  else some (Char.ofNat n, s.drop count)

end Phrasebook.Text
