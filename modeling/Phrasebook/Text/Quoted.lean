import Phrasebook.Unicode.Class

/-! Text quoted for a message: between double quotes, with what a reader could not see written as an escape. -/

namespace Phrasebook.Text

/-- A number in lower-case hexadecimal digits, without leading zeros. -/
def hexadecimal (n : Nat) : List Char :=
  Nat.toDigits 16 n

/-- How one character stands inside quotes. Quotes and backslashes are escaped, line breaks and tabs
have their letters, and characters that are hidden or attach to the one before are named by number. -/
def quoteChar (c : Char) : List Char :=
  if c = '"' || c = '\\' then ['\\', c]
  else if c = '\n' then ['\\', 'n']
  else if c = '\r' then ['\\', 'r']
  else if c = '\t' then ['\\', 't']
  else if c = '\x00' then ['\\', '0']
  else if Unicode.isExtender c || Unicode.isHidden c then
    ['\\', 'u', '\x7b'] ++ hexadecimal c.toNat ++ ['\x7d']
  else [c]

/-- The text between double quotes. -/
def quoted (s : String) : String :=
  String.ofList ('"' :: s.toList.flatMap quoteChar ++ ['"'])

end Phrasebook.Text
