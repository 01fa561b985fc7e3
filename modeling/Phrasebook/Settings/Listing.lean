import Phrasebook.Json.Printer
import Phrasebook.Settings.Json

/-! Values by name as lines, in a form that YAML and TOML share. The libraries for these languages choose other forms
for many values; this one stands in for theirs where settings are to be written and no library is at hand. -/

namespace Phrasebook.Settings

/-- The last hexadecimal digits of a number, in lower case. -/
def hexDigits : Nat → Nat → List Char
  | 0, _ => []
  | count + 1, n => hexDigits count (n / 16) ++ [Nat.digitChar (n % 16)]

/-- Whether a character is written as it is: it is visible, belongs to ASCII, and means nothing special
between quotes. Blanks are not, as a reader may fold them. -/
def isPlain (c : Char) : Bool :=
  '!' ≤ c && c ≤ '~' && c != '"' && c != '\\'

/-- How a character stands between quotes in both languages: by itself, or by its number. -/
def portableChar (c : Char) : List Char :=
  if isPlain c then [c] else ['\\', 'U'] ++ hexDigits 8 c.toNat

/-- A text between quotes. -/
def portableText (s : String) : String :=
  String.ofList ('"' :: s.toList.flatMap portableChar ++ ['"'])

/-- The value of an option, which is no object. -/
def portableValue : Json → String
  | .text text => portableText text
  | .array items =>
    let texts := items.map fun item => portableText ((jsonText? item).getD "")
    "[" ++ ", ".intercalate texts ++ "]"
  | other => other.render

/-- The options a line each, with a separator behind each name. -/
def listing (separator : String) (members : List (String × Json)) : String :=
  String.join (members.map fun (name, value) => name ++ separator ++ portableValue value ++ "\n")

end Phrasebook.Settings
