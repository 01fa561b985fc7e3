import Phrasebook.Settings.Listing
import Phrasebook.Toml.Document

/-! Settings in TOML text. -/

namespace Phrasebook.Settings

/-- The text that a value is. -/
def tomlText? : Toml.Value → Option String
  | .text text => some text
  | _ => none

/-- Whether a value is a collection that holds nothing. -/
def isEmptyToml : Toml.Value → Bool
  | .array items => items.isEmpty
  | .table _ entries => entries.isEmpty
  | _ => false

/-- How TOML holds the values of options. There is always a value where a key is written. A mode is a
text, or the only key of a table, with nothing in its value. -/
def tomlSource : Source Toml.Value where
  text? := tomlText?
  optional? value := (tomlText? value).map some
  texts?
    | .array items => items.mapM tomlText?
    | _ => none
  count?
    | .whole n => if 0 ≤ n ∧ n < UInt32.size then some n.toNat else none
    | _ => none
  flag?
    | .flag flag => some flag
    | _ => none
  mode?
    | .text name => modeOfName? name
    | .table _ [(name, value)] => if isEmptyToml value then modeOfName? name else none
    | _ => none

/-- TOML, which cannot say that an option is nothing: such an option is left out. -/
def tomlCodec : Codec where
  source := tomlSource
  contents? content := (Toml.read? content).map .members
  write members := .ok (listing " = " (members.filter isStated))

end Phrasebook.Settings
