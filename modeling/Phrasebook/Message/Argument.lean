import Phrasebook.Decimal.Reading
import Phrasebook.Decimal.Style
import Phrasebook.Json.Basic

/-! Arguments that a caller passes for the placeholders of a message. -/

namespace Phrasebook

/-- The value of an argument. Whole numbers are those of sixty-four bits with a sign. -/
inductive Argument where
  | flag (value : Bool)
  | whole (value : Int)
  | real (value : Float)
  | text (value : String)

namespace Argument

/-- The text an argument is shown as. -/
def display : Argument → String
  | .flag value => if value then "true" else "false"
  | .whole value => toString value
  | .real value => Decimal.Style.plain.render value
  | .text value => value

/-- The nearest whole number of sixty-four bits with a sign. -/
def clamp (n : Int) : Int :=
  max (-(Nat.pow 2 63 : Int)) (min n ((Nat.pow 2 63 : Int) - 1))

/-- The whole number an argument stands for: of a flag zero or one, of a number its value if it has no
fraction, brought into range, and of a text the number it spells between blanks. -/
def whole? : Argument → Option Int
  | .flag value => some (if value then 1 else 0)
  | .whole value => some value
  | .real value => (Decimal.Binary.ofFloat value).whole?.map clamp
  | .text value => Decimal.signed64? (Text.trim value.toList)

/-- An argument from data that is a flag, a number or a text. -/
def ofJson? : Json → Option Argument
  | .bool value => some (.flag value)
  | .number (.whole n) =>
    if Decimal.fitsSigned n then some (.whole n) else some (.real (UInt64.ofNat n.toNat).toFloat)
  | .number (.real x) => some (.real x)
  | .text value => some (.text value)
  | _ => none

end Argument

/-- Arguments by name. -/
abbrev Arguments := Dict Argument

/-- The name of the argument that selects plural forms. -/
def countName : String := "count"

end Phrasebook
