import Phrasebook.Json.Basic
import Phrasebook.Decimal.Style

/-! Data written as JSON text, on one line or with one item a line. -/

namespace Phrasebook

/-- The text of a number: whole numbers plainly, others so that they are read as such again. -/
def Number.render : Number → String
  | .whole n => toString n
  | .real x => Decimal.Style.data.render x

namespace Json

/-- Two lower-case hexadecimal digits. -/
def twoDigits (n : Nat) : List Char :=
  [Nat.digitChar (n / 16 % 16), Nat.digitChar (n % 16)]

/-- How one character stands in a string: quotes, backslashes and control characters are escaped. -/
def escapeChar (c : Char) : List Char :=
  if c = '"' ∨ c = '\\' then ['\\', c]
  else if c = '\n' then ['\\', 'n']
  else if c = '\r' then ['\\', 'r']
  else if c = '\t' then ['\\', 't']
  else if c = '\x08' then ['\\', 'b']
  else if c = '\x0c' then ['\\', 'f']
  else if c.toNat < 32 then ['\\', 'u', '0', '0'] ++ twoDigits c.toNat
  else [c]

/-- A text between quotes. -/
def renderText (s : String) : String :=
  String.ofList ('"' :: s.toList.flatMap escapeChar ++ ['"'])

mutual

/-- The text of data without any space in it. -/
def render : Json → String
  | .null => "null"
  | .bool flag => if flag then "true" else "false"
  | .number value => value.render
  | .text value => renderText value
  | .array items => "[" ++ ",".intercalate (renderItems items) ++ "]"
  | .object members => "\x7b" ++ ",".intercalate (renderMembers members) ++ "\x7d"

/-- The texts of the items of an array. -/
def renderItems : List Json → List String
  | [] => []
  | item :: rest => item.render :: renderItems rest

/-- The texts of the members of an object, each with its name in front. -/
def renderMembers : List (String × Json) → List String
  | [] => []
  | (name, value) :: rest => (renderText name ++ ":" ++ value.render) :: renderMembers rest

end

/-- Lines between two brackets, each behind two spaces more than the brackets; nothing between the
brackets if there are no lines. -/
def bracketed (opening closing : String) (depth : Nat) (lines : List String) : String :=
  if lines.isEmpty then opening ++ closing
  else
    let margin := "".pushn ' ' (2 * depth)
    opening ++ "\n" ++ ",\n".intercalate (lines.map fun line => margin ++ "  " ++ line) ++
      "\n" ++ margin ++ closing

mutual

/-- The text of data with one item or member a line, behind two spaces for each level it lies deep. -/
def renderLines (depth : Nat) : Json → String
  | .null => "null"
  | .bool flag => if flag then "true" else "false"
  | .number value => value.render
  | .text value => renderText value
  | .array items => bracketed "[" "]" depth (renderItemLines (depth + 1) items)
  | .object members => bracketed "\x7b" "\x7d" depth (renderMemberLines (depth + 1) members)

/-- The texts of the items of an array, one a line. -/
def renderItemLines (depth : Nat) : List Json → List String
  | [] => []
  | item :: rest => item.renderLines depth :: renderItemLines depth rest

/-- The texts of the members of an object, one a line. -/
def renderMemberLines (depth : Nat) : List (String × Json) → List String
  | [] => []
  | (name, value) :: rest =>
    (renderText name ++ ": " ++ value.renderLines depth) :: renderMemberLines depth rest

end

end Json

end Phrasebook
