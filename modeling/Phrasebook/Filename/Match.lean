import Phrasebook.Filename.Template

/-! Reading the values of the fields back from a file name. -/

namespace Phrasebook.Filename

/-- The values found for the fields of a template, in the order of their occurrences, or nothing if the
name does not match. A field takes as many word characters as the rest of the template leaves it, and
at least one. -/
def fieldValues? : List Piece → List Char → Option (List (Field × List Char))
  | [], s => if s.isEmpty then some [] else none
  | .literal text :: rest, s => (Text.stripPrefix? text s).bind (fieldValues? rest)
  | .field field :: rest, s =>
    let run := s.takeWhile Unicode.isWord
    -- The longest value is tried first.
    (List.range run.length).reverse.findSome? fun before =>
      (fieldValues? rest (s.drop (before + 1))).map ((field, s.take (before + 1)) :: ·)

/-- The values of the three fields, as far as a template has them. -/
structure Captures where
  space : Option String
  locale : Option String
  format : Option String
deriving DecidableEq, Repr

/-- The values of the fields in a file name that matches the template as a whole; of a field that
occurs more than once, the value at its first occurrence. -/
def Format.captures? (format : Format) (name : String) : Option Captures :=
  (fieldValues? format.pieces name.toList).map fun values =>
    let value (field : Field) : Option String :=
      (values.find? fun entry => entry.1 = field).map fun entry => String.ofList entry.2
    { space := value .space, locale := value .locale, format := value .format }

end Phrasebook.Filename
