import Phrasebook.Unicode.Class

/-! White space around a text. -/

namespace Phrasebook.Text

/-- The text without the white space at its two ends. -/
def trim (s : List Char) : List Char :=
  ((s.dropWhile Unicode.isBlank).reverse.dropWhile Unicode.isBlank).reverse

end Phrasebook.Text
