import Phrasebook.Settings.Basic

/-! The three delimiters that the grammar of templates is made of. -/

namespace Phrasebook

/-- The delimiters: one introduces placeholders, one separates the segments of names, one separates the
arguments of calls. -/
structure Grammar where
  placeholder : List Char
  space : List Char
  argument : List Char
deriving DecidableEq, Repr

namespace Grammar

/-- The grammar that settings ask for. -/
def ofSettings (settings : Settings) : Grammar :=
  { placeholder := settings.placeholderDelimiter.toList
    space := settings.namespaceDelimiter.toList
    argument := settings.argumentDelimiter.toList }

/-- Whether settings ask for this grammar. -/
def suits (grammar : Grammar) (settings : Settings) : Bool :=
  grammar == ofSettings settings

end Grammar

end Phrasebook
