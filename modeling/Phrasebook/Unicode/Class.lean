import Phrasebook.Unicode.Alphabetic
import Phrasebook.Unicode.Mark
import Phrasebook.Unicode.Number
import Phrasebook.Unicode.Extender
import Phrasebook.Unicode.Hidden

/-! The character classes that names, delimiters, trimming and quoting are defined by. -/

namespace Phrasebook.Unicode

/-- Letters and letter-like characters of every script. -/
def isAlphabetic (c : Char) : Bool :=
  inRanges c.toNat alphabeticRanges

/-- Letters and numerals of every script. -/
def isAlphanumeric (c : Char) : Bool :=
  isAlphabetic c || inRanges c.toNat numberRanges

/-- Punctuation that connects words: the low line and its relatives. -/
def isConnector (c : Char) : Bool :=
  inRanges c.toNat
    [(0x5f, 0x5f), (0x203f, 0x2040), (0x2054, 0x2054), (0xfe33, 0xfe34), (0xfe4d, 0xfe4f), (0xff3f, 0xff3f)]

/-- The zero-width characters that ask for or forbid a ligature inside a word. -/
def isJoiner (c : Char) : Bool :=
  c == '\u200c' || c == '\u200d'

/-- The characters a name is made of: letters, marks, decimal digits, connectors and joiners. -/
def isWord (c : Char) : Bool :=
  isAlphabetic c || inRanges c.toNat markRanges || inRanges c.toNat decimalRanges ||
    isConnector c || isJoiner c

/-- White space, as trimming understands it. -/
def isBlank (c : Char) : Bool :=
  inRanges c.toNat
    [(0x9, 0xd), (0x20, 0x20), (0x85, 0x85), (0xa0, 0xa0), (0x1680, 0x1680), (0x2000, 0x200a),
     (0x2028, 0x2029), (0x202f, 0x202f), (0x205f, 0x205f), (0x3000, 0x3000)]

/-- Characters that attach to the one before them. -/
def isExtender (c : Char) : Bool :=
  inRanges c.toNat extenderRanges

/-- Characters a reader could not see in a message; the plain space counts as visible. -/
def isHidden (c : Char) : Bool :=
  c != ' ' && inRanges c.toNat hiddenRanges

end Phrasebook.Unicode
