import Phrasebook.Text.Split

/-! A place in YAML text, and the classes of characters that its rules speak of. -/

namespace Phrasebook.Yaml

/-- Whether a character ends a line. -/
def isBreak (c : Char) : Bool :=
  c == '\n' || c == '\r' || c == '\x85' || c == '\u2028' || c == '\u2029'

/-- Whether a character is a blank within a line. -/
def isBlank (c : Char) : Bool :=
  c == ' ' || c == '\t'

/-- Whether a character is a blank or ends a line. -/
def isGap (c : Char) : Bool :=
  isBlank c || isBreak c

/-- Whether a character may stand in the name of an anchor, a directive or a tag handle. -/
def isNameChar (c : Char) : Bool :=
  ('0' ≤ c && c ≤ '9') || ('A' ≤ c && c ≤ 'Z') || ('a' ≤ c && c ≤ 'z') || c == '_' || c == '-'

/-- Whether a character may stand in a text as it is. -/
def isAllowed (c : Char) : Bool :=
  c == '\t' || c == '\n' || c == '\r' || (' ' ≤ c && c ≤ '~') || c == '\x85' ||
    (0xa0 ≤ c.toNat && c.toNat != 0xfffe && c.toNat != 0xffff)

/-- The mark that may stand at the start of a text or of a line. -/
def byteOrderMark : Char :=
  '\ufeff'

/-- Whether a word cannot go on at the front of a text: at its end, at a blank or at the end of a line. -/
def endsWord : List Char → Bool
  | [] => true
  | c :: _ => isGap c

/-- A place in a text: what follows it, how many characters stand before it, and its line and column,
both counted from zero. -/
structure Cursor where
  rest : List Char
  index : Nat := 0
  line : Nat := 0
  column : Nat := 0

namespace Cursor

/-- The place some characters farther on the same line. -/
def advance (cursor : Cursor) (count : Nat) : Cursor :=
  { cursor with
    rest := cursor.rest.drop count
    index := cursor.index + count
    column := cursor.column + count }

/-- The place where less is left on the same line. -/
def moveTo (cursor : Cursor) (rest : List Char) : Cursor :=
  cursor.advance (cursor.rest.length - rest.length)

/-- The place behind the characters of a line that have a property. -/
def skipWhile (cursor : Cursor) (p : Char → Bool) : Cursor :=
  cursor.advance (cursor.rest.takeWhile fun c => p c && ! isBreak c).length

/-- The place at the end of the line. -/
def skipLine (cursor : Cursor) : Cursor :=
  cursor.skipWhile fun _ => true

/-- The place at the end of the line if a comment starts here. -/
def skipComment (cursor : Cursor) : Cursor :=
  if cursor.rest.head? = some '#' then cursor.skipLine else cursor

/-- The next line if this one ends here, with the text that its end stands for. Two of the ends stand for
themselves, and all others for a line feed. -/
def nextLine? (cursor : Cursor) : Option (List Char × Cursor) :=
  match cursor.rest with
  | '\r' :: '\n' :: rest =>
    some (['\n'], { rest, index := cursor.index + 2, line := cursor.line + 1, column := 0 })
  | c :: rest =>
    if isBreak c then
      let text := if c = '\u2028' ∨ c = '\u2029' then c else '\n'
      some ([text], { rest, index := cursor.index + 1, line := cursor.line + 1, column := 0 })
    else none
  | [] => none

/-- Whether a line starts here with a mark and nothing more in its first word. -/
def atMark (cursor : Cursor) (mark : String) : Bool :=
  cursor.column == 0 &&
    match Text.stripPrefix? mark.toList cursor.rest with
    | some rest => endsWord rest
    | none => false

/-- Whether a line starts here that ends or begins a document. -/
def atDocumentMark (cursor : Cursor) : Bool :=
  cursor.atMark "---" || cursor.atMark "..."

end Cursor

/-- What stands between two words of a text: blanks, or line ends with blanks around them. -/
structure Gap where
  /-- The blanks before the first line end. -/
  blanks : List Char := []
  /-- What the first line end stands for. -/
  first : List Char := []
  /-- What the other line ends stand for. -/
  others : List Char := []
  broken : Bool := false

namespace Gap

/-- The gap with one more blank, which is dropped behind a line end. -/
def addBlank (gap : Gap) (c : Char) : Gap :=
  if gap.broken then gap else { gap with blanks := gap.blanks ++ [c] }

/-- The gap with one more line end, before which blanks are dropped. -/
def addBreak (gap : Gap) (text : List Char) : Gap :=
  if gap.broken then { gap with others := gap.others ++ text }
  else { gap with first := text, broken := true }

/-- The text that a gap stands for. A single line end becomes a blank, and of several the first one is
dropped. -/
def text (gap : Gap) : List Char :=
  if ! gap.broken then gap.blanks
  else if gap.first = ['\n'] then (if gap.others.isEmpty then [' '] else gap.others)
  else gap.first ++ gap.others

/-- Reading a gap on to its end. A tab in the indentation of a line, before the given column, is an error. -/
def readFrom (indent : Nat) : Nat → Gap → Cursor → Option (Gap × Cursor)
  | 0, _, _ => none
  | fuel + 1, gap, cursor =>
    match cursor.nextLine? with
    | some (text, next) => readFrom indent fuel (gap.addBreak text) next
    | none =>
      match cursor.rest with
      | [] => some (gap, cursor)
      | c :: _ =>
        if ! isBlank c then some (gap, cursor)
        else if gap.broken ∧ c = '\t' ∧ cursor.column < indent then none
        else readFrom indent fuel (gap.addBlank c) (cursor.advance 1)

/-- Reading a gap on to its end, as far as the text goes. -/
def read (indent : Nat) (gap : Gap) (cursor : Cursor) : Option (Gap × Cursor) :=
  readFrom indent (cursor.rest.length + 1) gap cursor

end Gap

end Phrasebook.Yaml
