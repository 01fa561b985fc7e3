import Phrasebook.Resource.Error
import Phrasebook.Text.Blank

/-! A plain format: lines with a key and a text on the two sides of an equals sign. -/

namespace Phrasebook.Resource

/-- The lines of a text. A line ends at a line feed, before which a carriage return is dropped; nothing
behind the last line feed is no line. -/
def linesOf (s : List Char) : List (List Char) :=
  let cut := Text.splitOn ['\n'] s
  let closed := cut.dropLast.map fun line =>
    if line.getLast? = some '\r' then line.dropLast else line
  let unclosed := cut.getLast?.getD []
  if unclosed.isEmpty then closed else closed ++ [unclosed]

/-- The section and the name that a key stands for: before a slash stands the name of the section, which
is `en` for a key without one. -/
def sectionOf (key : List Char) : String × String :=
  match Text.breakOn? ['/'] key with
  | some (space, name) => (String.ofList space, String.ofList name)
  | none => ("en", String.ofList key)

/-- Sections with the text of one line put in. A line without an equals sign is passed over. -/
def addLine (sections : Dict (Dict Json)) (line : List Char) : Dict (Dict Json) :=
  match Text.breakOn? ['='] line with
  | none => sections
  | some (key, text) =>
    let (space, name) := sectionOf (Text.trim key)
    let held := (sections.get? space).getD .empty
    sections.insert space (held.insert name (.text (String.ofList (Text.trim text))))

/-- The data of a text in lines. A text that starts with an exclamation mark states an error, and one
that starts with a number sign is itself the data. -/
def readLines (content : String) : Except LoadError Json :=
  let trimmed := String.ofList (Text.trim content.toList)
  match content.toList with
  | '!' :: _ => .error (.invalidData "lines" (.stated trimmed))
  | '#' :: _ => .ok (.text trimmed)
  | chars => .ok (.ofDict (((linesOf chars).foldl addLine .empty).map .ofDict))

end Phrasebook.Resource
