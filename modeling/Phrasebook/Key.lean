import Phrasebook.Text.Split

/-! Keys name messages by a path of segments; all segments but the last are the namespace of the key. -/

namespace Phrasebook.Key

/-- The segments of a key, which is never without one. -/
def segments (key delimiter : String) : List String :=
  (Text.splitOn delimiter.toList key.toList).map String.ofList

/-- A key below a namespace. The root namespace is the empty text and adds nothing. -/
def join (space key delimiter : String) : String :=
  if space.isEmpty then key else space ++ delimiter ++ key

/-- What stands before the last delimiter of a key; nothing for a key at the root. -/
def namespaceOf (key delimiter : String) : String :=
  match Text.breakOnLast? delimiter.toList key.toList with
  | some (space, _) => String.ofList space
  | none => ""

/-- A key without the delimiters in front of it, if there is at least one. -/
def stripLeading? (key delimiter : String) : Option String :=
  if delimiter.isEmpty then none
  else (Text.stripPrefix? delimiter.toList key.toList).map fun rest =>
    String.ofList (Text.dropRepeats delimiter.toList rest)

/-- Segments written one after the other with the delimiter between them. -/
def ofSegments (path : List String) (delimiter : String) : String :=
  delimiter.intercalate path

end Phrasebook.Key
