import Phrasebook.Decimal.Reading
import Phrasebook.Yaml.Token

/-! Reading anchors, aliases, tags and directives. -/

namespace Phrasebook.Yaml

/-! ### Anchors and aliases -/

/-- Whether the name of an anchor may end here. -/
def endsName : List Char → Bool
  | [] => true
  | c :: _ => isGap c || ['?', ':', ',', ']', '\x7d', '%', '@', '\x60'].contains c

/-- The name behind the indicator of an anchor or an alias. -/
def anchorName? (cursor : Cursor) : Option (List Char × Cursor) :=
  let rest := cursor.rest.drop 1
  let name := rest.takeWhile isNameChar
  if name.isEmpty ∨ ! endsName (rest.drop name.length) then none
  else some (name, cursor.advance (1 + name.length))

/-! ### Tags -/

/-- Whether a character may stand in a tag. Those that are punctuation of flow collections may only if
the tag is enclosed. -/
def isTagChar (enclosed : Bool) (c : Char) : Bool :=
  isNameChar c ||
    [';', '/', '?', ':', '@', '&', '=', '+', '$', '.', '!', '~', '*', '\'', '(', ')'].contains c ||
    (enclosed && (c == ',' || c == '[' || c == ']'))

/-- The number of octets that follow the first one of a character. -/
def followers? (octet : Nat) : Option Nat :=
  if octet < 0x80 then some 0
  else if octet < 0xc0 then none
  else if octet < 0xe0 then some 1
  else if octet < 0xf0 then some 2
  else if octet < 0xf8 then some 3
  else none

/-- The characters of a tag and what follows them, when some octets of a character are still to come.
An octet written as an escape stands for itself. -/
def tagChars? (enclosed : Bool) : Nat → List Char → Option (List Char × List Char)
  | due, '%' :: a :: b :: rest => do
    let octet ← Decimal.natural? 16 [a, b]
    let due ← if due = 0 then followers? octet
      else if 0x80 ≤ octet ∧ octet < 0xc0 then some (due - 1)
      else none
    let (text, rest) ← tagChars? enclosed due rest
    return (Char.ofNat octet :: text, rest)
  | 0, c :: rest =>
    if c = '%' then none
    else if isTagChar enclosed c then
      (tagChars? enclosed 0 rest).map fun (text, rest) => (c :: text, rest)
    else some ([], c :: rest)
  | 0, [] => some ([], [])
  | _ + 1, _ => none

/-- A handle, from its exclamation mark on, and what follows it. -/
def handle? : List Char → Option (List Char × List Char)
  | '!' :: rest =>
    let name := rest.takeWhile isNameChar
    match rest.drop name.length with
    | '!' :: after => some ('!' :: name ++ ['!'], after)
    | after => some ('!' :: name, after)
  | _ => none

/-- Whether a handle is closed by a second exclamation mark. -/
def isClosed (handle : List Char) : Bool :=
  2 ≤ handle.length && handle.getLast? == some '!'

/-- The handle and the suffix of a tag, and what follows them. Without a closed handle what was read is
the start of the suffix; a single exclamation mark is all suffix. -/
def tagParts? (s : List Char) : Option (List Char × List Char × List Char) :=
  match s with
  | '!' :: '<' :: rest => do
    let (suffix, rest) ← tagChars? true 0 rest
    match rest with
    | '>' :: rest => if suffix.isEmpty then none else some ([], suffix, rest)
    | _ => none
  | _ => do
    let (handle, rest) ← handle? s
    let (text, rest) ← tagChars? false 0 rest
    if isClosed handle then (if text.isEmpty then none else some (handle, text, rest))
    else
      let suffix := handle.drop 1 ++ text
      some (if suffix.isEmpty then ([], ['!'], rest) else (['!'], suffix, rest))

/-- A tag, behind which its word ends. -/
def tag? (inFlow : Bool) (cursor : Cursor) : Option (Token × Cursor) := do
  let (handle, suffix, rest) ← tagParts? cursor.rest
  if endsWord rest ∨ (inFlow ∧ rest.head? = some ',') then
    some (.tag handle suffix, cursor.moveTo rest)
  else none

/-! ### Directives -/

/-- A number of at most nine digits, and what follows it. -/
def versionNumber? (s : List Char) : Option (Nat × List Char) :=
  let (digits, rest) := Decimal.spanDigits s
  if 9 < digits.length then none else (Decimal.natural? 10 digits).map fun n => (n, rest)

/-- The version that a directive tells. -/
def versionDirective? (s : List Char) : Option (Token × List Char) := do
  let (major, rest) ← versionNumber? (s.dropWhile isBlank)
  let '.' :: rest := rest | none
  let (minor, rest) ← versionNumber? rest
  return (.versionDirective major minor, rest)

/-- The handle that a directive gives a meaning, and what tags with the handle begin with. -/
def tagDirective? (s : List Char) : Option (Token × List Char) := do
  let (handle, rest) ← handle? (s.dropWhile isBlank)
  if ! (isClosed handle ∨ handle = ['!']) then none
  if ! rest.head?.any isBlank then none
  let (lead, rest) ← tagChars? true 0 (rest.dropWhile isBlank)
  if lead.isEmpty ∨ ! endsWord rest then none
  return (.tagDirective handle lead, rest)

/-- A directive, which takes a line. Those for versions and for tags are the only ones. -/
def directive? (cursor : Cursor) : Option (Token × Cursor) := do
  let rest := cursor.rest.drop 1
  let name := rest.takeWhile isNameChar
  let rest := rest.drop name.length
  if ! endsWord rest then none
  let (token, rest) ←
    if name = "YAML".toList then versionDirective? rest
    else if name = "TAG".toList then tagDirective? rest
    else none
  let cursor := ((cursor.moveTo rest).skipWhile isBlank).skipComment
  match cursor.nextLine? with
  | some (_, next) => return (token, next)
  | none => if cursor.rest.isEmpty then return (token, cursor) else none

end Phrasebook.Yaml
