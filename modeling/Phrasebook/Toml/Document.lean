import Phrasebook.Text.Split
import Phrasebook.Toml.Scalar
import Phrasebook.Toml.Value

/-! The table that TOML text stands for. -/

namespace Phrasebook.Toml

/-- How deep values may lie in each other, and how many parts a key may have. -/
def depthLimit : Nat := 79

/-- Whether a character may stand in a key without quotes. -/
def isBareKey (c : Char) : Bool :=
  ('A' ≤ c && c ≤ 'Z') || ('a' ≤ c && c ≤ 'z') || ('0' ≤ c && c ≤ '9') || c == '-' || c == '_'

/-- A part of a key: in quotes or bare. -/
def keyPart? (s : List Char) : Option (String × List Char) :=
  if s.head? = some '"' ∨ s.head? = some '\'' then
    (quoted? s).map fun (text, rest) => (String.ofList text, rest)
  else
    let bare := s.takeWhile isBareKey
    if bare.isEmpty then none else some (String.ofList bare, s.drop bare.length)

/-- The parts of a key with dots between them, and what follows the blanks behind it. -/
def keyParts? : Nat → List Char → Option (List String × List Char)
  | 0, _ => none
  | fuel + 1, s => do
    let (part, rest) ← keyPart? (skipBlanks s)
    match skipBlanks rest with
    | '.' :: more =>
      let (parts, rest) ← keyParts? fuel more
      return (part :: parts, rest)
    | rest => return ([part], rest)

/-- A key: the parts before the last one, the last one, and what follows. -/
def key? (s : List Char) : Option (List String × String × List Char) := do
  let (parts, rest) ← keyParts? depthLimit s
  let last ← parts.getLast?
  return (parts.dropLast, last, rest)

/-- A key with its value, which the given reader reads behind the equals sign. -/
def pair? (value? : List Char → Option (Value × List Char)) (s : List Char) :
    Option ((List String × String × Value) × List Char) := do
  let (path, name, rest) ← key? s
  let '=' :: rest := rest | none
  let (value, rest) ← value? (skipBlanks rest)
  return ((path, name, value), rest)

/-- The items of an array behind its opening bracket. A comma may stand behind the last one. -/
def items? (value? : List Char → Option (Value × List Char)) :
    Nat → List Value → List Char → Option (List Value × List Char)
  | 0, _, _ => none
  | fuel + 1, held, s =>
    match skipLines (s.length + 1) s with
    | ']' :: rest => some (held.reverse, rest)
    | s => do
      let (item, rest) ← value? s
      match skipLines (rest.length + 1) rest with
      | ',' :: rest => items? value? fuel (item :: held) rest
      | ']' :: rest => some ((item :: held).reverse, rest)
      | _ => none

/-- The entries of an inline table behind its first brace, which holds at least one. -/
def inlineEntries? (value? : List Char → Option (Value × List Char)) :
    Nat → Entries → List Char → Option (Entries × List Char)
  | 0, _, _ => none
  | fuel + 1, entries, s => do
    let ((path, name, value), rest) ← pair? value? s
    let entries ← assign path name value .inline entries
    match skipBlanks rest with
    | ',' :: rest => inlineEntries? value? fuel entries rest
    | '\x7d' :: rest => some (entries, rest)
    | _ => none

/-- What follows a word at the front of a text. -/
def word? (word : String) (value : Value) (s : List Char) : Option (Value × List Char) :=
  (Text.stripPrefix? word.toList s).map fun rest => (value, rest)

/-- A time, a decimal or a whole number. The first of these that can be read is. -/
def number? (s : List Char) : Option (Value × List Char) :=
  match (timeRest? s).orElse fun _ => (decimalRest? s).orElse fun _ => namedRest? s with
  | some rest => some (.other, rest)
  | none => (whole? s).map fun (n, rest) => (.whole n, rest)

/-- A value at the front of a text, in which others lie at most `depth` deep, and what follows it. -/
def value? : Nat → List Char → Option (Value × List Char)
  | depth, s =>
    match s with
    | '[' :: rest =>
      match depth with
      | 0 => none
      | depth + 1 => (items? (value? depth) (rest.length + 1) [] rest).map fun (items, rest) =>
        (.array items, rest)
    | '\x7b' :: rest =>
      match depth with
      | 0 => none
      | depth + 1 =>
        match skipBlanks rest with
        | '\x7d' :: rest => some (.table .inline [], rest)
        | rest => (inlineEntries? (value? depth) (rest.length + 1) [] rest).map fun (entries, rest) =>
          (.table .inline entries, rest)
    | 't' :: _ => word? "true" (.flag true) s
    | 'f' :: _ => word? "false" (.flag false) s
    | c :: _ =>
      if c = '"' ∨ c = '\'' then (text? s).map fun (text, rest) => (.text (String.ofList text), rest)
      else number? s
    | [] => none

/-- A table in the making, and the path of the table that entries go into. -/
structure Draft where
  root : Entries := []
  path : List String := []

namespace Draft

/-- The draft with an entry in the present table. -/
def assign (draft : Draft) (path : List String) (name : String) (value : Value) : Option Draft :=
  (descend false (Toml.assign path name value) draft.path .stated draft.root).map fun root =>
    { draft with root }

/-- The draft with a table started. -/
def startTable (draft : Draft) (path : List String) (name : String) : Option Draft :=
  (Toml.startTable path name draft.root).map fun root => { root, path := path ++ [name] }

/-- The draft with one more of the tables that share a header. -/
def startElement (draft : Draft) (path : List String) (name : String) : Option Draft :=
  (Toml.startElement path name draft.root).map fun root => { root, path := path ++ [name] }

end Draft

/-- Reading one line after the other. -/
def lines? : Nat → Draft → List Char → Option Entries
  | 0, _, _ => none
  | fuel + 1, draft, s =>
    match lineEnd? s, skipBlanks s with
    | some _, [] => some draft.root
    | some rest, _ => lines? fuel draft rest
    | none, '[' :: '[' :: rest => do
      let (path, name, rest) ← key? rest
      let ']' :: ']' :: rest := rest | none
      lines? fuel (← draft.startElement path name) (← lineEnd? rest)
    | none, '[' :: rest => do
      let (path, name, rest) ← key? rest
      let ']' :: rest := rest | none
      lines? fuel (← draft.startTable path name) (← lineEnd? rest)
    | none, s => do
      let ((path, name, value), rest) ← pair? (value? depthLimit) s
      lines? fuel (← draft.assign path name value) (← lineEnd? rest)

/-- The table that a text stands for. A mark at its start is no part of it. -/
def read? (content : String) : Option Entries :=
  let text := match content.toList with
    | c :: rest => if c = '\ufeff' then rest else c :: rest
    | [] => []
  lines? (text.length + 1) {} text

end Phrasebook.Toml
