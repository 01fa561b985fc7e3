import Phrasebook.Text.CodePoint
import Phrasebook.Yaml.Token

/-! Reading scalars: plain ones, quoted ones and those in blocks of lines. -/

namespace Phrasebook.Yaml

/-! ### Plain scalars -/

/-- Whether a character that is punctuation in flow collections ends a plain scalar there. -/
def isFlowMark (c : Char) : Bool :=
  c == ',' || c == '[' || c == ']' || c == '\x7b' || c == '\x7d'

/-- The characters of a plain scalar up to a gap or to punctuation. In flow collections a colon may not
stand right before other punctuation. -/
def plainRun (inFlow : Bool) : List Char → Option (List Char)
  | [] => some []
  | c :: rest =>
    if isGap c then some []
    else if inFlow ∧ c = ':' ∧ rest.head?.any (fun next => isFlowMark next || next == '?') then none
    else if (c = ':' ∧ endsWord rest) ∨ (inFlow ∧ isFlowMark c) then some []
    else (plainRun inFlow rest).map (c :: ·)

/-- Reading on in a plain scalar, with its text in reverse and the gap before the next word. The answer
tells whether the scalar ended on a later line than its last word. -/
def plainFrom (inFlow : Bool) (indent : Nat) :
    Nat → List Char → Gap → Cursor → Option (List Char × Bool × Cursor)
  | 0, _, _, _ => none
  | fuel + 1, held, gap, cursor =>
    let finished := some (held.reverse, gap.broken, cursor)
    if cursor.atDocumentMark ∨ cursor.rest.head? = some '#' then finished
    else do
      let run ← plainRun inFlow cursor.rest
      if run.isEmpty then finished
      else
        let held := run.reverse ++ gap.text.reverse ++ held
        let (gap, cursor) ← Gap.read indent {} (cursor.advance run.length)
        let ended := gap.blanks.isEmpty ∧ ! gap.broken
        if ended ∨ (! inFlow ∧ cursor.column < indent) then some (held.reverse, gap.broken, cursor)
        else plainFrom inFlow indent fuel held gap cursor

/-- A plain scalar in a block of the given indentation. -/
def plainScalar? (inFlow : Bool) (indent : Nat) (cursor : Cursor) : Option (List Char × Bool × Cursor) :=
  plainFrom inFlow indent (cursor.rest.length + 1) [] {} cursor

/-! ### Quoted scalars -/

/-- The character that an escape stands for, read behind its backslash. -/
def escape? : List Char → Option (Char × List Char)
  | '0' :: rest => some ('\x00', rest)
  | 'a' :: rest => some ('\x07', rest)
  | 'b' :: rest => some ('\x08', rest)
  | 't' :: rest => some ('\t', rest)
  | '\t' :: rest => some ('\t', rest)
  | 'n' :: rest => some ('\n', rest)
  | 'v' :: rest => some ('\x0b', rest)
  | 'f' :: rest => some ('\x0c', rest)
  | 'r' :: rest => some ('\r', rest)
  | 'e' :: rest => some ('\x1b', rest)
  | ' ' :: rest => some (' ', rest)
  | '"' :: rest => some ('"', rest)
  | '/' :: rest => some ('/', rest)
  | '\\' :: rest => some ('\\', rest)
  | 'N' :: rest => some ('\x85', rest)
  | '_' :: rest => some ('\xa0', rest)
  | 'L' :: rest => some ('\u2028', rest)
  | 'P' :: rest => some ('\u2029', rest)
  | 'x' :: rest => Text.codePoint? 2 rest
  | 'u' :: rest => Text.codePoint? 4 rest
  | 'U' :: rest => Text.codePoint? 8 rest
  | _ => none

/-- Reading on in a quoted scalar up to a gap or to the closing quote, with the text in reverse. In double
quotes an escaped line end is dropped, and the gap starts behind it. -/
def quotedRun (quote : Char) : Nat → List Char → Cursor → Option (List Char × Gap × Cursor)
  | 0, _, _ => none
  | fuel + 1, held, cursor =>
    match cursor.rest with
    | [] => some (held, {}, cursor)
    | c :: rest =>
      if isGap c then some (held, {}, cursor)
      else if c = quote then
        if quote = '\'' ∧ rest.head? = some '\'' then
          quotedRun quote fuel ('\'' :: held) (cursor.advance 2)
        else some (held, {}, cursor)
      else if quote = '"' ∧ c = '\\' then
        match (cursor.advance 1).nextLine? with
        | some (_, next) => some (held, { broken := true }, next)
        | none => do
          let (escaped, rest) ← escape? rest
          quotedRun quote fuel (escaped :: held) (cursor.moveTo rest)
      else quotedRun quote fuel (c :: held) (cursor.advance 1)

/-- Reading on in a quoted scalar to its end, with the text in reverse. No line in it looks like one that
ends or begins a document. -/
def quotedFrom (quote : Char) : Nat → List Char → Cursor → Option (List Char × Cursor)
  | 0, _, _ => none
  | fuel + 1, held, cursor =>
    if cursor.atDocumentMark ∨ cursor.rest.isEmpty then none
    else do
      let (held, gap, cursor) ← quotedRun quote (cursor.rest.length + 1) held cursor
      if cursor.rest.head? = some quote then some (held.reverse, cursor.advance 1)
      else
        let (gap, cursor) ← Gap.read 0 gap cursor
        quotedFrom quote fuel (gap.text.reverse ++ held) cursor

/-- A quoted scalar, from its opening quote on. -/
def quotedScalar? (quote : Char) (cursor : Cursor) : Option (List Char × Cursor) :=
  quotedFrom quote (cursor.rest.length + 1) [] (cursor.advance 1)

/-! ### Block scalars -/

/-- What happens to the line ends behind the last line of a block. -/
inductive Chomping where
  | strip
  | clip
  | keep
deriving DecidableEq, Repr

/-- What the first line of a block scalar says: the chomping, and the indentation if it is told. -/
structure BlockHeader where
  chomping : Chomping := .clip
  indentation : Option Nat := none
deriving DecidableEq, Repr

/-- The chomping that a character stands for. -/
def chomping? : Char → Option Chomping
  | '+' => some .keep
  | '-' => some .strip
  | _ => none

/-- The header behind the indicator of a block scalar, in either order of its parts, and what follows
it. An indentation is a digit, but not zero. -/
def blockHeader? (s : List Char) : Option (BlockHeader × List Char) :=
  match s with
  | [] => some ({}, s)
  | c :: rest =>
    match chomping? c, Decimal.digit? c with
    | some chomping, _ =>
      match rest.head?.bind Decimal.digit? with
      | some 0 => none
      | some n => some ({ chomping, indentation := some n }, rest.drop 1)
      | none => some ({ chomping }, rest)
    | none, some 0 => none
    | none, some n =>
      match rest.head?.bind chomping? with
      | some chomping => some ({ chomping, indentation := some n }, rest.drop 1)
      | none => some ({ indentation := some n }, rest)
    | none, none => some ({}, s)

/-- Skipping the indentation of lines and all blank lines. If the indentation is not known yet, the
greatest column reached is told. A tab in the indentation is an error. -/
def blankLines (indent : Option Nat) :
    Nat → Nat → List Char → Cursor → Option (Nat × List Char × Cursor)
  | 0, _, _, _ => none
  | fuel + 1, widest, breaks, cursor =>
    let inside (column : Nat) : Bool := indent.all (column < ·)
    let spaces := (cursor.rest.takeWhile (· == ' ')).length
    let cursor := cursor.advance (match indent with
      | some indent => min spaces (indent - cursor.column)
      | none => spaces)
    let widest := max widest cursor.column
    if inside cursor.column ∧ cursor.rest.head? = some '\t' then none
    else match cursor.nextLine? with
      | some (text, next) => blankLines indent fuel widest (breaks ++ text) next
      | none => some (widest, breaks, cursor)

/-- Reading on in a block scalar: the text in reverse, the end of the last line, the ends of blank lines
behind it, and whether that line starts with a blank. In a folded block, the end of a line between two
lines that do not start with a blank becomes a blank. -/
def blockLines (isFolded : Bool) (chomping : Chomping) (indent : Nat) :
    Nat → List Char → List Char → List Char → Bool → Cursor → Option (List Char × Cursor)
  | 0, _, _, _, _, _ => none
  | fuel + 1, held, ending, blank, afterBlank, cursor =>
    match cursor.rest with
    | c :: _ =>
      if cursor.column = indent then do
        let joint :=
          if isFolded ∧ ending = ['\n'] ∧ ! afterBlank ∧ ! isBlank c then
            (if blank.isEmpty then [' '] else [])
          else ending
        let line := cursor.rest.takeWhile fun c => ! isBreak c
        let cursor := cursor.advance line.length
        let (ending, next) := (cursor.nextLine?).getD ([], cursor)
        let (_, following, next) ← blankLines (some indent) (next.rest.length + 1) 0 [] next
        let held := line.reverse ++ blank.reverse ++ joint.reverse ++ held
        blockLines isFolded chomping indent fuel held ending following (isBlank c) next
      else finish held ending blank cursor
    | [] => finish held ending blank cursor
where
  /-- The whole text, with what the chomping leaves of the line ends. -/
  finish (held ending blank : List Char) (cursor : Cursor) : Option (List Char × Cursor) :=
    let tail := match chomping with
      | .strip => []
      | .clip => ending
      | .keep => ending ++ blank
    some (held.reverse ++ tail, cursor)

/-- A block scalar, from its indicator on, in a block of the given indentation, which is negative outside
of all blocks. If the header does not tell the indentation, the first line that is not blank does. -/
def blockScalar? (isFolded : Bool) (parent : Int) (cursor : Cursor) : Option (List Char × Cursor) := do
  let (header, rest) ← blockHeader? (cursor.rest.drop 1)
  let cursor := ((cursor.moveTo rest).skipWhile isBlank).skipComment
  let cursor ← match cursor.nextLine? with
    | some (_, next) => some next
    | none => if cursor.rest.isEmpty then some cursor else none
  let told := header.indentation.map fun n => if 0 ≤ parent then parent.toNat + n else n
  let (widest, blank, cursor) ← blankLines told (cursor.rest.length + 1) 0 [] cursor
  let indent := told.getD (max widest (max (parent + 1).toNat 1))
  blockLines isFolded header.chomping indent (cursor.rest.length + 1) [] [] blank false cursor

end Phrasebook.Yaml
