import Phrasebook.Yaml.Property
import Phrasebook.Yaml.Scalar

/-! The tokens of a text. The indentation of lines is turned into tokens, and a key is recognised by the
colon that follows it on the same line. -/

namespace Phrasebook.Yaml

/-- A place where a key may have started. -/
structure KeyPlace where
  /-- The number of tokens before it. -/
  tokens : Nat
  /-- Whether a key has to start here: it is where the entries of the block start. -/
  required : Bool
  index : Nat
  line : Nat
  column : Nat

/-- What is known in the middle of a text. -/
structure Scan where
  cursor : Cursor
  /-- The tokens read so far, the last one in front. -/
  tokens : List Token := []
  size : Nat := 0
  /-- Where a key may have started, for the innermost flow collection, those around it, and the block. -/
  keys : List (Option KeyPlace) := [none]
  /-- The column of the innermost block collection, negative outside of all. -/
  indent : Int := -1
  /-- The columns of the block collections around it. -/
  outer : List Int := []
  /-- Whether a key may start here. -/
  keyAllowed : Bool := true

namespace Scan

/-- Whether the place is inside a flow collection. -/
def inFlow (s : Scan) : Bool :=
  1 < s.keys.length

/-- The column of the place. -/
def column (s : Scan) : Int :=
  s.cursor.column

/-- One more token. -/
def push (s : Scan) (token : Token) : Scan :=
  { s with tokens := token :: s.tokens, size := s.size + 1 }

/-- Tokens put behind the first ones of a number. -/
def insert (s : Scan) (number : Nat) (new : List Token) : Scan :=
  let (later, earlier) := s.tokens.splitAt (s.size - number)
  { s with tokens := later ++ new.reverse ++ earlier, size := s.size + new.length }

/-- Skipping characters. -/
def skip (s : Scan) (count : Nat) : Scan :=
  { s with cursor := s.cursor.advance count }

/-- Skipping blanks, comments and line ends. Where a key may start in a block, a tab is not skipped. -/
def skipGaps : Nat → Scan → Scan
  | 0, s => s
  | fuel + 1, s =>
    let cursor :=
      if s.cursor.column = 0 ∧ s.cursor.rest.head? = some byteOrderMark then s.cursor.advance 1
      else s.cursor
    let cursor := cursor.skipWhile fun c => c == ' ' || (c == '\t' && (s.inFlow || ! s.keyAllowed))
    let cursor := cursor.skipComment
    match cursor.nextLine? with
    | some (_, next) => skipGaps fuel { s with cursor := next, keyAllowed := s.keyAllowed || ! s.inFlow }
    | none => { s with cursor }

/-- Whether a place is too far behind for a key: on an earlier line, or more than 1024 characters back. -/
def isPast (s : Scan) (place : KeyPlace) : Bool :=
  place.line < s.cursor.line || place.index + 1024 < s.cursor.index

/-- Giving up the places that are too far behind. A required key is missed. -/
def expireKeys (s : Scan) : Option Scan := do
  let keys ← s.keys.mapM fun
    | some place =>
      if ! s.isPast place then some (some place) else if place.required then none else some none
    | none => some none
  return { s with keys }

/-- Giving up the innermost place. A required key is missed. -/
def dropKey (s : Scan) : Option Scan :=
  match s.keys with
  | some place :: rest => if place.required then none else some { s with keys := none :: rest }
  | _ => some s

/-- Remembering that a key may start here, if it may. -/
def markKey (s : Scan) : Option Scan := do
  if ! s.keyAllowed then return s
  let place : KeyPlace :=
    { tokens := s.size
      required := ! s.inFlow && s.indent == s.column
      index := s.cursor.index
      line := s.cursor.line
      column := s.cursor.column }
  let s ← s.dropKey
  return { s with keys := some place :: s.keys.drop 1 }

/-- How many blocks end before a column, and the blocks that go on. -/
def blocksPast (column : Int) : Int → List Int → Nat × Int × List Int
  | indent, [] => (0, indent, [])
  | indent, last :: rest =>
    if column < indent then
      let (count, indent, outer) := blocksPast column last rest
      (count + 1, indent, outer)
    else (0, indent, last :: rest)

/-- Ending the blocks that lie deeper than a column. -/
def closeBlocks (s : Scan) (column : Int) : Scan :=
  if s.inFlow then s
  else
    let (count, indent, outer) := blocksPast column s.indent s.outer
    (List.replicate count Token.blockEnd).foldl push { s with indent, outer }

/-- Starting a block at a column if it lies deeper than the one around it. The tokens follow the first
ones of a number. -/
def openBlock (s : Scan) (column : Int) (start : Token) (number : Nat) : Scan :=
  if ! s.inFlow ∧ s.indent < column then
    { s.insert number [start] with indent := column, outer := s.indent :: s.outer }
  else s

/-- A directive, or a mark between documents, ends all blocks. -/
def outside (s : Scan) : Option Scan :=
  ((s.closeBlocks (-1)).dropKey).map fun s => { s with keyAllowed := false }

/-- The start of a flow collection. -/
def openFlow (s : Scan) (start : Token) : Option Scan := do
  let s ← s.markKey
  return { (s.skip 1).push start with keys := none :: s.keys, keyAllowed := true }

/-- The end of a flow collection. -/
def closeFlow (s : Scan) (stop : Token) : Option Scan := do
  let s ← s.dropKey
  let keys := if s.inFlow then s.keys.drop 1 else s.keys
  return { (s.skip 1).push stop with keys, keyAllowed := false }

/-- The indicator in front of an entry of a flow collection. -/
def flowEntry (s : Scan) : Option Scan :=
  s.dropKey.map fun s => { (s.skip 1).push .flowEntry with keyAllowed := true }

/-- The indicator in front of an entry of a block sequence. It is not for flow collections, which is found
out where the tokens are put together. -/
def blockEntry (s : Scan) : Option Scan := do
  if ! s.inFlow ∧ ! s.keyAllowed then none
  let s := s.openBlock s.column .blockSequenceStart s.size
  let s ← s.dropKey
  return { (s.skip 1).push .blockEntry with keyAllowed := true }

/-- The indicator in front of a key. -/
def keyMark (s : Scan) : Option Scan := do
  if ! s.inFlow ∧ ! s.keyAllowed then none
  let s := s.openBlock s.column .blockMappingStart s.size
  let s ← s.dropKey
  return { (s.skip 1).push .key with keyAllowed := ! s.inFlow }

/-- The indicator between a key and its value. -/
def valueMark (s : Scan) : Option Scan :=
  match s.keys with
  | some place :: rest =>
    let s := s.insert place.tokens [.key]
    let s := s.openBlock place.column .blockMappingStart place.tokens
    some { (s.skip 1).push .value with keys := none :: rest, keyAllowed := false }
  | _ =>
    if ! s.inFlow ∧ ! s.keyAllowed then none
    else
      let s := s.openBlock s.column .blockMappingStart s.size
      some { (s.skip 1).push .value with keyAllowed := ! s.inFlow }

/-- A token that a key may consist of, read by the given reader. -/
def part (s : Scan) (read? : Cursor → Option (Token × Cursor)) : Option Scan := do
  let s ← s.markKey
  let (token, cursor) ← read? s.cursor
  return { s.push token with cursor, keyAllowed := false }

/-- A plain scalar. If it ends on a later line than its last word, a key may follow. -/
def plain (s : Scan) : Option Scan := do
  let s ← s.markKey
  let (text, crossed, cursor) ← plainScalar? s.inFlow (s.indent + 1).toNat s.cursor
  return { s.push (.scalar .plain text) with cursor, keyAllowed := crossed }

/-- A scalar between quotes. -/
def quoted (s : Scan) (quote : Char) (style : ScalarStyle) : Option Scan :=
  s.part fun cursor => (quotedScalar? quote cursor).map fun (text, cursor) => (.scalar style text, cursor)

/-- A scalar in a block of lines. -/
def block (s : Scan) (isFolded : Bool) : Option Scan := do
  let s ← s.dropKey
  let (text, cursor) ← blockScalar? isFolded s.indent s.cursor
  return { s.push (.scalar (if isFolded then .folded else .literal) text) with cursor, keyAllowed := true }

/-- Whether a plain scalar may start with a character. -/
def startsPlain (inFlow : Bool) (c : Char) (rest : List Char) : Bool :=
  ! (isGap c || "-?:,[]\x7b\x7d#&*!|>'\"%@\x60".toList.contains c) ||
    (c == '-' && ! rest.head?.any isBlank) ||
    (! inFlow && (c == '?' || c == ':') && ! endsWord rest)

/-- Reading the token that starts with a character. -/
def token (s : Scan) (c : Char) (rest : List Char) : Option Scan :=
  if s.cursor.column = 0 ∧ c = '%' then do
    let s ← s.outside
    let (token, cursor) ← directive? s.cursor
    return { s.push token with cursor }
  else if s.cursor.atMark "---" then s.outside.map fun s => (s.skip 3).push .documentStart
  else if s.cursor.atMark "..." then s.outside.map fun s => (s.skip 3).push .documentEnd
  else if c = '[' then s.openFlow .flowSequenceStart
  else if c = '\x7b' then s.openFlow .flowMappingStart
  else if c = ']' then s.closeFlow .flowSequenceEnd
  else if c = '\x7d' then s.closeFlow .flowMappingEnd
  else if c = ',' then s.flowEntry
  else if c = '-' ∧ endsWord rest then s.blockEntry
  else if c = '?' ∧ (s.inFlow ∨ endsWord rest) then s.keyMark
  else if c = ':' ∧ (s.inFlow ∨ endsWord rest) then s.valueMark
  else if c = '*' then s.part fun cursor => (anchorName? cursor).map fun (name, next) => (.alias name, next)
  else if c = '&' then s.part fun cursor => (anchorName? cursor).map fun (name, next) => (.anchor name, next)
  else if c = '!' then s.part (tag? s.inFlow)
  else if c = '|' ∧ ! s.inFlow then s.block false
  else if c = '>' ∧ ! s.inFlow then s.block true
  else if c = '\'' then s.quoted '\'' .singleQuoted
  else if c = '"' then s.quoted '"' .doubleQuoted
  else if startsPlain s.inFlow c rest then s.plain
  else none

/-- Reading on to the end of the text. -/
def run : Nat → Scan → Option (List Token)
  | 0, _ => none
  | fuel + 1, s => do
    let s := s.skipGaps (s.cursor.rest.length + 1)
    let s ← s.expireKeys
    let s := s.closeBlocks s.column
    match s.cursor.rest with
    | [] =>
      let s ← s.outside
      return s.tokens.reverse
    | c :: rest => run fuel (← s.token c rest)

end Scan

/-- The tokens of a text. A mark at its start is no part of it. -/
def tokens? (content : String) : Option (List Token) :=
  let text := match content.toList with
    | c :: rest => if c = byteOrderMark then rest else c :: rest
    | [] => []
  if text.all isAllowed then Scan.run (text.length + 1) { cursor := { rest := text } } else none

end Phrasebook.Yaml
