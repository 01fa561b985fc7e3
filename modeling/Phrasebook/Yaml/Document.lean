import Phrasebook.Yaml.Node
import Phrasebook.Yaml.Text

/-! The document that tokens make up. -/

namespace Phrasebook.Yaml

/-- The anchors seen so far. -/
structure Anchors where
  /-- The number of each name. A name takes as its number how many names are known. -/
  names : List (List Char × Nat) := []
  /-- The place of the last node that took a number. -/
  places : List (Nat × Nat) := []
  /-- The number of nodes that have an anchor. -/
  count : Nat := 0
  /-- The nodes that have an anchor, by their places. -/
  nodes : List (Nat × Node) := []

namespace Anchors

/-- Looking a number up. -/
def lookup? {α β : Type} [DecidableEq α] (key : α) (entries : List (α × β)) : Option β :=
  (entries.find? fun entry => entry.1 = key).map Prod.snd

/-- The anchors with a name given to one more node, and the place of that node. -/
def declare (anchors : Anchors) (name : List Char) : Nat × Anchors :=
  let number := anchors.names.length
  let others := anchors.names.filter fun entry => entry.1 ≠ name
  (anchors.count,
    { anchors with
      names := (name, number) :: others
      places := (number, anchors.count) :: anchors.places
      count := anchors.count + 1 })

/-- The nodes by the numbers that aliases use. -/
def byNumber (anchors : Anchors) : List (Nat × Node) :=
  anchors.places.filterMap fun (number, place) =>
    (lookup? place anchors.nodes).map fun node => (number, node)

end Anchors

/-- What is known in the middle of a document. -/
structure Parse where
  tokens : List Token
  /-- What the handles of tags stand for. -/
  handles : List (List Char × List Char)
  anchors : Anchors := {}

/-- A step on tokens, which may fail. -/
abbrev Parser := StateT Parse Option

namespace Parser

/-- The next token, which stays. -/
def peek : Parser (Option Token) :=
  return (← get).tokens.head?

/-- Dropping the next token. -/
def drop : Parser Unit :=
  modify fun s => { s with tokens := s.tokens.drop 1 }

/-- Whether the next token is one of those given. -/
def sees (tokens : List Token) : Parser Bool :=
  return (← peek).any fun token => tokens.contains token

/-- Dropping the next token if it is the one given. -/
def take (token : Token) : Parser Bool := do
  let found ← sees [token]
  if found then drop
  return found

/-- A token that has to be next. -/
def expect (token : Token) : Parser Unit := do
  if ! (← take token) then failure

/-- The name of the anchor if one is next. -/
def anchor? : Parser (Option (List Char)) := do
  match ← peek with
  | some (.anchor name) =>
    drop
    return some name
  | _ => return none

/-- The tag if one is next. -/
def tag? : Parser (Option (List Char × List Char)) := do
  match ← peek with
  | some (.tag handle suffix) =>
    drop
    return some (handle, suffix)
  | _ => return none

/-- The anchor and the tag in front of a node, in any order. -/
def properties : Parser (Option (List Char) × Option (List Char × List Char)) := do
  match ← anchor? with
  | some name => return (some name, ← tag?)
  | none =>
    let tag ← tag?
    return (← anchor?, tag)

/-- A tag written in full. -/
def resolve (tag : List Char × List Char) : Parser (List Char) := do
  if tag.1.isEmpty then return tag.2
  match Anchors.lookup? tag.1 (← get).handles with
  | some lead => return lead ++ tag.2
  | none => failure

/-- Reading a node, which gets an anchor if there is a name for it. The anchor is known inside of the
node already. -/
def anchored (name : Option (List Char)) (read : Parser Node) : Parser Node := do
  match name with
  | none => read
  | some name =>
    let (place, anchors) := (← get).anchors.declare name
    modify fun s => { s with anchors }
    let node ← read
    modify fun s => { s with anchors := { s.anchors with nodes := (place, node) :: s.anchors.nodes } }
    return node

/-- The node that an alias stands for. -/
def followAlias (name : List Char) : Parser Node := do
  match Anchors.lookup? name (← get).anchors.names with
  | some number => return .alias number
  | none => failure

/-- The tag of a scalar: the one that stands for no tag in particular is left out. -/
def scalarTag (tag : Option (List Char)) : Option (List Char) :=
  tag.filter (· ≠ ['!'])

mutual

/-- A node. One in a flow collection does not start a block; where a block mapping holds it, it may be a
sequence that is not indented. -/
def node : Nat → Bool → Bool → Parser Node
  | 0, _, _ => failure
  | fuel + 1, inBlock, inMapping => do
    if let some (.alias name) ← peek then
      drop
      return ← followAlias name
    let (name, written) ← properties
    let tag ← written.mapM resolve
    if inMapping ∧ (← sees [.blockEntry]) then
      return ← anchored name (return .sequence tag (← flushItems fuel))
    match ← peek with
    | some (.scalar style text) => anchored name do
      drop
      return .scalar (scalarTag tag) style text
    | some .flowSequenceStart => anchored name do
      drop
      return .sequence tag (← flowItems fuel true)
    | some .flowMappingStart => anchored name do
      drop
      return .mapping tag (← flowMembers fuel true)
    | next =>
      if inBlock ∧ next = some .blockSequenceStart then
        anchored name do
          drop
          return .sequence tag (← blockItems fuel)
      else if inBlock ∧ next = some .blockMappingStart then
        anchored name do
          drop
          return .mapping tag (← blockMembers fuel)
      else if name.isSome ∨ tag.isSome then anchored name (return .scalar tag .plain [])
      else failure

/-- A node, unless one of the given tokens shows that nothing is written. -/
def nodeUnless : Nat → Bool → Bool → List Token → Parser Node
  | 0, _, _, _ => failure
  | fuel + 1, inBlock, inMapping, stops => do
    if ← sees stops then return .absent
    node fuel inBlock inMapping

/-- The items of a block sequence, to its end. -/
def blockItems : Nat → Parser (List Node)
  | 0 => failure
  | fuel + 1 => do
    if ← take .blockEntry then
      let item ← nodeUnless fuel true false [.blockEntry, .blockEnd]
      return item :: (← blockItems fuel)
    expect .blockEnd
    return []

/-- The items of a sequence that is not indented, to the first token that is none of its own. -/
def flushItems : Nat → Parser (List Node)
  | 0 => failure
  | fuel + 1 => do
    if ← take .blockEntry then
      let item ← nodeUnless fuel true false [.blockEntry, .key, .value, .blockEnd]
      return item :: (← flushItems fuel)
    return []

/-- The members of a block mapping, to its end. A value that is not written is absent; a value without
a key is an error. -/
def blockMembers : Nat → Parser (List (Node × Node))
  | 0 => failure
  | fuel + 1 => do
    if ← take .key then
      let key ← nodeUnless fuel true true [.key, .value, .blockEnd]
      let value ← if ← take .value then nodeUnless fuel true true [.key, .value, .blockEnd]
        else pure .absent
      return (key, value) :: (← blockMembers fuel)
    expect .blockEnd
    return []

/-- The items of a flow sequence, to its end. A comma stands in front of all but the first. -/
def flowItems : Nat → Bool → Parser (List Node)
  | 0, _ => failure
  | fuel + 1, isFirst => do
    if ← take .flowSequenceEnd then return []
    if ! isFirst then expect .flowEntry
    if ← take .flowSequenceEnd then return []
    let item ← if ← take .key then flowPair fuel else node fuel false false
    return item :: (← flowItems fuel false)

/-- A mapping with a single member, written as an item of a flow sequence. Where its key should be, a
token that shows there is none is dropped. -/
def flowPair : Nat → Parser Node
  | 0 => failure
  | fuel + 1 => do
    let isEmpty ← sees [.value, .flowEntry, .flowSequenceEnd]
    let key ← if isEmpty then (do drop; return .absent) else node fuel false false
    let value ← if ← take .value then nodeUnless fuel false false [.flowEntry, .flowSequenceEnd]
      else pure .absent
    return .mapping none [(key, value)]

/-- The members of a flow mapping, to its end. A comma stands in front of all but the first. -/
def flowMembers : Nat → Bool → Parser (List (Node × Node))
  | 0, _ => failure
  | fuel + 1, isFirst => do
    if ← take .flowMappingEnd then return []
    if ! isFirst then expect .flowEntry
    if ← take .flowMappingEnd then return []
    let member ← if ← take .key then
        (do
          let key ← nodeUnless fuel false false [.value, .flowEntry, .flowMappingEnd]
          let value ← if ← take .value then nodeUnless fuel false false [.flowEntry, .flowMappingEnd]
            else pure .absent
          return (key, value))
      else (do return (← node fuel false false, .absent))
    return member :: (← flowMembers fuel false)

end

end Parser

/-- What the handles of tags stand for if no directive says otherwise. -/
def standardHandles : List (List Char × List Char) :=
  [(['!'], ['!']), (['!', '!'], "tag:yaml.org,2002:".toList)]

/-- The handles that the directives in front of a document declare, and the tokens behind them. No handle is
declared twice, and at most one version is told, which is 1.1 or 1.2. -/
def directives? (versioned : Bool) (handles : List (List Char × List Char)) :
    List Token → Option (List (List Char × List Char) × List Token)
  | .versionDirective major minor :: rest =>
    if versioned ∨ major ≠ 1 ∨ (minor ≠ 1 ∧ minor ≠ 2) then none else directives? true handles rest
  | .tagDirective handle lead :: rest =>
    if handles.any (·.1 = handle) then none else directives? versioned ((handle, lead) :: handles) rest
  | rest => some (handles, rest)

/-- The start of a document: the handles declared, and whether the document may be empty. A document that
has directives is marked. -/
def opening? (tokens : List Token) : Option (List (List Char × List Char) × Bool × List Token) := do
  let (declared, rest) ← directives? false [] tokens
  let handles := declared ++ standardHandles
  match rest with
  | .documentStart :: rest => return (handles, true, rest)
  | _ => if rest.length = tokens.length then return (handles, false, rest) else none

/-- Whether a token shows that a marked document is empty. -/
def endsDocument : List Token → Bool
  | [] => true
  | .versionDirective .. :: _ | .tagDirective .. :: _ | .documentStart :: _ | .documentEnd :: _ => true
  | _ => false

/-- The only document of tokens. Nothing follows it but marks that end it. -/
def document? : List Token → Option Document
  | [] => some { root := none }
  | tokens => do
    let (handles, isMarked, rest) ← opening? tokens
    let fuel := 4 * rest.length + 4
    let read : Parser Node := if isMarked ∧ endsDocument rest then return .absent else Parser.node fuel true false
    let (root, final) ← read.run { tokens := rest, handles }
    if (final.tokens.dropWhile (· = .documentEnd)).isEmpty then
      return { root := some root, anchored := final.anchors.byNumber }
    else none

end Phrasebook.Yaml
