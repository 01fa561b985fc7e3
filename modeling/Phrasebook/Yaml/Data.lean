import Phrasebook.Json.Basic
import Phrasebook.Yaml.Document

/-! The data that YAML text stands for. Scalars without quotes are numbers, flags or nothing if they look
like it. -/

namespace Phrasebook.Yaml

/-- Whether a text spells nothing. -/
def spellsNull (text : List Char) : Bool :=
  ["null", "Null", "NULL", "~"].any fun word => word.toList == text

/-- The flag that a text spells. -/
def flag? (text : List Char) : Option Bool :=
  if ["true", "True", "TRUE"].any fun word => word.toList == text then some true
  else if ["false", "False", "FALSE"].any fun word => word.toList == text then some false
  else none

/-- Whether a text consists of digits with a zero in front that none of them needs. Such a text is no
number, not even with a sign. -/
def isPadded (text : List Char) : Bool :=
  let digits := match text with
    | '+' :: rest | '-' :: rest => rest
    | _ => text
  digits.head? == some '0' && 1 < digits.length && digits.all fun c => (Decimal.digit? c).isSome

/-- The number that digits of any base spell, without a sign. -/
def magnitude? (text : List Char) : Option Nat :=
  match text with
  | '0' :: 'x' :: digits => Decimal.natural? 16 digits
  | '0' :: 'o' :: digits => Decimal.natural? 8 digits
  | '0' :: 'b' :: digits => Decimal.natural? 2 digits
  | digits => if isPadded digits then none else Decimal.natural? 10 digits

/-- The whole number that a text spells. -/
def whole? (text : List Char) : Option Int :=
  match text with
  | '-' :: rest => (magnitude? rest).map fun n => -(n : Int)
  | '+' :: rest => (magnitude? rest).map Int.ofNat
  | _ => (magnitude? text).map Int.ofNat

/-- The number without a sign that a text spells, if it has sixty-four bits. -/
def unsigned64? (text : List Char) : Option Nat :=
  (match text with
    | '+' :: rest => magnitude? rest
    | _ => magnitude? text).filter (· < UInt64.size)

/-- The decimal that a text spells. Infinities and what is no number are spelled with a point. -/
def real? (text : List Char) : Option Float :=
  let unsigned := match text with
    | '+' :: rest => rest
    | _ => text
  let isOneOf (words : List String) (text : List Char) : Bool := words.any fun word => word.toList == text
  if isOneOf [".inf", ".Inf", ".INF"] unsigned then some (1 / 0)
  else if isOneOf ["-.inf", "-.Inf", "-.INF"] text then some (-1 / 0)
  else if isOneOf [".nan", ".NaN", ".NAN"] text then some (0 / 0)
  else if text.head? = some '+' ∧ unsigned.head?.any (fun c => c = '+' ∨ c = '-') then none
  else (Decimal.decimal? unsigned).filter Float.isFinite

/-- A decimal as data, which has no infinities. -/
def realJson (x : Float) : Json :=
  if x.isFinite then .number (.real x) else .null

/-- A whole number as data. Numbers of more than sixty-four bits are not representable. -/
def wholeJson? (n : Int) : Option Json :=
  if -(Nat.pow 2 63 : Int) ≤ n ∧ n < UInt64.size then some (.number (.whole n)) else none

/-- The whole number that a text spells, if it has at most 128 bits. -/
def wide? (text : List Char) : Option Int :=
  (whole? text).filter fun n => -(Nat.pow 2 127 : Int) ≤ n ∧ n < Nat.pow 2 128

/-- What a scalar without quotes and without a tag stands for. -/
def plainJson? (text : List Char) : Option Json :=
  if text.isEmpty ∨ spellsNull text then some .null
  else match flag? text, wide? text with
    | some flag, _ => some (.bool flag)
    | none, some n => wholeJson? n
    | none, none =>
      match if isPadded text then none else real? text with
      | some x => some (realJson x)
      | none => some (.text (String.ofList text))

/-- The full tag of a standard kind. -/
def standardTag (kind : String) : List Char :=
  "tag:yaml.org,2002:".toList ++ kind.toList

/-- Whether a tag names a kind of its own, which data cannot have. -/
def isLocalTag (tag : Option (List Char)) : Bool :=
  tag.any fun tag => tag.head? == some '!' && 1 < tag.length

/-- What a scalar with a tag stands for: what the tag says, and text if the tag is not known. The tag that
is a single mark says nothing. -/
def taggedJson? (tag : List Char) (style : ScalarStyle) (text : List Char) : Option Json :=
  if isLocalTag (some tag) then none
  else if tag = standardTag "bool" then (flag? text).map .bool
  else if tag = standardTag "int" then (wide? text).bind wholeJson?
  else if tag = standardTag "float" then (real? text).map realJson
  else if tag = standardTag "null" then (if spellsNull text then some .null else none)
  else if tag.head? = some '!' ∧ style = .plain then plainJson? text
  else some (.text (String.ofList text))

/-- What a scalar stands for. -/
def scalarJson? (tag : Option (List Char)) (style : ScalarStyle) (text : List Char) : Option Json :=
  match tag, style with
  | some tag, _ => taggedJson? tag style text
  | none, .plain => plainJson? text
  | none, _ => some (.text (String.ofList text))

/-- A step that may fail, with the number of aliases followed so far. -/
abbrev Reading := StateT Nat Option

namespace Document

/-- The node that a node stands for. No more than a hundred times as many aliases are followed as the
document has events. -/
def follow (document : Document) : Node → Reading Node
  | .alias anchor => do
    let count := (← get) + 1
    set count
    if document.events * 100 < count then failure
    match document.node? anchor with
    | some node => return node
    | none => failure
  | node => return node

/-- The name that a key stands for: the text of a scalar, whatever its tag. -/
def name (document : Document) (key : Node) : Reading String := do
  match ← document.follow key with
  | .scalar _ _ text => return String.ofList text
  | _ => failure

/-- The data that a node stands for, in which collections lie at most `depth` deep. -/
def json (document : Document) : Nat → Node → Reading Json
  | depth, node => do
    match ← document.follow node, depth with
    | .scalar tag style text, _ =>
      match scalarJson? tag style text with
      | some data => return data
      | none => failure
    | .sequence tag items, depth + 1 =>
      if isLocalTag tag then failure
      return .array (← items.mapM (document.json depth))
    | .mapping tag members, depth + 1 =>
      if isLocalTag tag then failure
      let members ← members.mapM fun (key, value) => do
        let name ← document.name key
        return (name, ← document.json depth value)
      return .ofDict (Json.dictOf members)
    | _, _ => failure

end Document

/-- How deep collections may lie in each other. -/
def depthLimit : Nat := 128

/-- The data that a document stands for. -/
def Document.data? (document : Document) : Option Json :=
  match document.root with
  | none => some .null
  | some root => ((document.json depthLimit root).run 0).map Prod.fst

/-- The data that a text stands for. -/
def read? (content : String) : Option Json :=
  ((tokens? content).bind document?).bind Document.data?

end Phrasebook.Yaml
