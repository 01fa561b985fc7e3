import Phrasebook.Json.Printer
import Phrasebook.Json.Skip
import Phrasebook.Settings.Data

/-! Settings in JSON text. -/

namespace Phrasebook.Settings

/-- The text that data is. -/
def jsonText? : Json → Option String
  | .text text => some text
  | _ => none

/-- How JSON holds the values of options. A mode is a text, or the only member of an object, with
nothing as its value. -/
def jsonSource : Source Json where
  text? := jsonText?
  optional?
    | .null => some none
    | .text text => some (some text)
    | _ => none
  texts?
    | .array items => items.mapM jsonText?
    | _ => none
  count?
    | .number (.whole n) => if 0 ≤ n ∧ n < UInt32.size then some n.toNat else none
    | _ => none
  flag?
    | .bool flag => some flag
    | _ => none
  mode?
    | .text name => modeOfName? name
    | .object [(name, .null)] => modeOfName? name
    | _ => none

/-- The contents of data that is an object or an array. -/
def contentsOfJson? : Json → Option (Contents Json)
  | .object members => some (.members members)
  | .array items => some (.items items)
  | _ => none

/-- The members of an object that are options, read behind the opening brace. Others are passed over. -/
def optionMembers? : Nat → List (String × Json) → List Char → Option (List (String × Json) × List Char)
  | 0, _, _ => none
  | fuel + 1, held, s => do
    let '"' :: rest := Json.skipGap s | none
    let (name, rest) ← Json.string? rest
    let ':' :: rest := Json.skipGap rest | none
    let (held, rest) ←
      if optionName name ∈ optionNames then
        (Json.value? (Json.depthLimit - 1) rest).map fun (value, rest) => ((name, value) :: held, rest)
      else (Json.skip? (rest.length + 1) rest).map fun rest => (held, rest)
    match Json.skipGap rest with
    | ',' :: rest => optionMembers? fuel held rest
    | '\x7d' :: rest => some (held.reverse, rest)
    | _ => none

/-- The contents of a text: of an object only the options are read. -/
def jsonContents? (content : String) : Option (Contents Json) :=
  match Json.skipGap content.toList with
  | '\x7b' :: rest => do
    let (members, rest) ← match Json.skipGap rest with
      | '\x7d' :: rest => some ([], rest)
      | rest => optionMembers? (rest.length + 1) [] rest
    if (Json.skipGap rest).isEmpty then some (.members members) else none
  | _ => (Json.readMembers? content).bind contentsOfJson?

/-- JSON, which is written in lines with margins. -/
def jsonCodec : Codec where
  source := jsonSource
  contents? := jsonContents?
  write members := .ok ((Json.object members).renderLines 0)

/-- Settings from a text. -/
def readJson? (content : String) : Option Settings :=
  jsonCodec.read? content

end Phrasebook.Settings
