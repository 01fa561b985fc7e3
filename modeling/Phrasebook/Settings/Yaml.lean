import Phrasebook.Settings.Listing
import Phrasebook.Yaml.Data

/-! Settings in YAML text. -/

namespace Phrasebook.Settings

open Yaml

variable (document : Document)

/-- The node that a node stands for. -/
def yamlNode (node : Node) : Option Node :=
  match node with
  | .alias anchor => document.node? anchor
  | node => some node

/-- The text of a scalar, whatever its tag. -/
def yamlText? (node : Node) : Option String :=
  match yamlNode document node with
  | some (.scalar _ _ text) => some (String.ofList text)
  | _ => none

/-- The text of a scalar, or nothing if a plain scalar says so. -/
def yamlOptional? (node : Node) : Option (Option String) :=
  match yamlNode document node with
  | some (.scalar tag .plain text) =>
    if tag.isNone then some (if text.isEmpty ∨ spellsNull text then none else some (String.ofList text))
    else if tag = some (standardTag "null") then (if spellsNull text then some none else none)
    else some (some (String.ofList text))
  | some (.scalar _ _ text) => some (some (String.ofList text))
  | _ => none

/-- The texts of the items of a sequence. A plain scalar without text is a sequence without items. -/
def yamlTexts? (node : Node) : Option (List String) :=
  match yamlNode document node with
  | some (.sequence _ items) => items.mapM (yamlText? document)
  | some (.scalar _ .plain []) => some []
  | _ => none

/-- The text that may spell a flag or a number: a plain scalar, or a literal block tagged as one. -/
def yamlLiteral? (kind : String) (node : Node) : Option (List Char) :=
  match yamlNode document node with
  | some (.scalar _ .plain text) => some text
  | some (.scalar tag .literal text) => if tag = some (standardTag kind) then some text else none
  | _ => none

/-- The mode that a scalar names by its text, or else by its tag, with nothing as its text. -/
def yamlMode? (node : Node) : Option MissingMode :=
  match yamlNode document node with
  | some (.scalar tag style text) =>
    if isLocalTag tag then
      if style = .plain ∧ (text.isEmpty ∨ spellsNull text) then
        modeOfName? (String.ofList ((tag.getD []).drop 1))
      else none
    else modeOfName? (String.ofList text)
  | _ => none

/-- How YAML holds the values of options. -/
def yamlSource : Source Node where
  text? := yamlText? document
  optional? := yamlOptional? document
  texts? := yamlTexts? document
  count? node := ((yamlLiteral? document "int" node).bind unsigned64?).filter (· < UInt32.size)
  flag? node := (yamlLiteral? document "bool" node).bind flag?
  mode? := yamlMode? document

/-- The contents of a document that holds a mapping, the values in the order of the options, or nothing. -/
def contentsOfYaml? : Option (Contents Node) :=
  match document.root with
  | none => some (.members [])
  | some (.scalar _ .plain []) => some (.members [])
  | some (.mapping _ entries) => do
    let named ← entries.mapM fun (key, value) => (yamlText? document key).map fun name => (name, value)
    return .members named
  | some (.sequence _ items) => some (.items items)
  | _ => none

/-- Contents whose values are held in some other way. -/
def Contents.map {α β : Type} (f : α → β) : Contents α → Contents β
  | .members named => .members (named.map fun (name, value) => (name, f value))
  | .items values => .items (values.map f)

/-- YAML. A node is held together with the document in which its aliases are looked up. -/
def yamlCodec : Codec where
  source := {
    text? := fun (document, node) => (yamlSource document).text? node
    optional? := fun (document, node) => (yamlSource document).optional? node
    texts? := fun (document, node) => (yamlSource document).texts? node
    count? := fun (document, node) => (yamlSource document).count? node
    flag? := fun (document, node) => (yamlSource document).flag? node
    mode? := fun (document, node) => (yamlSource document).mode? node }
  contents? content := do
    let document ← (tokens? content).bind document?
    let contents ← contentsOfYaml? document
    return contents.map fun node => (document, node)
  write members := .ok (listing ": " members)

end Phrasebook.Settings
