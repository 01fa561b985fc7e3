import Phrasebook.Json.Basic
import Phrasebook.Message.Category

/-! What is stored under a key: one template, plural forms of it, or a list of variants. -/

namespace Phrasebook

/-- A member of a list of variants. -/
inductive Variant where
  | text (template : String)
  | plural (forms : Forms)
deriving DecidableEq, Repr

/-- A stored message. -/
inductive Value where
  | scalar (template : String)
  | plural (forms : Forms)
  | variants (members : List Variant)
deriving DecidableEq, Repr

namespace Value

/-- The template of a message that is nothing else. -/
def scalar? : Value → Option String
  | .scalar template => some template
  | _ => none

/-- What kind of message it is, in words. -/
def kind : Value → String
  | .scalar _ => "scalar"
  | .plural _ => "plural"
  | .variants _ => "variants"

end Value

/-- Plural forms as data: an object from the names of categories to templates. -/
def Forms.toJson (forms : Forms) : Json :=
  Json.ofDict (Dict.ofList (forms.entries.map fun entry => (entry.1.name, Json.text entry.2)))

/-- A member as data. -/
def Variant.toJson : Variant → Json
  | .text template => .text template
  | .plural forms => forms.toJson

/-- A message as data. -/
def Value.toJson : Value → Json
  | .scalar template => .text template
  | .plural forms => forms.toJson
  | .variants members => .array (members.map Variant.toJson)

/-- Plural forms from the members of an object, each of which names a category and holds a template. -/
def Forms.ofMembers? (members : List (String × Json)) : Option Forms :=
  (members.mapM fun (name, value) =>
    match Category.ofName? name, value with
    | some category, Json.text template => some (category, template)
    | _, _ => none).map Forms.ofList

/-- Plural forms from data. -/
def Forms.ofJson? : Json → Option Forms
  | .object members => Forms.ofMembers? members
  | _ => none

/-- A member from data. -/
def Variant.ofJson? : Json → Option Variant
  | .text template => some (.text template)
  | .object members => (Forms.ofMembers? members).map Variant.plural
  | _ => none

/-- A message from data of one of its three shapes. -/
def Value.ofJson? : Json → Option Value
  | .text template => some (.scalar template)
  | .object members => (Forms.ofMembers? members).map Value.plural
  | .array items => (items.mapM Variant.ofJson?).map Value.variants
  | _ => none

end Phrasebook
