import Phrasebook.Key
import Phrasebook.Message.Value
import Phrasebook.Resource.Error

/-! Messages from the data of a resource file. Objects in objects become namespaces; an object with
names of plural categories is a plural message, and an array is a list of variants. -/

namespace Phrasebook.Resource

/-- Whether an object stands for plural forms: it names at least two categories. -/
def isPlural (members : List (String × Json)) : Bool :=
  2 ≤ (Category.all.filter fun category => (Json.member? members category.name).isSome).length

/-- The template that a plain value is. -/
def template (key : String) : Json → Except LoadError String
  | .text text => .ok text
  | .number value => .ok value.render
  | .bool flag => .ok (if flag then "true" else "false")
  | other => .error (.invalidData key (.unsupported other))

/-- Plural forms with one more from a member of an object, if the member names a category. -/
def addForm (key : String) (forms : Forms) : String × Json → Except LoadError Forms
  | (name, value) =>
    match Category.ofName? name with
    | some category => (template key value).map (forms.insert category)
    | none => .ok forms

/-- The plural forms that an object is. -/
def forms (key : String) (members : List (String × Json)) : Except LoadError Forms :=
  members.foldlM (addForm key) {}

/-- The variant that an item of an array is. -/
def variant (key : String) : Json → Except LoadError Variant
  | .object members => (forms key members).map .plural
  | other => (template key other).map .text

mutual

/-- The messages that the data under a key holds. Nothing is no message. -/
def entriesAt (delimiter key : String) : Json → Except LoadError (List (String × Value))
  | .object members =>
    if isPlural members then (forms key members).map fun forms => [(key, .plural forms)]
    else entries delimiter key members
  | .array items => (items.mapM (variant key)).map fun members => [(key, .variants members)]
  | .null => .ok []
  | other => (template key other).map fun text => [(key, .scalar text)]

/-- The messages that an object of a namespace holds, in the order of its members. -/
def entries (delimiter space : String) :
    List (String × Json) → Except LoadError (List (String × Value))
  | [] => .ok []
  | (name, value) :: rest => do
    let here ← entriesAt delimiter (Key.join space name delimiter) value
    let later ← entries delimiter space rest
    return here ++ later

end

end Phrasebook.Resource
