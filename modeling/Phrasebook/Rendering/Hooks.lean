import Phrasebook.Message.Argument
import Phrasebook.Message.Value
import Phrasebook.Settings.Basic

/-! What a caller can plug in: functions that placeholders call, and handlers for what is missing. -/

namespace Phrasebook

/-- A function gives the position of one of the arguments written in the placeholder. -/
abbrev Function := Arguments → Argument

/-- Functions by name, for one locale or for all of them. -/
structure Functions where
  everywhere : Dict Function
  localized : Dict (Dict Function)

namespace Functions

/-- No functions. -/
def empty : Functions :=
  ⟨.empty, .empty⟩

/-- The functions with one more, in the stead of one with the same name and locale. -/
def register (functions : Functions) (name : String) (function : Function) : Option String → Functions
  | none => { functions with everywhere := functions.everywhere.insert name function }
  | some locale =>
    let known := (functions.localized.get? locale).getD .empty
    { functions with localized := functions.localized.insert locale (known.insert name function) }

/-- The function of a name, preferably the one for the locale. -/
def lookup? (functions : Functions) (name locale : String) : Option Function :=
  match ((functions.localized.get? locale).getD .empty).get? name with
  | some function => some function
  | none => functions.everywhere.get? name

end Functions

/-- Handlers give the text for what is missing. A message is described by its key, the locale and the
arguments; a placeholder by the key, the locale, the template and its body; a plural form by the key,
the locale, the value and the count. -/
structure Handlers where
  translation : Option (String → String → Arguments → String) := none
  placeholder : Option (String → String → String → String → String) := none
  plural : Option (String → String → Value → Option Int → String) := none

/-- What is done about something missing. -/
inductive Policy (H : Type) where
  | ignore
  | error
  | handler (handle : H)

/-- A handler decides if there is one, and the mode otherwise. -/
def Policy.choose {H : Type} (handler : Option H) (mode : MissingMode) : Policy H :=
  match handler, mode with
  | some handle, _ => .handler handle
  | none, .error => .error
  | none, .ignore => .ignore

end Phrasebook
