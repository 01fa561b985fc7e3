import Phrasebook.Path
import Phrasebook.Decimal.Reading
import Phrasebook.Message.Category
import Phrasebook.Settings.Valid

/-! Setting an option by its name to a value given as text. -/

namespace Phrasebook

/-- The mode a text names. No text at all and `none` stand for ignoring. -/
def MissingMode.parse (text : String) : Except SettingsError MissingMode :=
  if text = "" ∨ text = "ignore" ∨ text = "none" then .ok .ignore
  else if text = "error" then .ok .error
  else .error (.config (.unknownMode text))

namespace Settings

/-- The text without the blanks around it. -/
def trimmed (value : String) : List Char :=
  Text.trim value.toList

/-- The pieces between commas that are not blank, without the blanks around them. -/
def localeList (value : String) : List String :=
  (((Text.splitOn [','] value.toList).map Text.trim).filter fun piece => ! piece.isEmpty).map String.ofList

/-- The flag a text spells between blanks, for the setting of the given name. -/
def parseFlag (name value : String) : Except SettingsError Bool :=
  if trimmed value = "true".toList then .ok true
  else if trimmed value = "false".toList then .ok false
  else .error (.config (.invalidValue name value))

/-- The count a text spells between blanks, for the setting of the given name. -/
def parseCount (name value : String) : Except SettingsError Nat :=
  match Decimal.unsigned32? (trimmed value) with
  | some count => .ok count
  | none => .error (.config (.invalidValue name value))

/-- The locale a text names, if it names one. -/
def optionalLocale (value : String) : Option String :=
  if value = "" ∨ value = "none" then none else some value

/-- A template of file names, which has to be one that can be read. -/
def parseFilename (value : String) : Except SettingsError String :=
  match Filename.compile value with
  | .ok _ => .ok value
  | .error error => .error (.format (.filename error))

/-- A step that may be refused, and that changes the settings even if it is. -/
abbrev Change := ExceptT SettingsError (StateM Settings)

/-- Taking a step that changes settings: whether it was refused, and the settings it leaves. -/
def undergo (settings : Settings) (change : Change Unit) : Except SettingsError Unit × Settings :=
  Id.run ((ExceptT.run change).run settings)

/-- Setting the option of a name to what a text says. -/
def assign (name value : String) : Change Unit :=
  match name with
  | "locale" => modify fun settings => { settings with locale := value }
  | "fallback" => modify fun settings => { settings with fallback := optionalLocale value }
  | "available_locales" => modify fun settings => { settings with availableLocales := localeList value }
  | "load_path" => modify fun settings => { settings with loadPath := Path.splitList value }
  | "filename_format" => do
    let template ← MonadExcept.ofExcept (parseFilename value)
    modify fun settings => { settings with filenameFormat := template }
  | "file_format" => modify fun settings => { settings with fileFormat := value }
  | "encoding" => modify fun settings => { settings with encoding := value }
  | "placeholder_delimiter" => modify fun settings => { settings with placeholderDelimiter := value }
  | "namespace_delimiter" => modify fun settings => { settings with namespaceDelimiter := value }
  | "argument_delimiter" => modify fun settings => { settings with argumentDelimiter := value }
  | "few_threshold" | "plural_few" => do
    let count ← MonadExcept.ofExcept (parseCount name value)
    modify fun settings => { settings with fewThreshold := count }
  | "skip_locale_root_data" => do
    let flag ← MonadExcept.ofExcept (parseFlag name value)
    modify fun settings => { settings with skipLocaleRoot := flag }
  | "enable_memoization" => do
    let flag ← MonadExcept.ofExcept (parseFlag name value)
    modify fun settings => { settings with memoize := flag }
  | "on_missing_translation" => do
    let mode ← MonadExcept.ofExcept (MissingMode.parse value)
    modify fun settings => { settings with onMissingTranslation := mode }
  | "on_missing_placeholder" => do
    let mode ← MonadExcept.ofExcept (MissingMode.parse value)
    modify fun settings => { settings with onMissingPlaceholder := mode }
  | "on_missing_plural" => do
    let mode ← MonadExcept.ofExcept (MissingMode.parse value)
    modify fun settings => { settings with onMissingPlural := mode }
  | _ => throw (.config (.unknownSetting name))

/-- The settings with the option of a name set to what a text says. -/
def set (settings : Settings) (name value : String) : Except SettingsError Settings :=
  let (result, after) := settings.undergo (assign name value)
  result.map fun _ => after

/-- Whether settings are the same. Paths are if their components are, however they are written. -/
def sameAs (a b : Settings) : Bool :=
  { a with loadPath := b.loadPath } == b && a.loadPath.map Path.components == b.loadPath.map Path.components

end Settings

/-- The category of a name, or the error that says there is none. -/
def Category.parse (name : String) : Except SettingsError Category :=
  match ofName? name with
  | some category => .ok category
  | none => .error (.format (.category name))

end Phrasebook
