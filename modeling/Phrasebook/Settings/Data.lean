import Phrasebook.Json.Basic
import Phrasebook.Settings.Basic

/-! Settings as data, and settings from data of any kind. -/

namespace Phrasebook

namespace Settings

/-- A text or nothing as data. -/
def optionalJson : Option String → Json
  | some text => .text text
  | none => .null

/-- The settings as an object with a member for each option, in their order. -/
def toJson (s : Settings) : Json :=
  .object [
    ("locale", .text s.locale),
    ("fallback", optionalJson s.fallback),
    ("available_locales", .array (s.availableLocales.map .text)),
    ("load_path", .array (s.loadPath.map .text)),
    ("filename_format", .text s.filenameFormat),
    ("file_format", .text s.fileFormat),
    ("encoding", .text s.encoding),
    ("placeholder_delimiter", .text s.placeholderDelimiter),
    ("namespace_delimiter", .text s.namespaceDelimiter),
    ("argument_delimiter", .text s.argumentDelimiter),
    ("few_threshold", .number (.whole s.fewThreshold)),
    ("skip_locale_root_data", .bool s.skipLocaleRoot),
    ("enable_memoization", .bool s.memoize),
    ("on_missing_translation", .text s.onMissingTranslation.name),
    ("on_missing_placeholder", .text s.onMissingPlaceholder.name),
    ("on_missing_plural", .text s.onMissingPlural.name)]

/-- How the values of options are read from data of some kind. -/
structure Source (α : Type) where
  text? : α → Option String
  /-- A text, or nothing where the data says so. -/
  optional? : α → Option (Option String)
  texts? : α → Option (List String)
  count? : α → Option Nat
  flag? : α → Option Bool
  mode? : α → Option MissingMode

/-- The options by name. -/
def members (settings : Settings) : List (String × Json) :=
  match settings.toJson with
  | .object members => members
  | _ => []

/-- Whether something is said about an option, where nothing cannot be said. -/
def isStated (entry : String × Json) : Bool :=
  match entry.2 with
  | .null => false
  | _ => true

/-- The names of the options, in their order. -/
def optionNames : List String := [
  "locale", "fallback", "available_locales", "load_path", "filename_format", "file_format", "encoding",
  "placeholder_delimiter", "namespace_delimiter", "argument_delimiter", "few_threshold",
  "skip_locale_root_data", "enable_memoization", "on_missing_translation", "on_missing_placeholder",
  "on_missing_plural"]

/-- The option a name stands for: `few_threshold` has a second name. -/
def optionName (name : String) : String :=
  if name = "plural_few" then "few_threshold" else name

variable {α : Type}

/-- The settings with one option read from data; what is no option is passed over. -/
def readOption? (source : Source α) (s : Settings) (name : String) (value : α) : Option Settings :=
  match name with
  | "locale" => (source.text? value).map fun v => { s with locale := v }
  | "fallback" => (source.optional? value).map fun v => { s with fallback := v }
  | "available_locales" => (source.texts? value).map fun v => { s with availableLocales := v }
  | "load_path" => (source.texts? value).map fun v => { s with loadPath := v }
  | "filename_format" => (source.text? value).map fun v => { s with filenameFormat := v }
  | "file_format" => (source.text? value).map fun v => { s with fileFormat := v }
  | "encoding" => (source.text? value).map fun v => { s with encoding := v }
  | "placeholder_delimiter" => (source.text? value).map fun v => { s with placeholderDelimiter := v }
  | "namespace_delimiter" => (source.text? value).map fun v => { s with namespaceDelimiter := v }
  | "argument_delimiter" => (source.text? value).map fun v => { s with argumentDelimiter := v }
  | "few_threshold" => (source.count? value).map fun v => { s with fewThreshold := v }
  | "skip_locale_root_data" => (source.flag? value).map fun v => { s with skipLocaleRoot := v }
  | "enable_memoization" => (source.flag? value).map fun v => { s with memoize := v }
  | "on_missing_translation" => (source.mode? value).map fun v => { s with onMissingTranslation := v }
  | "on_missing_placeholder" => (source.mode? value).map fun v => { s with onMissingPlaceholder := v }
  | "on_missing_plural" => (source.mode? value).map fun v => { s with onMissingPlural := v }
  | _ => some s

/-- Reading options one after the other, each at most once. -/
def readOptions? (source : Source α) : Settings → List (String × α) → Option Settings
  | s, [] => some s
  | s, (name, value) :: rest =>
    let option := optionName name
    if option ∈ optionNames ∧ rest.any (fun entry => optionName entry.1 = option) then none
    else (readOption? source s option value).bind fun s => readOptions? source s rest

/-- The settings that named values change from given ones. -/
def ofMembersOver? (source : Source α) (base : Settings) (members : List (String × α)) : Option Settings :=
  readOptions? source base members

/-- The settings that named values change from the defaults. -/
def ofMembers? (source : Source α) (members : List (String × α)) : Option Settings :=
  ofMembersOver? source {} members

/-- The settings that values in the order of the options change from the defaults. There may be fewer
values than options. -/
def ofItems? (source : Source α) (items : List α) : Option Settings :=
  if optionNames.length < items.length then none else readOptions? source {} (optionNames.zip items)

/-- What a text holds: values by name, or values in the order of the options. -/
inductive Contents (α : Type) where
  | members (members : List (String × α))
  | items (items : List α)

/-- The settings that the contents of a text change from the defaults. -/
def ofContents? (source : Source α) : Contents α → Option Settings
  | .members members => ofMembers? source members
  | .items items => ofItems? source items

/-- The mode of a name, which is spelled exactly. -/
def modeOfName? (name : String) : Option MissingMode :=
  if name = "ignore" then some .ignore else if name = "error" then some .error else none

end Settings

/-- A library for a language that settings are kept in. What it finds in a text are data of its own, from which it gives
the values of options. -/
structure Codec where
  {Held : Type}
  source : Settings.Source Held
  contents? (content : String) : Option (Settings.Contents Held)
  /-- The text of values by name, or a reason why there is none. -/
  write (members : List (String × Json)) : Except String String

/-- The settings that a text describes. -/
def Codec.read? (codec : Codec) (content : String) : Option Settings :=
  (codec.contents? content).bind (Settings.ofContents? codec.source)

end Phrasebook
