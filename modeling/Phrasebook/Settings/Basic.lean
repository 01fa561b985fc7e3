/-! The settings of a translator and their defaults. -/

namespace Phrasebook

/-- What is done about something missing: it is passed over, or it is an error. -/
inductive MissingMode where
  | ignore
  | error
deriving DecidableEq, Repr

/-- The name of a mode. -/
def MissingMode.name : MissingMode → String
  | .ignore => "ignore"
  | .error => "error"

/-- The settings. -/
structure Settings where
  /-- The locale used when none is asked for. -/
  locale : String := "en"
  /-- The locale tried when the one asked for has no message. -/
  fallback : Option String := some "en"
  availableLocales : List String := ["en"]
  /-- The directories in which resource files are looked for. -/
  loadPath : List String := []
  filenameFormat : String := "\x7bnamespace\x7d.\x7blocale\x7d.\x7bformat\x7d"
  fileFormat : String := "yml"
  encoding : String := "utf-8"
  placeholderDelimiter : String := "%"
  namespaceDelimiter : String := "."
  argumentDelimiter : String := "|"
  /-- The greatest count that is a few. -/
  fewThreshold : Nat := 5
  /-- Whether the data of a file is not divided by locales. -/
  skipLocaleRoot : Bool := false
  /-- Whether files are read only once. -/
  memoize : Bool := false
  onMissingTranslation : MissingMode := .ignore
  onMissingPlaceholder : MissingMode := .ignore
  onMissingPlural : MissingMode := .ignore
deriving DecidableEq, Repr

end Phrasebook
