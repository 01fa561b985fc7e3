import Phrasebook.Settings.Basic
import Phrasebook.Settings.Error

/-! Which settings give a usable grammar. -/

namespace Phrasebook.Settings

/-- The text of a delimiter. -/
def delimiter (settings : Settings) : Delimiter → String
  | .placeholder => settings.placeholderDelimiter
  | .space => settings.namespaceDelimiter
  | .argument => settings.argumentDelimiter

/-- The characters that would make a delimiter part of a name, or of the brackets of a placeholder. -/
def forbids : Delimiter → Char → Bool
  | .placeholder, c => c == '\x7b' || c == '\x7d' || Unicode.isAlphanumeric c || c == '_'
  | .space, c => Unicode.isAlphanumeric c || c == '_'
  | .argument, c => c == '(' || c == ')' || c == '\x7b' || c == '\x7d'

/-- The file name template of the settings. -/
def filename (settings : Settings) : Except SettingsError Filename.Format :=
  (Filename.compile settings.filenameFormat).mapError fun error => .format (.filename error)

/-- The first thing wrong with settings, if there is one. All delimiters are checked for being empty
before any is checked for its characters. -/
def validate (settings : Settings) : Except SettingsError Unit := do
  let delimiters : List Delimiter := [.placeholder, .space, .argument]
  delimiters.forM fun delimiter =>
    if (settings.delimiter delimiter).isEmpty then throw (.config (.emptyDelimiter delimiter))
    else pure ()
  delimiters.forM fun delimiter =>
    let text := settings.delimiter delimiter
    if text.toList.any (forbids delimiter) then
      throw (.config (.forbiddenInDelimiter delimiter text))
    else pure ()
  if settings.fewThreshold = 0 then throw (.config .fewThresholdZero)
  if settings.locale.isEmpty then throw (.config .emptyLocale)
  let _ ← settings.filename

end Phrasebook.Settings
