import Phrasebook.FileTree
import Phrasebook.Filename.Template

/-! What can be wrong with settings, with the files they are kept in, and with the formats they name. -/

namespace Phrasebook

/-- The delimiters of the template grammar. -/
inductive Delimiter where
  | placeholder
  | space
  | argument
deriving DecidableEq, Repr

/-- The name of the setting that holds a delimiter. -/
def Delimiter.settingName : Delimiter → String
  | .placeholder => "placeholder_delimiter"
  | .space => "namespace_delimiter"
  | .argument => "argument_delimiter"

/-- What characters a delimiter may not contain, in words. -/
def Delimiter.restriction : Delimiter → String
  | .placeholder => "braces or word characters"
  | .space => "word characters"
  | .argument => "parentheses or braces"

/-- Why settings are refused. -/
inductive ConfigError where
  | emptyDelimiter (delimiter : Delimiter)
  | forbiddenInDelimiter (delimiter : Delimiter) (text : String)
  | fewThresholdZero
  | emptyLocale
  | unknownSetting (name : String)
  | invalidValue (name value : String)
  | unknownMode (text : String)
  | unsupportedExtension (extension : Option String)
deriving DecidableEq, Repr

/-- The description of an error. -/
def ConfigError.message : ConfigError → String
  | .emptyDelimiter delimiter => delimiter.settingName ++ " cannot be empty"
  | .forbiddenInDelimiter delimiter text =>
    delimiter.settingName ++ " " ++ Text.quoted text ++ " may not contain " ++ delimiter.restriction
  | .fewThresholdZero => "few_threshold must be at least 1"
  | .emptyLocale => "locale cannot be empty"
  | .unknownSetting name => "Invalid setting: " ++ name
  | .invalidValue name value => "invalid value for " ++ name ++ ": " ++ Text.quoted value
  | .unknownMode text => "invalid missing-value mode: " ++ text
  | .unsupportedExtension extension =>
    "unsupported settings file extension: " ++ extension.getD "<none>"

/-- Why a text does not have the format asked of it. -/
inductive FormatError where
  | filename (error : Filename.TemplateError)
  | category (name : String)
deriving DecidableEq, Repr

/-- The description of an error. -/
def FormatError.message : FormatError → String
  | .filename error => error.message
  | .category name => "unknown plural category: " ++ name

/-- The languages that settings files are written in. -/
inductive FileFormat where
  | toml
  | yaml
  | json
deriving DecidableEq, Repr

/-- The name of a language. -/
def FileFormat.name : FileFormat → String
  | .toml => "TOML"
  | .yaml => "YAML"
  | .json => "JSON"

/-- Why settings and a text do not go together. -/
inductive TextError where
  /-- The content of a file does not describe settings. -/
  | unread (language : FileFormat)
  /-- Settings could not be written, for the reason that is given. -/
  | unwritten (reason : String)
deriving DecidableEq, Repr

/-- The description of an error. -/
def TextError.message : TextError → String
  | .unread language => "invalid " ++ language.name
  | .unwritten reason => reason

/-- All that can go wrong with settings. -/
inductive SettingsError where
  | config (error : ConfigError)
  | format (error : FormatError)
  | file (error : FileError)
  | malformed (error : TextError)
deriving DecidableEq, Repr

/-- The description of an error, with its kind in front. -/
def SettingsError.message : SettingsError → String
  | .config error => "Configuration error: " ++ error.message
  | .format error => "Invalid format: " ++ error.message
  | .file error => "I/O error: " ++ error.message
  | .malformed error => "Serialization error: " ++ error.message

end Phrasebook
