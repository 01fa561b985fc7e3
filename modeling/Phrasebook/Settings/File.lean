import Phrasebook.Settings.Json
import Phrasebook.Settings.Toml
import Phrasebook.Settings.Valid
import Phrasebook.Settings.Yaml

/-! Settings kept in files. The extension of a file tells the language it is written in. -/

namespace Phrasebook

/-- The language of the settings file at a path. -/
def FileFormat.ofPath (path : String) : Except SettingsError FileFormat :=
  match Path.extension? path with
  | some "toml" => .ok .toml
  | some "yml" | some "yaml" => .ok .yaml
  | some "json" => .ok .json
  | other => .error (.config (.unsupportedExtension other))

/-- The codec of a language. Of JSON it writes the very text that the library for it does. -/
def FileFormat.codec : FileFormat → Codec
  | .toml => Settings.tomlCodec
  | .yaml => Settings.yamlCodec
  | .json => Settings.jsonCodec

namespace Settings

/-- The settings in a file, which have to be valid, as the codecs read it. -/
def loadWith (codecs : FileFormat → Codec) (files : FileTree) (path : String) : Except SettingsError Settings := do
  let language ← FileFormat.ofPath path
  let content ← (files.readText path).mapError .file
  let some settings := (codecs language).read? content | throw (.malformed (.unread language))
  settings.validate
  return settings

/-- Writing settings to a file, as the codecs write them. -/
def saveWith (codecs : FileFormat → Codec) (files : FileTree) (path : String) (settings : Settings) :
    Except SettingsError FileTree := do
  let language ← FileFormat.ofPath path
  let content ← ((codecs language).write settings.members).mapError fun reason => .malformed (.unwritten reason)
  (files.write path content.toUTF8).mapError .file

/-- The settings in a file. -/
def load (files : FileTree) (path : String) : Except SettingsError Settings :=
  loadWith FileFormat.codec files path

/-- Writing settings to a file. -/
def save (files : FileTree) (path : String) (settings : Settings) : Except SettingsError FileTree :=
  saveWith FileFormat.codec files path settings

end Settings

end Phrasebook
