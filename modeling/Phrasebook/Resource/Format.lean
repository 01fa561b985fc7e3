import Phrasebook.Charset.Decode
import Phrasebook.Json.Reader
import Phrasebook.Resource.Lines
import Phrasebook.Yaml.Data

/-! The formats of resource files, by the extensions of the files, and how their bytes are decoded. -/

namespace Phrasebook.Resource

/-- Data from the content of a file, with the members of objects in the order of their names. -/
abbrev Format := String → Except LoadError Json

/-- JSON text. -/
def jsonFormat : Format := fun content =>
  match Json.read? content with
  | some data => .ok data
  | none => .error (.malformed .json)

/-- YAML text. -/
def yamlFormat : Format := fun content =>
  match Yaml.read? content with
  | some data => .ok data
  | none => .error (.malformed .yaml)

/-- Formats by extension, with a decoder for the character sets of which no tables are kept. -/
structure Formats where
  byExtension : Dict Format
  decoder : Charset.Decoder := Charset.asciiDecoder

namespace Formats

/-- No formats. -/
def empty : Formats :=
  { byExtension := .empty }

/-- The formats with one for some extensions, in the stead of those there. -/
def register (formats : Formats) (format : Format) (extensions : List String) : Formats :=
  { formats with
    byExtension := extensions.foldl (fun known extension => known.insert extension format) formats.byExtension }

/-- The formats known by themselves. -/
def standard : Formats :=
  (empty.register jsonFormat ["json"]).register yamlFormat ["yml", "yaml"]

/-- The format of an extension. -/
def get (formats : Formats) (extension : String) : Except LoadError Format :=
  match formats.byExtension.get? extension with
  | some format => .ok format
  | none => .error (.noFormat extension)

/-- The extensions that have a format, in order. -/
def extensions (formats : Formats) : List String :=
  formats.byExtension.keys

end Formats

end Phrasebook.Resource
