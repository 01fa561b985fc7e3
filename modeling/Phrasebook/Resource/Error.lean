import Phrasebook.Json.Printer
import Phrasebook.Settings.Error

/-! What can go wrong with resource files. -/

namespace Phrasebook

/-- Why the text of a file is not to be had. -/
inductive ReadFault where
  | unknownEncoding (label : String)
  | file (error : FileError)
  /-- Some bytes stand for nothing in a character set of this name. -/
  | undecodable (charset : String)
deriving DecidableEq, Repr

/-- The description of a fault. -/
def ReadFault.message : ReadFault → String
  | .unknownEncoding label => "unknown encoding " ++ label
  | .file error => error.message
  | .undecodable charset => "invalid " ++ charset ++ " data"

/-- How data differs from what is expected of it. -/
inductive DataFault where
  /-- The data of a file is not an object. -/
  | notMapping (found : Json)
  /-- The section of a locale is not an object. -/
  | sectionNotMapping (locale : String) (found : Json)
  /-- A value that no template can be made of. -/
  | unsupported (value : Json)
  /-- A text that says by itself what is wrong. -/
  | stated (text : String)

/-- The description of a fault. -/
def DataFault.message : DataFault → String
  | .notMapping found => "expected a mapping, found " ++ found.render
  | .sectionNotMapping locale found => locale ++ " is not a mapping but " ++ found.render
  | .unsupported value => "unsupported value " ++ value.render
  | .stated text => text

/-- Why resources cannot be loaded. -/
inductive LoadError where
  | noFormat (extension : String)
  | read (path : String) (fault : ReadFault)
  | missingRoot (path locale : String)
  /-- The data of a file, or under a key, does not have the expected shape. -/
  | invalidData (place : String) (fault : DataFault)
  /-- The content of a file does not follow the rules of its language. -/
  | malformed (language : FileFormat)
  | unknownLocales (path : String)

/-- The description of an error. -/
def LoadError.message : LoadError → String
  | .noFormat extension => "no loader available for extension " ++ extension
  | .read path fault => "error loading file " ++ path ++ ": " ++ fault.message
  | .missingRoot path locale => "error getting data from " ++ path ++ ": " ++ locale ++ " not defined"
  | .invalidData place fault => "error getting data from " ++ place ++ ": " ++ fault.message
  | .malformed language => "invalid " ++ language.name
  | .unknownLocales path =>
    "Cannot identify locales for " ++ Text.quoted path ++
      ": filename_format doesn't include locale and skip_locale_root_data is set to True"

end Phrasebook
