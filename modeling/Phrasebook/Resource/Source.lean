import Phrasebook.FileTree
import Phrasebook.Resource.Format
import Phrasebook.Settings.Basic

/-! Reading resource files, and remembering what they hold. -/

namespace Phrasebook.Resource

/-- Files, the formats they are read in, and what is remembered of them by path: the data not yet taken,
or nothing once a file has been used up. -/
structure Source where
  files : FileTree
  formats : Formats
  remembered : Dict (Option (Dict Json)) := .empty

/-- A step that may fail, and that changes the source even if it does. -/
abbrev Step := ExceptT LoadError (StateM Source)

namespace Source

/-- The text of a file in the encoding of a label. -/
def text (source : Source) (path encoding : String) : Except LoadError String := do
  let some charset := Charset.ofLabel? encoding | throw (.read path (.unknownEncoding encoding))
  let bytes ← (source.files.read path).mapError fun error => .read path (.file error)
  match charset.decode? source.formats.decoder bytes with
  | some text => return text
  | none => throw (.read path (.undecodable charset.name))

/-- The data of a file by name. An empty document holds nothing. -/
def read (source : Source) (path encoding : String) : Except LoadError (Dict Json) := do
  let format ← source.formats.get ((Path.extension? path).getD "")
  match ← format (← source.text path encoding) with
  | .object members => return Json.dictOf members
  | .null => return .empty
  | other => throw (.invalidData path (.notMapping other))

/-- The source with data remembered for a path. -/
def remember (source : Source) (path : String) (data : Option (Dict Json)) : Source :=
  { source with remembered := source.remembered.insert path data }

/-- The path that stands for a file, however it is reached. -/
def placeOf (source : Source) (path : String) : String :=
  (source.files.canonical? path).getD path

end Source

/-- The section of a locale in the data of a file: an empty one if there is nothing in it. -/
def sectionAt (place locale : String) (data : Dict Json) : Except LoadError (Dict Json) :=
  match data.get? locale with
  | none | some .null => .ok .empty
  | some (.object members) => .ok (Json.dictOf members)
  | some other => .error (.invalidData place (.sectionNotMapping locale other))

/-- Taking all data of a file, or the section of a locale, and remembering the file if the settings say
so: either what was not taken, or that there is nothing left to take. Data remembered is lost while it
is used, and put back only if the section is not in it. -/
def load (path : String) (locale : Option String) (keepRest : Bool) (settings : Settings) :
    Step (Dict Json) := do
  let source ← get
  let place := source.placeOf path
  let known := source.remembered.get? place
  match known with
  | some none => return .empty
  | _ =>
    let (data, held) ← match known with
      | some (some data) => pure (data, true)
      | _ => match source.read path settings.encoding with
        | .ok data => pure (data, false)
        | .error error => throw error
    if held ∧ data.isEmpty then return .empty
    if held then set (source.remember place (some .empty))
    match locale with
    | none => finish place .empty data
    | some locale =>
      if data.contains locale then
        match sectionAt place locale data with
        | .ok found => finish place (data.erase locale) found
        | .error error => throw error
      else
        if held then set (source.remember place (some data))
        throw (.missingRoot place locale)
where
  /-- Remembering what is left, and giving what was asked for. -/
  finish (place : String) (rest found : Dict Json) : Step (Dict Json) := do
    if settings.memoize then
      modify fun source => source.remember place (if keepRest then some rest else none)
    return found

end Phrasebook.Resource
