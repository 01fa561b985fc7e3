import Phrasebook.Catalogue.Search
import Phrasebook.Filename.Match
import Phrasebook.Resource.Entry
import Phrasebook.Resource.Source
import Phrasebook.Settings.Valid

/-! Searching resource files for messages: by the namespace of a key, or all files at once. -/

namespace Phrasebook

/-- The namespace of a file: the directories that lead to it, and what its name says. -/
def Filename.Format.spaceOf (format : Filename.Format) (path delimiter : String) : String :=
  let named := ((Path.fileName? path).bind format.captures?).bind Filename.Captures.space
  Key.ofSegments (Path.parentNames path ++ named.toList) delimiter

namespace Resource

/-- What stays the same during a search. -/
structure Query where
  format : Filename.Format
  settings : Settings

/-- A step on resource files as a step on the library. -/
def lift {α : Type} (step : Step α) : Lookup Source α := do
  let library ← get
  let (result, state) := Id.run ((ExceptT.run step).run library.state)
  set { library with state }
  match result with
  | .ok value => return value
  | .error error => throw (.load error.message)

namespace Query

/-- Storing the messages of a section for a locale; the answer lists their keys. -/
def store (query : Query) (data : Dict Json) (space locale : String) : Lookup Source (List String) :=
  match entries query.settings.namespaceDelimiter space data.entries with
  | .error error => throw (.load error.message)
  | .ok found => do
    found.forM fun (key, value) => Lookup.add key value locale
    return found.map Prod.fst

/-- The namespace of a file below a load path. -/
def spaceOf (query : Query) (path : String) : String :=
  query.format.spaceOf path query.settings.namespaceDelimiter

/-- Loading the messages of a locale from a file below a load path. -/
def loadFile (query : Query) (base path locale : String) : Lookup Source (List String) := do
  let root := if query.settings.skipLocaleRoot then none else some locale
  let keepRest := ! query.format.has .locale && root.isSome
  let data ← lift (load (Path.join base path) root keepRest query.settings)
  query.store data (query.spaceOf path) locale

/-- Loading the file named after the first segment of a namespace, in a directory below a load path, or
else searching the directory of that name for the other segments. -/
def descend (query : Query) (base locale : String) : String → List String → Lookup Source (List String)
  | path, [] => loadIfFile path "" (pure [])
  | path, segment :: rest =>
    loadIfFile path segment do
      let here := Path.join base path
      if segment ≠ "" ∧ (← get).state.files.isDirectory (Path.join here segment) then
        descend query base locale (Path.join path segment) rest
      else return []
where
  /-- Loading the file named after a segment if there is one. -/
  loadIfFile (path segment : String) (otherwise : Lookup Source (List String)) :
      Lookup Source (List String) := do
    let wanted := query.format.render segment locale query.settings.fileFormat
    if (← get).state.files.isFile (Path.join (Path.join base path) wanted) then
      query.loadFile base (Path.join path wanted) locale
    else otherwise

/-- Loading all locales that a file below a load path has sections for. -/
def loadSections (query : Query) (base path : String) : Lookup Source (List LoadedKey) := do
  let data ← lift (load (Path.join base path) none false query.settings)
  let loaded ← data.entries.mapM fun (locale, value) => do
    match value with
    | .object members =>
      return (← query.store (Json.dictOf members) (query.spaceOf path) locale).map (LoadedKey.mk locale)
    | _ => return []
  return loaded.flatten

/-- Loading a file below a load path if it is a resource file, and of the locale asked for if there is
one. The locale of a file is told by its name, or else is the one asked for; if neither tells it, the
file is divided by locales. -/
def loadMatching (query : Query) (base : String) (locale : Option String) (path : String) :
    Lookup Source (List LoadedKey) := do
  if Path.extension? path ≠ some query.settings.fileFormat then return []
  let some captures := (Path.fileName? path).bind query.format.captures? | return []
  match locale.or captures.locale with
  | some asked =>
    if captures.locale.getD asked = asked then
      return (← query.loadFile base path asked).map (LoadedKey.mk asked)
    else return []
  | none =>
    if query.settings.skipLocaleRoot then
      throw (.load (LoadError.unknownLocales (Path.join base path)).message)
    else query.loadSections base path

/-- Loading all matching files of a directory, in the order of their paths. -/
def loadDirectory (query : Query) (base : String) (locale : Option String) :
    Lookup Source (List LoadedKey) := do
  match (← get).state.files.lookup base with
  | .ok (.directory entries) =>
    let paths := (FileTree.directory entries).files.map fun names => "/".intercalate names
    return (← paths.mapM (query.loadMatching base locale)).flatten
  | _ => return []

end Query

/-- The query that settings make. -/
def query (settings : Settings) : Lookup Source Query :=
  match settings.filename with
  | .ok format => return { format, settings }
  | .error error => throw (.settings error)

/-- Searching resource files. They hold fewer keys than a word can count. -/
def searcher : Searcher Source where
  search key locale settings := do
    let query ← query settings
    let segments := (Key.segments key settings.namespaceDelimiter).dropLast
    return (← settings.loadPath.mapM fun base => query.descend base locale "" segments).flatten
  loadEverything locale settings := do
    let query ← query settings
    return (← settings.loadPath.mapM fun base => query.loadDirectory base locale).flatten
  forget source := { source with remembered := .empty }
  reach _ := UInt64.size

end Resource

end Phrasebook
