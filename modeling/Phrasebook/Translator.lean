import Phrasebook.Catalogue.Expansion
import Phrasebook.Rendering.Variants
import Phrasebook.Settings.Assign

/-! A translator: stored messages, settings, functions and handlers, and a searcher for what is not
stored yet. -/

namespace Phrasebook

/-- A translator with a searcher of some kind of state. -/
structure Translator (σ : Type) where
  library : Library σ
  searcher : Searcher σ
  settings : Settings
  grammar : Grammar
  functions : Functions
  handlers : Handlers

namespace Translator

variable {σ : Type}

/-- A translator without messages, for settings that are valid. -/
def create (searcher : Searcher σ) (state : σ) (settings : Settings) :
    Except SettingsError (Translator σ) :=
  settings.validate.map fun _ =>
    { library := { store := .empty, state }
      searcher
      settings
      grammar := .ofSettings settings
      functions := .empty
      handlers := {} }

/-- Taking a step on the library of a translator. -/
def run {α : Type} (t : Translator σ) (step : Lookup σ α) : Except Error α × Translator σ :=
  let (result, library) := Id.run ((ExceptT.run step).run t.library)
  (result, { t with library })

/-- The expansion of references in a locale. -/
def expansion (t : Translator σ) (locale : String) : Expansion σ :=
  { searcher := t.searcher, settings := t.settings, grammar := t.grammar, locale }

/-- The formatter for a message. -/
def formatter (t : Translator σ) (key locale : String) (arguments : Arguments) : Formatter :=
  { key, locale, arguments, settings := t.settings, grammar := t.grammar, functions := t.functions,
    handlers := t.handlers }

/-- Loading a message that is not stored, and expanding all that was loaded with it. -/
def fetch (t : Translator σ) (key locale : String) : Lookup σ Unit := do
  if ← Lookup.has key locale then return
  let loaded ← t.searcher.search key locale t.settings
  (t.expansion locale).expandKeys loaded

/-- The formatted message of a key in a locale, if there is one after a search. -/
def lookup? (t : Translator σ) (key locale : String) (arguments : Arguments) :
    Lookup σ (Option Translation) := do
  t.fetch key locale
  match (← Lookup.store).get? key locale with
  | none => return none
  | some value =>
    match (t.formatter key locale arguments).format value with
    | .ok translation => return some translation
    | .error error => throw error

/-- The result for a key that has no message, as the policy decides. -/
def missing (t : Translator σ) (key locale : String) (arguments : Arguments) : Except Error Translation :=
  match Policy.choose t.handlers.translation t.settings.onMissingTranslation with
  | .error => .error (.notFound key locale)
  | .handler handle => .ok (.text (handle key locale arguments))
  | .ignore => .ok (.text key)

/-- The locale that is tried when the one asked for has no message. -/
def fallbackFor? (t : Translator σ) (requested : String) : Option String :=
  t.settings.fallback.filter (· ≠ requested)

/-- The formatted message of a key: in the locale asked for, or else in the fallback locale, or else the
default text if there is one, or else what the policy decides for the last locale tried. -/
def resolve (t : Translator σ) (key : String) (locale : Option String) (arguments : Arguments)
    (default : Option String) : Lookup σ Translation := do
  let requested := locale.getD t.settings.locale
  if let some translation ← t.lookup? key requested arguments then return translation
  let fallback := t.fallbackFor? requested
  if let some other := fallback then
    if let some translation ← t.lookup? key other arguments then return translation
  match default with
  | some text => return .text text
  | none =>
    match t.missing key (fallback.getD requested) arguments with
    | .ok translation => return translation
    | .error error => throw error

/-- Translating a key. -/
def translate (t : Translator σ) (key : String) (locale : Option String) (arguments : Arguments) :
    Except Error Translation × Translator σ :=
  t.run (t.resolve key locale arguments none)

/-- Translating a key, with a text for the case that it has no message. -/
def translateOrDefault (t : Translator σ) (key : String) (locale : Option String) (arguments : Arguments)
    (default : String) : Except Error Translation × Translator σ :=
  t.run (t.resolve key locale arguments (some default))

/-- The stored messages. -/
def store (t : Translator σ) : Store :=
  t.library.store

/-- The translator with other stored messages. -/
def withStore (t : Translator σ) (store : Store) : Translator σ :=
  { t with library := { t.library with store } }

/-- Storing a message, for the locale of the settings if no other is given. -/
def addTranslation (t : Translator σ) (key : String) (value : Value) (locale : Option String) :
    Translator σ :=
  t.withStore (t.store.add key value (locale.getD t.settings.locale))

/-- Whether a message is stored, for the locale of the settings if no other is given. -/
def hasTranslation (t : Translator σ) (key : String) (locale : Option String) : Bool :=
  t.store.has key (locale.getD t.settings.locale)

/-- Expanding the references in stored messages. -/
def expandReferences (t : Translator σ) (keys : List String) (locale : String) :
    Except Error Unit × Translator σ :=
  t.run ((t.expansion locale).expandKeys keys)

/-- The keys loaded for each locale, in the order in which they were loaded. -/
def groupByLocale (loaded : List LoadedKey) : Dict (List String) :=
  loaded.foldl (fun groups entry =>
    groups.insert entry.locale ((groups.get? entry.locale).getD [] ++ [entry.key])) .empty

/-- Loading and expanding all messages of a locale, or of all of them; the number of keys loaded. The
locales are expanded in the order of their names. -/
def loadEverything (t : Translator σ) (locale : Option String) : Except Error Nat × Translator σ :=
  t.run do
    let loaded ← t.searcher.loadEverything locale t.settings
    (groupByLocale loaded).entries.forM fun (locale, keys) => (t.expansion locale).expandKeys keys
    return loaded.length

/-- Dropping all messages and what the searcher remembers. -/
def unloadEverything (t : Translator σ) : Translator σ :=
  { t with library := { store := .empty, state := t.searcher.forget t.library.state } }

/-- Loading all messages anew. -/
def reloadEverything (t : Translator σ) : Except Error Nat × Translator σ :=
  t.unloadEverything.loadEverything none

/-- A step that may be refused, and that changes the translator even if it is. -/
abbrev Change (σ : Type) := ExceptT SettingsError (StateM (Translator σ))

/-- Taking a step that changes a translator: whether it was refused, and the translator it leaves. -/
def undergo (t : Translator σ) (change : Change σ Unit) : Except SettingsError Unit × Translator σ :=
  Id.run ((ExceptT.run change).run t)

/-- The translator behind a change, unless it was refused. -/
def changed (t : Translator σ) (change : Change σ Unit) : Except SettingsError (Translator σ) :=
  let (result, after) := t.undergo change
  result.map fun _ => after

/-- Taking up other settings, which have to be valid. The grammar is made anew if they ask for another one. -/
def adopt (settings : Settings) : Change σ Unit := do
  MonadExcept.ofExcept settings.validate
  unless (← get).grammar.suits settings do
    modify fun t => { t with grammar := .ofSettings settings }
  modify fun t => { t with settings }

/-- Setting an option by name. -/
def assign (name value : String) : Change σ Unit := do
  let settings ← MonadExcept.ofExcept ((← get).settings.set name value)
  adopt settings

/-- Changing the settings in any way. -/
def revise (change : Settings → Settings) : Change σ Unit := do
  adopt (change (← get).settings)

/-- The translator with other settings, which have to be valid. -/
def applySettings (t : Translator σ) (settings : Settings) : Except SettingsError (Translator σ) :=
  t.changed (adopt settings)

/-- The translator with an option set by name. -/
def set (t : Translator σ) (name value : String) : Except SettingsError (Translator σ) :=
  t.changed (assign name value)

/-- The translator with settings changed in any way. -/
def updateSettings (t : Translator σ) (change : Settings → Settings) :
    Except SettingsError (Translator σ) :=
  t.changed (revise change)

/-- The translator with one more function. -/
def registerFunction (t : Translator σ) (name : String) (function : Function) (locale : Option String) :
    Translator σ :=
  { t with functions := t.functions.register name function locale }

/-- Dropping all messages, functions and handlers, and going back to the default settings. -/
def startOver : Change σ Unit := do
  modify unloadEverything
  modify fun t => { t with functions := .empty }
  modify fun t => { t with handlers := {} }
  adopt {}

/-- The translator as it was created, with the default settings. -/
def reset (t : Translator σ) : Except SettingsError (Translator σ) :=
  t.changed startOver

end Translator

end Phrasebook
