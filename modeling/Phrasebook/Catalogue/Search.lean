import Phrasebook.Catalogue.Store
import Phrasebook.Settings.Basic

/-! Loading messages when they are needed: what a searcher does to the store, and what it reports. -/

namespace Phrasebook

/-- A key that was loaded for a locale. -/
structure LoadedKey where
  locale : String
  key : String
deriving DecidableEq, Repr

/-- The stored messages together with the state of a searcher. -/
structure Library (σ : Type) where
  store : Store
  state : σ

/-- A step that may fail, and that changes the library even if it does. -/
abbrev Lookup (σ : Type) := ExceptT Error (StateM (Library σ))

/-- A source of messages that are not stored yet. -/
structure Searcher (σ : Type) where
  /-- Looking for the message of a key in a locale. The answer lists the keys stored for the locale. -/
  search (key locale : String) (settings : Settings) : Lookup σ (List String)
  /-- Loading all messages of a locale, or of all of them. -/
  loadEverything (locale : Option String) (settings : Settings) : Lookup σ (List LoadedKey)
  /-- Dropping what is remembered of the sources. -/
  forget : σ → σ
  /-- A bound for the number of keys that searches can add to a locale. -/
  reach : σ → Nat

/-- The searcher that never finds anything. -/
def Searcher.none : Searcher Unit where
  search _ _ _ := pure []
  loadEverything _ _ := pure []
  forget := id
  reach _ := 0

namespace Lookup

variable {σ : Type}

/-- The stored messages. -/
def store : Lookup σ Store :=
  return (← get).store

/-- Putting a message into the store. -/
def add (key : String) (value : Value) (locale : String) : Lookup σ Unit :=
  modify fun library => { library with store := library.store.add key value locale }

/-- Whether a message is stored. -/
def has (key locale : String) : Lookup σ Bool :=
  return (← store).has key locale

/-- The stored message, which has to be there. -/
def stored (key locale : String) : Lookup σ Value := do
  match (← store).get key locale with
  | .ok value => return value
  | .error error => throw error

end Lookup

end Phrasebook
