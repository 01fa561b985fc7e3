import Phrasebook.Error
import Phrasebook.Message.Value

/-! The messages held in memory, by locale and key. -/

namespace Phrasebook

/-- Messages by locale, then by key. A locale that lost its messages is still known. -/
structure Store where
  locales : Dict (Dict Value)
deriving DecidableEq, Repr

namespace Store

/-- The store without locales. -/
def empty : Store :=
  ⟨.empty⟩

/-- The messages of a locale, by key. -/
def messages (store : Store) (locale : String) : Dict Value :=
  (store.locales.get? locale).getD .empty

/-- The message stored for a key and a locale. -/
def get? (store : Store) (key locale : String) : Option Value :=
  (store.messages locale).get? key

/-- Whether a message is stored for a key and a locale. -/
def has (store : Store) (key locale : String) : Bool :=
  (store.get? key locale).isSome

/-- The message stored for a key and a locale, or the error that says there is none. -/
def get (store : Store) (key locale : String) : Except Error Value :=
  match store.get? key locale with
  | some value => .ok value
  | none => .error (.notStored key locale)

/-- The store with a message put in for a key and a locale, in the stead of the one there. -/
def add (store : Store) (key : String) (value : Value) (locale : String) : Store :=
  ⟨store.locales.insert locale ((store.messages locale).insert key value)⟩

/-- The store without the messages of a locale, or without anything. -/
def clear (store : Store) : Option String → Store
  | none => empty
  | some locale =>
    if store.locales.contains locale then ⟨store.locales.insert locale .empty⟩ else store

/-- The number of messages of all locales. -/
def size (store : Store) : Nat :=
  store.locales.entries.foldr (fun entry count => entry.2.size + count) 0

/-- Whether no messages are stored. -/
def isEmpty (store : Store) : Bool :=
  store.size = 0

/-- A message added is found under its key in its locale, and all other messages are found as before. -/
@[simp] theorem get?_add (store : Store) (key other : String) (value : Value) (locale asked : String) :
    (store.add key value locale).get? other asked =
      if other = key ∧ asked = locale then some value else store.get? other asked := by
  -- Only the dictionary of the locale is replaced, and in it only the entry of the key.
  by_cases here : asked = locale <;> by_cases same : other = key <;>
    simp [add, get?, messages, here, same]

end Store

end Phrasebook
