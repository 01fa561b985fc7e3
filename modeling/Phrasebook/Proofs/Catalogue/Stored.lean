import Mathlib.Data.List.Perm.Subperm
import Phrasebook.Catalogue.Store
import Phrasebook.Proofs.Dict.Ordered

/-! How many keys a store can hold for a locale, and the order in which it holds them. -/

namespace Phrasebook

namespace Store

variable {store : Store} {locale : String}

/-- The messages of a locale are among those of the store. -/
theorem size_messages_le (store : Store) (locale : String) : (store.messages locale).size ≤ store.size := by
  -- The size of a store is the sum over its locales.
  unfold messages size
  cases found : store.locales.get? locale with
  | none => simp [Dict.empty, Dict.size]
  | some d =>
    -- The locale is one of those that are counted.
    have member := Dict.mem_of_get? found
    generalize store.locales.entries = entries at member
    simp only [Option.getD_some]
    induction entries with
    | nil => cases member
    | cons entry rest ih =>
      simp only [List.foldr_cons]
      rcases List.mem_cons.1 member with rfl | member
      · exact Nat.le_add_right _ _
      · exact Nat.le_trans (ih member) (Nat.le_add_left _ _)

/-- Different keys stored for a locale are no more than the messages in the store. -/
theorem length_le_size {keys : List String} (distinct : keys.Nodup)
    (stored : ∀ key ∈ keys, store.has key locale = true) : keys.length ≤ store.size := by
  -- They are distinct keys of the dictionary of the locale.
  have inside : keys ⊆ (store.messages locale).keys := by
    intro key member
    obtain ⟨value, found⟩ := Option.isSome_iff_exists.1 (stored key member)
    exact List.mem_map.2 ⟨(key, value), Dict.mem_of_get? found, rfl⟩
  have bound := (distinct.subperm inside).length_le
  have size : (store.messages locale).keys.length = (store.messages locale).size := by
    simp [Dict.keys, Dict.size]
  exact Nat.le_trans (size ▸ bound) (size_messages_le store locale)

/-- A key is stored after a message was put in if it was before, or is the one put in. -/
theorem has_add {key other asked : String} {value : Value} :
    (store.add key value locale).has other asked =
      (decide (other = key ∧ asked = locale) || store.has other asked) := by
  -- The message put in takes the place of any other one.
  unfold has
  rw [get?_add]
  split <;> simp [*]

/-- A locale is known after a message was put in if it was before, or is the one that it was put in for. -/
theorem contains_add {key asked : String} {value : Value} :
    (store.add key value locale).locales.contains asked =
      (decide (asked = locale) || store.locales.contains asked) := by
  -- The messages of the locale are put in the place of those it had.
  unfold Dict.contains add
  rw [Dict.get?_insert]
  split <;> simp [*]

/-- A locale with messages is known. -/
theorem contains_of_has {key : String} (there : store.has key locale = true) :
    store.locales.contains locale = true := by
  -- A locale that is not known has no messages.
  unfold has get? messages at there
  unfold Dict.contains
  cases known : store.locales.get? locale with
  | none => simp [known] at there
  | some d => rfl

/-- The locales stand in their order, and so do the messages of each. -/
structure Ordered (store : Store) : Prop where
  locales : store.locales.Ordered
  messages : ∀ entry ∈ store.locales.entries, entry.2.Ordered

namespace Ordered

/-- The store without locales is in order. -/
theorem empty : Store.empty.Ordered :=
  ⟨Dict.ordered_empty, List.forall_mem_nil _⟩

/-- The messages of a locale are in order, also if there are none. -/
theorem messages_of (ordered : store.Ordered) (locale : String) : (store.messages locale).Ordered := by
  unfold Store.messages
  cases known : store.locales.get? locale with
  | none => exact Dict.ordered_empty
  | some d => exact ordered.messages _ (Dict.mem_of_get? known)

/-- A message that is put in finds its place. -/
theorem add (ordered : store.Ordered) (key : String) (value : Value) (locale : String) :
    (store.add key value locale).Ordered where
  locales := ordered.locales.insert locale _
  messages entry member := by
    -- The messages of the locale are changed, and those of all others are as they were.
    rcases Dict.mem_put member with rfl | before
    · exact (ordered.messages_of locale).insert key value
    · exact ordered.messages entry before

/-- Stores in order are the same if they know the same locales and hold the same messages. -/
theorem ext {other : Store} (one : store.Ordered) (two : other.Ordered)
    (known : ∀ locale, store.locales.contains locale = other.locales.contains locale)
    (same : ∀ key locale, store.get? key locale = other.get? key locale) : store = other := by
  have locales : store.locales = other.locales := one.locales.ext two.locales fun locale => by
    -- A locale is known to both or to none, and has the same messages if it is.
    have messages : store.messages locale = other.messages locale :=
      (one.messages_of locale).ext (two.messages_of locale) fun key => same key locale
    have here := known locale
    unfold Store.messages at messages
    unfold Dict.contains at here
    cases first : store.locales.get? locale <;> cases second : other.locales.get? locale <;> simp_all
  cases store
  cases other
  exact congrArg Store.mk locales

end Ordered

/-- A store in order, with the locales of another one. -/
structure Arranged (store other : Store) : Prop where
  ordered : store.Ordered
  known : ∀ locale, store.locales.contains locale = other.locales.contains locale

/-- A message for a known locale changes neither the order nor what is known. -/
theorem Arranged.add {other : Store} (arranged : store.Arranged other) (known : other.locales.contains locale = true)
    (key : String) (value : Value) : (store.add key value locale).Arranged other where
  ordered := arranged.ordered.add key value locale
  known asked := by
    rw [contains_add, arranged.known]
    by_cases here : asked = locale
    · simp [here, known]
    · simp [here]

end Store

end Phrasebook
