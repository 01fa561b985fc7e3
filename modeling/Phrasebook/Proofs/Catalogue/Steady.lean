import Mathlib.Data.List.Induction
import Phrasebook.Catalogue.Table
import Phrasebook.Proofs.Catalogue.Lockstep
import Phrasebook.Proofs.Catalogue.Offline

/-! Searchers that find the same for a key whenever they are asked, and what searching again does to the stored
messages. -/

namespace Phrasebook

namespace Store

variable {store other : Store} {entries : List (String × Value)} {key locale asked : String}

/-- The store with messages put in for a locale, one after the other. -/
def putAll (store : Store) (entries : List (String × Value)) (locale : String) : Store :=
  entries.foldl (fun store entry => store.add entry.1 entry.2 locale) store

/-- The last message for a key among those that are put in. -/
def lastOf? (entries : List (String × Value)) (key : String) : Option Value :=
  (entries.reverse.find? fun entry => entry.1 = key).map Prod.snd

/-- There is a last message for the keys of those that are put in. -/
theorem lastOf?_eq_none_iff : lastOf? entries key = none ↔ key ∉ entries.map Prod.fst := by
  -- The last entry of a key is the first one from behind.
  rw [lastOf?, Option.map_eq_none_iff, List.find?_eq_none]
  constructor
  · intro none member
    obtain ⟨entry, inside, rfl⟩ := List.mem_map.1 member
    simpa using none entry (List.mem_reverse.2 inside)
  · intro absent entry inside same
    exact absent (List.mem_map.2 ⟨entry, List.mem_reverse.1 inside, by simpa using same⟩)

/-- The last message put in for a key is found, and all other messages are found as before. -/
theorem get?_putAll (store : Store) (entries : List (String × Value)) (key locale asked : String) :
    (store.putAll entries locale).get? key asked =
      if asked = locale then (lastOf? entries key).or (store.get? key asked) else store.get? key asked := by
  -- The induction takes the messages off the end.
  induction entries using List.reverseRecOn with
  | nil => simp [putAll, lastOf?]
  | append_singleton rest entry ih =>
    have last : store.putAll (rest ++ [entry]) locale = (store.putAll rest locale).add entry.1 entry.2 locale := by
      simp [putAll]
    rw [last, get?_add, ih]
    by_cases same : entry.1 = key
    · by_cases here : asked = locale <;> simp [lastOf?, same, here]
    · simp [lastOf?, same, Ne.symm same]

/-- A key is stored after messages were put in if it was before, or is one of theirs. -/
theorem has_putAll : (store.putAll entries locale).has key locale =
    (decide (key ∈ entries.map Prod.fst) || store.has key locale) := by
  -- What is put in last decides, if there is an entry of the key at all.
  rw [has, get?_putAll, if_pos rfl]
  by_cases member : key ∈ entries.map Prod.fst
  · obtain ⟨value, last⟩ := Option.ne_none_iff_exists'.1 fun none => lastOf?_eq_none_iff.1 none member
    simp [last, member]
  · simp [lastOf?_eq_none_iff.2 member, member, has]

/-- A key that nothing is put in for has the message that it had. -/
theorem get?_putAll_of_not_mem (absent : key ∉ entries.map Prod.fst) :
    (store.putAll entries locale).get? key asked = store.get? key asked := by
  rw [get?_putAll, lastOf?_eq_none_iff.2 absent, Option.none_or, ite_self]

/-- What is put in is stored. -/
theorem has_putAll_of_mem (member : key ∈ entries.map Prod.fst) :
    (store.putAll entries locale).has key locale = true := by
  rw [has_putAll, decide_eq_true member, Bool.true_or]

/-- What is put in does not say whether a key that is not among it is stored. -/
theorem has_putAll_of_not_mem (absent : key ∉ entries.map Prod.fst) :
    (store.putAll entries locale).has key locale = store.has key locale := by
  rw [has_putAll, decide_eq_false absent, Bool.false_or]

/-- Stores with the same messages of a locale have the same keys there. -/
theorem has_congr {other : Store} (same : ∀ key, store.get? key locale = other.get? key locale) (key : String) :
    store.has key locale = other.has key locale := by
  rw [has, same, has]

/-- A message that is put in is the same in whatever store. -/
theorem get?_putAll_of_mem (store other : Store) (member : key ∈ entries.map Prod.fst) :
    (store.putAll entries locale).get? key locale = (other.putAll entries locale).get? key locale := by
  obtain ⟨value, last⟩ := Option.ne_none_iff_exists'.1 fun none => lastOf?_eq_none_iff.1 none member
  simp [get?_putAll, last]

/-- Messages that are put in find their places. -/
theorem Ordered.putAll (ordered : store.Ordered) (entries : List (String × Value)) (locale : String) :
    (store.putAll entries locale).Ordered := by
  -- Message by message.
  induction entries generalizing store with
  | nil => exact ordered
  | cons entry rest ih => exact ih (ordered.add entry.1 entry.2 locale)

/-- Messages for a known locale change neither the order nor what is known. -/
theorem Arranged.putAll (arranged : store.Arranged other) (known : other.locales.contains locale = true)
    (entries : List (String × Value)) : (store.putAll entries locale).Arranged other := by
  -- Message by message.
  induction entries generalizing store with
  | nil => exact arranged
  | cons entry rest ih => exact ih (arranged.add known entry.1 entry.2)

end Store

/-- What a search finds: the messages that it stores, and the error that ends it if it fails behind them. -/
structure Finding where
  entries : List (String × Value)
  error : Option Error := none
deriving DecidableEq

namespace Finding

/-- The keys of the messages, in the order in which they are stored. -/
def keys (finding : Finding) : List String :=
  finding.entries.map Prod.fst

/-- What the search answers. -/
def answer (finding : Finding) : Except Error (List String) :=
  match finding.error with
  | none => .ok finding.keys
  | some error => .error error

end Finding

/-- A searcher finds the same for a key whenever it is asked, stores it for the locale asked for, and reports all of
it. -/
def Searcher.Steady {σ : Type} (searcher : Searcher σ) (settings : Settings) (valid : σ → Prop)
    (finds : String → String → Finding) : Prop :=
  ∀ key locale library, valid library.state → ∃ state, valid state ∧
    (searcher.search key locale settings).outcome library =
      ((finds key locale).answer, ⟨library.store.putAll (finds key locale).entries locale, state⟩)

namespace Table

/-- What is found in rows. -/
def found : List TableRow → Finding
  | [] => { entries := [] }
  | row :: rest =>
    match row.fail with
    | some message => { entries := [], error := some (.load message) }
    | none => { found rest with entries := (row.key, row.value) :: (found rest).entries }

/-- What is found in rows by a search. -/
def finds (rows : List TableRow) (key locale : String) : Finding :=
  found (rows.filter fun row => row.locale = locale ∧ row.on.getD row.key = key)

/-- Rows of a locale that are all reported are stored as they are found. -/
theorem storeRows_outcome {locale : String} {rows : List TableRow} (same : ∀ row ∈ rows, row.locale = locale)
    (reported : ∀ row ∈ rows, row.quiet = false) (library : Library Table) :
    ∃ loaded, (storeRows rows).outcome library =
        (loaded, ⟨library.store.putAll (found rows).entries locale, library.state⟩) ∧
      loaded.map (List.map LoadedKey.key) = (found rows).answer := by
  -- Every row is stored before the next one is looked at.
  induction rows generalizing library with
  | nil => exact ⟨.ok [], rfl, rfl⟩
  | cons row rest ih =>
    rw [storeRows, found]
    cases row.fail with
    | some message => exact ⟨.error (.load message), rfl, rfl⟩
    | none =>
      have asked : row.locale = locale := same row (by simp)
      have listed : row.quiet = false := reported row (by simp)
      obtain ⟨loaded, ends, answers⟩ := ih (fun other member => same other (by simp [member]))
        (fun other member => reported other (by simp [member]))
        { library with store := library.store.add row.key row.value locale }
      refine ⟨loaded.map fun others => ⟨locale, row.key⟩ :: others, ?_, ?_⟩
      · rw [Lookup.outcome_bind, asked, listed]
        change (storeRows rest >>= _).outcome _ = _
        rw [Lookup.outcome_bind, ends]
        cases loaded <;> rfl
      · -- The key of the row stands in front of those of the others.
        generalize found rest = finding at answers
        obtain ⟨entries, error⟩ := finding
        cases loaded <;> cases error <;> simp_all [Finding.answer, Finding.keys, Except.map]

/-- A table whose rows are all reported is steady. -/
theorem searcher_steady {rows : List TableRow} (reported : ∀ row ∈ rows, row.quiet = false) (settings : Settings) :
    searcher.Steady settings (fun table => table.rows = rows) (finds rows) := by
  intro key locale library same
  obtain rfl : library.state.rows = rows := same
  have asked : ∀ row ∈ library.state.rows.filter fun row => row.locale = locale ∧ row.on.getD row.key = key,
      row.locale = locale := by
    intro row member
    have chosen := (List.mem_filter.1 member).2
    simp only [decide_eq_true_eq] at chosen
    exact chosen.1
  -- A search is noted in the record of the table, and changes nothing else of it.
  let state := { library.state with record := (locale ++ ":" ++ key) :: library.state.record }
  obtain ⟨loaded, ends, answers⟩ := storeRows_outcome asked
    (fun row member => reported row (List.mem_of_mem_filter member)) ⟨library.store, state⟩
  refine ⟨state, rfl, ?_⟩
  change (storeRows _ >>= fun loaded => pure (loaded.map LoadedKey.key)).outcome ⟨library.store, state⟩ = _
  rw [Lookup.outcome_bind, ends, finds, ← answers]
  cases loaded <;> rfl

end Table

end Phrasebook
