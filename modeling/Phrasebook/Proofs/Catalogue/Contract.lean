import Phrasebook.Catalogue.Table
import Phrasebook.Proofs.Catalogue.Outcome
import Phrasebook.Proofs.Catalogue.Stored

/-! What searches promise: they only add messages, and report the keys that they stored for the locale
asked for. Tables whose rows are all reported keep the promise. -/

namespace Phrasebook

/-- What a search does to a store: every key stays stored, the reported keys are stored with fit messages,
and of the locale asked for no other message changes. -/
structure Store.Brings (before : Store) (locale : String) (fit : Value → Prop) (loaded : List String)
    (after : Store) : Prop where
  kept : ∀ key asked, before.has key asked = true → after.has key asked = true
  stored : ∀ key ∈ loaded, after.has key locale = true
  fits : ∀ key ∈ loaded, ∀ value, after.get? key locale = some value → fit value
  rest : ∀ key, key ∉ loaded → after.get? key locale = before.get? key locale

/-- A searcher keeps its promise for a locale, in all states that it can be in. -/
def Searcher.Contract {σ : Type} (searcher : Searcher σ) (settings : Settings) (locale : String)
    (valid : σ → Prop) (fit : Value → Prop) : Prop :=
  ∀ key library, valid library.state →
    (searcher.search key locale settings).Meets library
      (fun loaded left => valid left.state ∧ library.store.Brings locale fit loaded left.store)
      (fun _ _ => True)

namespace Store.Brings

variable {before after : Store} {locale key : String} {fit : Value → Prop} {loaded : List String}

/-- A search that brings nothing leaves the store as it is. -/
theorem nil (before : Store) (locale : String) (fit : Value → Prop) : Brings before locale fit [] before where
  -- Nothing is reported, and nothing has changed.
  kept _ _ := id
  stored _ member := absurd member List.not_mem_nil
  fits _ member := absurd member List.not_mem_nil
  rest _ _ := rfl

/-- A message put in and reported before others are brought. -/
theorem cons {value : Value} (others : Brings (before.add key value locale) locale fit loaded after)
    (isFit : fit value) : Brings before locale fit (key :: loaded) after where
  kept other asked there := others.kept other asked (by simp [has_add, there])
  stored other member := by
    rcases List.mem_cons.1 member with rfl | member
    · exact others.kept other locale (by simp [has_add])
    · exact others.stored other member
  fits other member held stored := by
    by_cases again : other ∈ loaded
    · exact others.fits other again held stored
    · -- The message has not been replaced since.
      obtain rfl := (List.mem_cons.1 member).resolve_right again
      rw [others.rest other again, get?_add, if_pos ⟨rfl, rfl⟩] at stored
      exact Option.some.inj stored ▸ isFit
  rest other absent := by
    simp only [List.mem_cons, not_or] at absent
    rw [others.rest other absent.2, get?_add, if_neg fun both => absent.1 both.1]

end Store.Brings

/-- The searcher that never finds anything keeps its promise. -/
theorem Searcher.none_contract (settings : Settings) (locale : String) (fit : Value → Prop) :
    Searcher.none.Contract settings locale (fun _ => True) fit :=
  fun _ library _ => Lookup.Meets.pure ⟨trivial, .nil library.store locale fit⟩

namespace Table

/-- All rows of a table are reported and hold fit messages. -/
def Fair (fit : Value → Prop) (table : Table) : Prop :=
  ∀ row ∈ table.rows, row.quiet = false ∧ fit row.value

/-- Storing rows of a locale adds their messages and reports their keys. -/
theorem storeRows_meets (fit : Value → Prop) (locale : String) {rows : List TableRow}
    (fair : ∀ row ∈ rows, row.quiet = false ∧ fit row.value) (same : ∀ row ∈ rows, row.locale = locale)
    (library : Library Table) :
    (storeRows rows).Meets library
      (fun loaded left => left.state = library.state ∧
        library.store.Brings locale fit (loaded.map LoadedKey.key) left.store)
      (fun _ _ => True) := by
  -- The induction is on the rows; each of them is stored before those behind it.
  induction rows generalizing library with
  | nil => exact Lookup.Meets.pure ⟨rfl, .nil library.store locale fit⟩
  | cons row rest ih =>
    rw [storeRows]
    cases row.fail with
    | some message => exact Lookup.Meets.throw trivial
    | none =>
      obtain ⟨reported, isFit⟩ := fair row (by simp)
      have asked : row.locale = locale := same row (by simp)
      rw [asked]
      refine Lookup.Meets.bind (Lookup.Meets.add (Lookup.Meets.bind ?_))
      refine (ih (fun other member => fair other (by simp [member]))
        (fun other member => same other (by simp [member])) _).mono ?_ fun _ _ _ => trivial
      intro loaded left ends
      obtain ⟨state, brings⟩ := ends
      rw [reported]
      exact Lookup.Meets.pure ⟨state, brings.cons isFit⟩

/-- What storing rows of a table does to a store: every key stays stored, and no others come in than those of the rows.
-/
structure Takes (rows : List TableRow) (before after : Store) : Prop where
  kept : ∀ key asked, before.has key asked = true → after.has key asked = true
  only : ∀ key asked, after.has key asked = true →
    before.has key asked = true ∨ ∃ row ∈ rows, row.key = key ∧ row.locale = asked

/-- A row is stored before the others are. -/
theorem Takes.cons {row : TableRow} {rest : List TableRow} {before after : Store}
    (others : Takes rest (before.add row.key row.value row.locale) after) : Takes (row :: rest) before after where
  kept key asked there := others.kept key asked (by simp [Store.has_add, there])
  only key asked there := by
    -- What is stored in the end was so behind the first row, or comes from one of the others.
    rcases others.only key asked there with stored | ⟨other, member, same⟩
    · rw [Store.has_add, Bool.or_eq_true, decide_eq_true_eq] at stored
      rcases stored with ⟨rfl, rfl⟩ | stored
      · exact .inr ⟨row, List.mem_cons_self, rfl, rfl⟩
      · exact .inl stored
    · exact .inr ⟨other, List.mem_cons_of_mem _ member, same⟩

/-- Storing rows, whether it succeeds or fails, leaves the table alone and takes in only rows; what it reports is
stored, in the locale of a row, and a failure is one that is written in a row. -/
theorem storeRows_takes (rows : List TableRow) (library : Library Table) :
    (storeRows rows).Meets library
      (fun loaded left => (left.state = library.state ∧ Takes rows library.store left.store) ∧
        ∀ entry ∈ loaded, left.store.has entry.key entry.locale = true ∧ ∃ row ∈ rows, row.locale = entry.locale)
      (fun error left => (left.state = library.state ∧ Takes rows library.store left.store) ∧
        ∃ message, error = .load message) := by
  -- The induction is on the rows; what one of them stores is there when those behind it are stored.
  induction rows generalizing library with
  | nil => exact Lookup.Meets.pure ⟨⟨rfl, fun _ _ => id, fun _ _ => .inl⟩, by simp⟩
  | cons row rest ih =>
    rw [storeRows]
    cases row.fail with
    | some message => exact Lookup.Meets.throw ⟨⟨rfl, fun _ _ => id, fun _ _ => .inl⟩, message, rfl⟩
    | none =>
      refine Lookup.Meets.bind (Lookup.Meets.add (Lookup.Meets.bind ?_))
      refine (ih _).mono (fun loaded left ends => ?_) fun _ left ends => ⟨⟨ends.1.1, ends.1.2.cons⟩, ends.2⟩
      obtain ⟨⟨state, takes⟩, reported⟩ := ends
      refine Lookup.Meets.pure ⟨⟨state, takes.cons⟩, fun entry member => ?_⟩
      have behind (inside : entry ∈ loaded) :
          left.store.has entry.key entry.locale = true ∧ ∃ other ∈ row :: rest, other.locale = entry.locale := by
        obtain ⟨there, other, member, same⟩ := reported entry inside
        exact ⟨there, other, List.mem_cons_of_mem _ member, same⟩
      split at member
      · exact behind member
      · rcases List.mem_cons.1 member with rfl | inside
        · exact ⟨takes.kept _ _ (by simp [Store.has_add]), row, List.mem_cons_self, rfl⟩
        · exact behind inside

/-- A search leaves the rows of a table alone and takes in only such rows; what it reports is stored for the locale, and
a failure is one that is written in a row. -/
theorem search_takes (key locale : String) (settings : Settings) (library : Library Table) :
    (searcher.search key locale settings).Meets library
      (fun loaded left => (left.state.rows = library.state.rows ∧ Takes library.state.rows library.store left.store) ∧
        ∀ other ∈ loaded, left.store.has other locale = true)
      (fun error _ => ∃ message, error = .load message) := by
  -- Before rows are stored the search is written down.
  refine Lookup.Meets.bind (Lookup.Meets.changed (Lookup.Meets.bind (Lookup.Meets.get (Lookup.Meets.bind ?_))))
  refine (storeRows_takes _ _).mono (fun loaded left ends => ?_) fun _ _ => And.right
  obtain ⟨⟨state, takes⟩, reported⟩ := ends
  refine Lookup.Meets.pure ⟨⟨?_, takes.kept, fun other asked there => ?_⟩, ?_⟩
  · rw [state]
  · refine (takes.only other asked there).imp_right fun found => ?_
    obtain ⟨row, member, same⟩ := found
    exact ⟨row, List.mem_of_mem_filter member, same⟩
  · intro other member
    obtain ⟨entry, inside, rfl⟩ := List.mem_map.1 member
    -- Only rows of the locale asked for are stored.
    obtain ⟨there, row, found, same⟩ := reported entry inside
    have asked := (List.mem_filter.1 found).2
    simp only [decide_eq_true_eq] at asked
    rwa [← same, asked.1] at there

/-- When all rows are loaded a failure is one that is written in a row, too. -/
theorem loadEverything_takes (locale : Option String) (settings : Settings) (library : Library Table) :
    (searcher.loadEverything locale settings).Meets library
      (fun _ left => left.state = library.state) (fun error _ => ∃ message, error = .load message) := by
  -- The rows that are loaded are those of the locale, or all of them; each is stored or fails with its message.
  refine Lookup.Meets.bind (Lookup.Meets.get ?_)
  dsimp only
  split
  · exact (storeRows_takes _ _).mono (fun _ _ ends => ends.1.1) fun _ _ => And.right
  · exact Lookup.Meets.pure rfl

/-- Fair tables keep the promise of a search. -/
theorem searcher_contract (settings : Settings) (locale : String) (fit : Value → Prop) :
    searcher.Contract settings locale (Fair fit) fit := by
  intro key library fair
  -- The record of searches is no part of what makes a table fair.
  refine Lookup.Meets.bind (Lookup.Meets.changed (Lookup.Meets.bind (Lookup.Meets.get ?_)))
  refine Lookup.Meets.bind ((storeRows_meets fit locale ?_ ?_ _).mono (fun loaded left ends => ?_) fun _ _ => id)
  · exact fun row member => fair row (List.mem_of_mem_filter member)
  · intro row member
    have asked := (List.mem_filter.1 member).2
    simp only [decide_eq_true_eq] at asked
    exact asked.1
  · refine Lookup.Meets.pure ⟨?_, ends.2⟩
    rw [Fair, ends.1]
    exact fair

end Table

end Phrasebook
