import Phrasebook.Proofs.Catalogue.Again
import Phrasebook.Proofs.Catalogue.Settling
import Phrasebook.Proofs.Rendering.Errors
import Phrasebook.Proofs.Translator.Lookup

/-! A call made again right after the first one: when it gives the same result. -/

namespace Phrasebook.Translator

open Grammar (standard)

variable {σ : Type} (t : Translator σ)

section Definitions

/-- What a search brings for a key that it does not find is known to stay as it is: the search fails, or the
messages that it brings hold no references, or, with the default delimiters, only references that can be spelled out
without another search, or that can be spelled out with what the first fetch has left, if other searches were needed for
that and all went well. -/
inductive Familiar (finds : String → String → Finding) (key locale : String) (library : Library σ) : Prop where
  | fails (failed : (finds key locale).error ≠ none)
  | plain (each : ∀ other ∈ (finds key locale).keys, ∀ value,
      (library.store.putAll (finds key locale).entries locale).get? other locale = some value →
        value.references t.grammar = [])
  | sound (default : t.grammar = standard)
    (checked : (library.store.putAll (finds key locale).entries locale).Checked standard locale)
    (each : ∀ other ∈ (finds key locale).keys,
      (library.store.putAll (finds key locale).entries locale).Sound standard locale other)
  | settles (default : t.grammar = standard) {left : Library σ}
    (fetched : (t.fetch key locale).outcome library = (.ok (), left))
    (checked : (left.store.putAll (finds key locale).entries locale).Checked standard locale)
    (each : ∀ other ∈ (finds key locale).keys,
      (left.store.putAll (finds key locale).entries locale).Sound standard locale other)

/-- A lookup spoils the message of a key: it fails and leaves the message stored all the same, so that another lookup
does not fail in the same way. -/
def Spoils (key locale : String) (arguments : Arguments) (library : Library σ) : Prop :=
  ∃ error left value, (t.lookup? key locale arguments).outcome library = (.error error, left) ∧
    left.store.get? key locale = some value ∧ (t.formatter key locale arguments).format value ≠ .error error

/-- Fetching a key ends without storing it, and ends in the same way again in every library whose messages of the
locale are those that it leaves. -/
def FetchesAgain (valid : σ → Prop) (key locale : String) (library : Library σ) : Prop :=
  ∃ result left, (t.fetch key locale).outcome library = (result, left) ∧ left.store.has key locale = false ∧
    ∀ again, valid again.state → (∀ other, again.store.get? other locale = left.store.get? other locale) →
      ∃ after, (t.fetch key locale).outcome again = (result, after) ∧ after.store.has key locale = false

/-- The locale that decides a call, and the library in which the call looks there for the key: the fallback locale if
there is one and nothing is found in the locale asked for. -/
def deciding (key : String) (asked : Option String) (arguments : Arguments) : String × Library σ :=
  let requested := asked.getD t.settings.locale
  let first := (t.lookup? key requested arguments).outcome t.library
  match first.1, t.fallbackFor? requested with
  | .ok none, some other => (other, first.2)
  | _, _ => (requested, t.library)

/-- How a lookup ends the second time: as the first time, or, where the first time has failed and spoilt it, with what
the message left behind gives. -/
inductive Repeats (key locale : String) (arguments : Arguments) (library : Library σ) :
    Except Error (Option Translation) → Except Error (Option Translation) → Prop where
  | same {first : Except Error (Option Translation)} (kept : ¬ t.Spoils key locale arguments library) :
    Repeats key locale arguments library first first
  | spoilt {error : Error} {value : Value} (spoils : t.Spoils key locale arguments library)
    (left : ((t.lookup? key locale arguments).outcome library).2.store.get? key locale = some value)
    (differs : (t.formatter key locale arguments).format value ≠ .error error) :
    Repeats key locale arguments library (.error error) (((t.formatter key locale arguments).format value).map some)

end Definitions

/-- A lookup that leaves its message stored is repeated by formatting the message. -/
theorem repeats_of_stored {t : Translator σ} {key locale : String} {arguments : Arguments} {library left : Library σ}
    {first : Except Error (Option Translation)} {value : Value}
    (ends : (t.lookup? key locale arguments).outcome library = (first, left))
    (stored : left.store.get? key locale = some value) :
    t.Repeats key locale arguments library first (((t.formatter key locale arguments).format value).map some) := by
  by_cases equal : first = ((t.formatter key locale arguments).format value).map some
  · rw [← equal]
    refine .same ?_
    rintro ⟨error, left', value', fails, there, differs⟩
    obtain ⟨failed, rfl⟩ := Prod.mk.inj (ends.symm.trans fails)
    obtain rfl := Option.some.inj (stored.symm.trans there)
    -- The only failure is then one of formatting the message, which fails again.
    rw [equal] at failed
    cases formats : (t.formatter key locale arguments).format value with
    | ok translation =>
      rw [formats] at failed
      cases failed
    | error other =>
      rw [formats] at failed
      cases failed
      exact differs formats
  · -- The first lookup did not come to formatting the message.
    cases first with
    | ok answer =>
      have answers := lookup?_ok t ends
      rw [answer?, stored] at answers
      exact absurd answers.symm equal
    | error error =>
      have differs : (t.formatter key locale arguments).format value ≠ .error error := by
        intro formats
        rw [formats] at equal
        exact equal rfl
      exact .spoilt ⟨error, left, value, ends, stored, differs⟩ (by rw [ends]; exact stored) differs

/-- A lookup that fails in following references has spoilt the message exactly if it has left it stored. -/
theorem spoils_iff_of_reference {t : Translator σ} {key locale : String} {arguments : Arguments}
    {library left : Library σ} {error : Error}
    (ends : (t.lookup? key locale arguments).outcome library = (.error error, left))
    (isReference : error.OfReference) :
    t.Spoils key locale arguments library ↔ left.store.has key locale = true := by
  constructor
  · rintro ⟨_, _, value, fails, stored, _⟩
    obtain ⟨-, rfl⟩ := Prod.mk.inj (ends.symm.trans fails)
    rw [Store.has, stored]
    rfl
  · intro has
    obtain ⟨value, stored⟩ := Option.isSome_iff_exists.1 has
    -- Formatting follows no references, so that its errors are others.
    exact ⟨error, left, value, ends, stored, fun formats =>
      (Formatter.format_rendered _ value error formats).not_ofReference isReference⟩

section Steady

variable {t} {valid : σ → Prop} {finds : String → String → Finding} (steady : t.searcher.Steady t.settings valid finds)
  {key locale : String} {arguments : Arguments} {library : Library σ}
include steady

/-- A key that is not stored is searched for, and what is found is stored before it is expanded. -/
theorem fetch_of_steady (start : valid library.state) (missing : library.store.has key locale = false) :
    ∃ state, valid state ∧ (t.fetch key locale).outcome library =
      match (finds key locale).error with
      | some error => (.error error, ⟨library.store.putAll (finds key locale).entries locale, state⟩)
      | none => ((t.expansion locale).expandKeys (finds key locale).keys).outcome
          ⟨library.store.putAll (finds key locale).entries locale, state⟩ := by
  -- A steady searcher gives and stores what it finds, and fails behind that if it fails.
  obtain ⟨state, remains, ends⟩ := steady key locale library start
  refine ⟨state, remains, ?_⟩
  rw [fetch_of_missing t missing, Lookup.outcome_bind, ends, Finding.answer]
  cases (finds key locale).error <;> rfl

/-- What all messages put in for the locale preserve is preserved by an expansion. -/
theorem expandKeys_steady (holds : Store → Prop)
    (add : ∀ other value store, holds store → holds (store.add other value locale))
    (keys : List String) (start : valid library.state) (here : holds library.store) :
    let left := (((t.expansion locale).expandKeys keys).outcome library).2
    valid left.state ∧ holds left.store := by
  have putAll (entries : List (String × Value)) (store : Store) (there : holds store) :
      holds (store.putAll entries locale) := by
    induction entries generalizing store with
    | nil => exact there
    | cons entry rest ih => exact ih _ (add entry.1 entry.2 store there)
  -- A search puts in what it finds, for this locale only.
  refine Lookup.Meets.left (Expansion.expandKeys_preserves (fun left => valid left.state ∧ holds left.store)
    (fun key left there => ?_) (fun key value left there => ⟨there.1, add key value left.store there.2⟩) keys
    ⟨start, here⟩)
  obtain ⟨state, remains, ends⟩ := steady key locale left there.1
  have after := putAll (finds key locale).entries left.store there.2
  unfold Lookup.Meets
  rw [show ((t.expansion locale).searcher.search key (t.expansion locale).locale (t.expansion locale).settings).outcome
    left = _ from ends]
  cases (finds key locale).answer <;> exact ⟨remains, after⟩

/-- What all messages put in for the locale preserve is preserved by fetching a key. -/
theorem fetch_steady (holds : Store → Prop)
    (add : ∀ other value store, holds store → holds (store.add other value locale)) (start : valid library.state)
    (here : holds (if library.store.has key locale = true then library.store
      else library.store.putAll (finds key locale).entries locale)) :
    let left := ((t.fetch key locale).outcome library).2
    valid left.state ∧ holds left.store := by
  -- A stored key is not searched for; otherwise the expansion goes on from what the search has put in.
  cases there : library.store.has key locale with
  | true =>
    rw [there, if_pos rfl] at here
    rw [fetch_of_has t there]
    exact ⟨start, here⟩
  | false =>
    simp only [there, Bool.false_eq_true, if_false] at here
    obtain ⟨state, remains, ends⟩ := fetch_of_steady steady start there
    rw [ends]
    cases (finds key locale).error with
    | some error => exact ⟨remains, here⟩
    | none => exact expandKeys_steady steady holds add _ remains here

/-- Fetching a key leaves the other locales alone. -/
theorem fetch_frame (start : valid library.state) :
    let left := ((t.fetch key locale).outcome library).2
    valid left.state ∧
      ∀ other asked, asked ≠ locale → left.store.get? other asked = library.store.get? other asked := by
  -- Every message is put in for the locale.
  refine fetch_steady steady (fun store => ∀ other asked, asked ≠ locale →
    store.get? other asked = library.store.get? other asked)
    (fun other value store same key asked different => ?_) start ?_
  · rw [Store.get?_add, if_neg fun both => different both.2, same key asked different]
  · intro other asked different
    split
    · rfl
    · rw [Store.get?_putAll, if_neg different]

/-- A key that is stored, or found by the search, is stored once it has been fetched. -/
theorem fetch_has (start : valid library.state)
    (there : library.store.has key locale = true ∨ key ∈ (finds key locale).keys) :
    ((t.fetch key locale).outcome library).2.store.has key locale = true := by
  -- Messages are put in and none is removed.
  refine (fetch_steady steady (fun store => store.has key locale = true) (fun other value store stored => ?_)
    start ?_).2
  · rw [Store.has_add, stored, Bool.or_true]
  · split
    · next stored => exact stored
    · next missing =>
      exact Store.has_putAll_of_mem (there.resolve_left missing)

/-- Fetching a key again ends as before if its search fails. -/
theorem fetch_again_of_fails {error : Error} (failed : (finds key locale).error = some error)
    (start : valid library.state) (missing : library.store.has key locale = false)
    (unfound : key ∉ (finds key locale).keys) : t.FetchesAgain valid key locale library := by
  -- Whatever is put in before the search fails, the key is not among it.
  have stillMissing (store : Store) (absent : store.has key locale = false) :
      (store.putAll (finds key locale).entries locale).has key locale = false := by
    rw [Store.has_putAll_of_not_mem unfound, absent]
  obtain ⟨state, _, ends⟩ := fetch_of_steady steady start missing
  simp only [failed] at ends
  refine ⟨_, _, ends, stillMissing _ missing, fun again isValid same => ?_⟩
  have absent : again.store.has key locale = false := (Store.has_congr same key).trans (stillMissing _ missing)
  obtain ⟨later, _, endsAgain⟩ := fetch_of_steady steady isValid absent
  simp only [failed] at endsAgain
  exact ⟨_, endsAgain, stillMissing _ absent⟩

/-- Fetching a key again ends as before if the expansion of what its search brings does. -/
theorem fetch_again_of_expands (succeeds : (finds key locale).error = none) (start : valid library.state)
    (missing : library.store.has key locale = false)
    (expands : ∀ state, ∃ after, ((t.expansion locale).expandKeys (finds key locale).keys).outcome
        ⟨library.store.putAll (finds key locale).entries locale, state⟩ = (.ok (), ⟨after, state⟩) ∧
      after.has key locale = false ∧
      ∀ (store : Store) (later : σ), (∀ other, store.get? other locale = after.get? other locale) →
        ∃ last, ((t.expansion locale).expandKeys (finds key locale).keys).outcome
            ⟨store.putAll (finds key locale).entries locale, later⟩ = (.ok (), ⟨last, later⟩) ∧
          last.has key locale = false) :
    t.FetchesAgain valid key locale library := by
  obtain ⟨state, _, ends⟩ := fetch_of_steady steady start missing
  obtain ⟨after, first, absent, next⟩ := expands state
  simp only [succeeds, first] at ends
  refine ⟨_, _, ends, absent, fun again isValid same => ?_⟩
  -- The key is still missing, so that the second fetch makes the same search.
  have stillMissing : again.store.has key locale = false := (Store.has_congr same key).trans absent
  obtain ⟨later, _, endsAgain⟩ := fetch_of_steady steady isValid stillMissing
  obtain ⟨last, second, absentAgain⟩ := next again.store later same
  simp only [succeeds, second] at endsAgain
  exact ⟨_, endsAgain, absentAgain⟩

omit steady in
/-- Messages can all be spelled out, with the default delimiters, where others that can be have the same texts. -/
theorem expandKeys_of_same (default : t.grammar = standard) {keys : List String} {original : Store}
    (checked : original.Checked standard locale) (each : ∀ other ∈ keys, original.Sound standard locale other)
    (here : Library σ) (same : ∀ other, here.store.get? other locale = original.get? other locale) :
    ∃ store, ((t.expansion locale).expandKeys keys).outcome here = (.ok (), ⟨store, here.state⟩) ∧
      here.store.Blends store locale := by
  -- The same messages are checked and sound as well.
  have blends : original.Blends here.store locale := fun key => .inl (same key)
  obtain ⟨store, ends, more, _⟩ := Expansion.expandKeys_sound (t.expansion locale) default
    (blends.stays_checked checked) fun other member => blends.sound checked (each other member)
  exact ⟨store, ends, more⟩

/-- Fetching a key again ends as before if it has ended well, and what was left has all that is needed to spell out what
is found. -/
theorem fetch_again_of_settles (default : t.grammar = standard) {left : Library σ}
    (fetched : (t.fetch key locale).outcome library = (.ok (), left)) (absent : left.store.has key locale = false)
    (unfound : key ∉ (finds key locale).keys)
    (checked : (left.store.putAll (finds key locale).entries locale).Checked standard locale)
    (each : ∀ other ∈ (finds key locale).keys,
      (left.store.putAll (finds key locale).entries locale).Sound standard locale other)
    (start : valid library.state) (missing : library.store.has key locale = false) :
    t.FetchesAgain valid key locale library := by
  -- The search itself has not failed, or there would be an error.
  have succeeds : (finds key locale).error = none := by
    obtain ⟨state, _, ends⟩ := fetch_of_steady steady start missing
    cases failed : (finds key locale).error with
    | none => rfl
    | some error =>
      simp only [failed] at ends
      cases ends.symm.trans fetched
  refine ⟨_, left, fetched, absent, fun again isValid same => ?_⟩
  have stillMissing : again.store.has key locale = false := (Store.has_congr same key).trans absent
  obtain ⟨later, _, ends⟩ := fetch_of_steady steady isValid stillMissing
  simp only [succeeds] at ends
  -- The same is found once more, over the same messages.
  have replaced (other : String) : (again.store.putAll (finds key locale).entries locale).get? other locale =
      (left.store.putAll (finds key locale).entries locale).get? other locale := by
    rw [Store.get?_putAll, Store.get?_putAll, if_pos rfl, if_pos rfl, same]
  obtain ⟨store, expands, blends⟩ := expandKeys_of_same default checked each
    ⟨again.store.putAll (finds key locale).entries locale, later⟩ replaced
  refine ⟨_, ends.trans expands, (blends.has_eq key).trans ?_⟩
  exact (Store.has_putAll_of_not_mem unfound).trans stillMissing

/-- If a key is neither stored nor found, and its search is familiar, fetching it again ends as before. -/
theorem fetch_again (familiar : t.Familiar finds key locale library) (start : valid library.state)
    (missing : library.store.has key locale = false) (unfound : key ∉ (finds key locale).keys)
    (absent : ((t.fetch key locale).outcome library).2.store.has key locale = false) :
    t.FetchesAgain valid key locale library := by
  have unchanged (store : Store) :
      (store.putAll (finds key locale).entries locale).has key locale = store.has key locale :=
    Store.has_putAll_of_not_mem unfound
  cases failed : (finds key locale).error with
  | some error => exact fetch_again_of_fails steady failed start missing unfound
  | none =>
    cases familiar with
    | fails error => exact absurd failed error
    | settles default fetched checked each =>
      rw [fetched] at absent
      exact fetch_again_of_settles steady default fetched absent unfound checked each start missing
    | plain each =>
      -- There is nothing to expand, neither the first time nor the second.
      refine fetch_again_of_expands steady failed start missing fun state => ?_
      refine ⟨_, Expansion.expandKeys_of_clean each, (unchanged _).trans missing, fun store later same => ?_⟩
      have plainAgain : ∀ other ∈ (finds key locale).keys, ∀ value,
          (store.putAll (finds key locale).entries locale).get? other locale = some value →
            value.references t.grammar = [] := by
        intro other member value stored
        rw [Store.get?_putAll_of_mem store library.store member] at stored
        exact each other member value stored
      refine ⟨_, Expansion.expandKeys_of_clean plainAgain, (unchanged _).trans ?_⟩
      exact (Store.has_congr same key).trans ((unchanged _).trans missing)
    | sound default checked each =>
      refine fetch_again_of_expands steady failed start missing fun state => ?_
      -- All references are spelled out, also from a store in which some of them are spelled out already.
      have expands (library : Library σ) (checked : library.store.Checked standard locale)
          (each : ∀ other ∈ (finds key locale).keys, library.store.Sound standard locale other) :
          ∃ store, ((t.expansion locale).expandKeys (finds key locale).keys).outcome library =
            (.ok (), ⟨store, library.state⟩) ∧ library.store.Blends store locale := by
        obtain ⟨store, ends, blends, _⟩ := Expansion.expandKeys_sound (t.expansion locale) default checked each
        exact ⟨store, ends, blends⟩
      obtain ⟨after, first, blends⟩ :=
        expands ⟨library.store.putAll (finds key locale).entries locale, state⟩ checked each
      have absent : after.has key locale = false := (blends.has_eq key).trans ((unchanged _).trans missing)
      refine ⟨after, first, absent, fun store later same => ?_⟩
      have blend := Store.Blends.putAll blends same
      obtain ⟨last, second, lastBlends⟩ :=
        expands ⟨store.putAll (finds key locale).entries locale, later⟩ (blend.stays_checked checked)
          fun other member => blend.sound checked (each other member)
      refine ⟨last, second, (lastBlends.has_eq key).trans ((unchanged _).trans ?_)⟩
      exact (Store.has_congr same key).trans absent

/-- A lookup leaves the other locales alone. -/
theorem lookup?_frame (key locale : String) (arguments : Arguments) (start : valid library.state) :
    let left := ((t.lookup? key locale arguments).outcome library).2
    valid left.state ∧
      ∀ other asked, asked ≠ locale → left.store.get? other asked = library.store.get? other asked := by
  rw [lookup?_library]
  exact fetch_frame steady start

/-- Looking again for a key that was not stored in the end. -/
theorem lookup?_again_of_missing (start : valid library.state)
    (familiar : library.store.has key locale = false → key ∉ (finds key locale).keys →
      t.Familiar finds key locale library)
    {first : Except Error (Option Translation)} {left again : Library σ}
    (ends : (t.lookup? key locale arguments).outcome library = (first, left))
    (absent : left.store.has key locale = false) (isValid : valid again.state)
    (same : ∀ other, again.store.get? other locale = left.store.get? other locale) :
    ∃ after, (t.lookup? key locale arguments).outcome again = (first, after) := by
  have leaves : ((t.fetch key locale).outcome library).2 = left := by
    rw [← lookup?_library t key locale arguments library, ends]
  -- The key was neither stored nor found, and is searched for once more.
  have none : ¬ (library.store.has key locale = true ∨ key ∈ (finds key locale).keys) := by
    intro there
    have has := fetch_has steady start there
    rw [leaves, absent] at has
    cases has
  obtain ⟨missing, unfound⟩ := not_or.1 none
  have missing : library.store.has key locale = false := by simpa using missing
  obtain ⟨result, left', fetches, _, repeats⟩ :=
    fetch_again steady (familiar missing unfound) start missing unfound (by rw [leaves]; exact absent)
  obtain rfl : left' = left := by rw [← leaves, fetches]
  obtain ⟨after, fetchesAgain, absentAgain⟩ := repeats again isValid same
  -- A message that is not stored is no message.
  have answer {last : Library σ} (absent : last.store.has key locale = false) :
      t.answer? key locale arguments last.store = .ok .none := by
    have nothing : last.store.get? key locale = .none := by simpa [Store.has] using absent
    rw [answer?, nothing]
  refine ⟨after, ?_⟩
  rw [lookup?_outcome, fetchesAgain]
  rw [lookup?_outcome, fetches] at ends
  simp only [answer absentAgain]
  simp only [answer absent] at ends
  rw [(Prod.mk.inj ends).1]

/-- A lookup made again, in a library whose messages of the locale are those that the first one has left. -/
theorem lookup?_again (start : valid library.state)
    (familiar : library.store.has key locale = false → key ∉ (finds key locale).keys →
      t.Familiar finds key locale library)
    {first : Except Error (Option Translation)} {left again : Library σ}
    (ends : (t.lookup? key locale arguments).outcome library = (first, left)) (isValid : valid again.state)
    (same : ∀ other, again.store.get? other locale = left.store.get? other locale) :
    ∃ second after, (t.lookup? key locale arguments).outcome again = (second, after) ∧
      t.Repeats key locale arguments library first second := by
  cases stored : left.store.get? key locale with
  | none =>
    have absent : left.store.has key locale = false := by rw [Store.has, stored]; rfl
    obtain ⟨after, second⟩ := lookup?_again_of_missing steady start familiar ends absent isValid same
    refine ⟨first, after, second, .same ?_⟩
    rintro ⟨error, left', value, fails, there, _⟩
    obtain ⟨-, rfl⟩ := Prod.mk.inj (ends.symm.trans fails)
    cases stored.symm.trans there
  | some value =>
    -- The message is stored now and is formatted as it is.
    have there : again.store.get? key locale = some value := (same key).trans stored
    have second : (t.lookup? key locale arguments).outcome again =
        (((t.formatter key locale arguments).format value).map some, again) := by
      have has : again.store.has key locale = true := by rw [Store.has, there]; rfl
      rw [lookup?_outcome, fetch_of_has t has]
      simp only [answer?, there]
      rfl
    exact ⟨_, again, second, repeats_of_stored ends stored⟩

end Steady

section Calls

variable {t} {key : String} {asked : Option String} {arguments : Arguments}

/-- The second lookup finds nothing only if the first one did not. -/
theorem Repeats.finds_nothing_iff {locale : String} {library : Library σ}
    {first second : Except Error (Option Translation)}
    (repeats : t.Repeats key locale arguments library first second) : second = .ok none ↔ first = .ok none := by
  -- A message that is spoilt is there in both.
  cases repeats with
  | same _ => exact Iff.rfl
  | @spoilt error value _ _ _ =>
    cases (t.formatter key locale arguments).format value <;> simp [Except.map]

/-- Both lookups come to the same unless the message is spoilt. -/
theorem Repeats.conclude_eq_iff {locale : String} {library : Library σ}
    {first second : Except Error (Option Translation)}
    {default : Option String} (repeats : t.Repeats key locale arguments library first second) :
    t.conclude key locale arguments default second = t.conclude key locale arguments default first ↔
      ¬ t.Spoils key locale arguments library := by
  -- A message that is spoilt is formatted the second time, and that is not the error of the first.
  cases repeats with
  | same kept => exact iff_of_true rfl kept
  | @spoilt error value spoils _ differs =>
    refine iff_of_false (fun equal => differs ?_) (not_not_intro spoils)
    cases formats : (t.formatter key locale arguments).format value <;> rw [formats] at equal <;> exact equal

/-- An error of following references is one of the lookup. -/
theorem conclude_of_reference {locale : String} {default : Option String} {answer : Except Error (Option Translation)}
    {error : Error} (fails : t.conclude key locale arguments default answer = .error error)
    (isReference : error.OfReference) : answer = .error error := by
  match answer with
  | .error other =>
    obtain rfl := Except.error.inj fails
    rfl
  | .ok (some translation) => cases fails
  | .ok none =>
    -- The last resort is a text, or the error that there is no message.
    obtain rfl := t.lastResort_error fails
    exact isReference.elim

/-- A call in a library comes to what its first lookup comes to, if there is no fallback to go on with. -/
theorem resolve_of_decided {library left : Library σ} {answer : Except Error (Option Translation)}
    (ends : (t.lookup? key (asked.getD t.settings.locale) arguments).outcome library = (answer, left))
    (last : answer = .ok none → t.fallbackFor? (asked.getD t.settings.locale) = none) :
    (t.resolve key asked arguments none).outcome library =
      (t.conclude key (asked.getD t.settings.locale) arguments none answer, left) := by
  -- An error or a message ends the call, and so does nothing if there is no other locale.
  simp only [resolve_outcome, ends]
  match answer, last with
  | .error error, _ => rfl
  | .ok (some translation), _ => rfl
  | .ok none, last => rw [last rfl]

/-- A call in a library comes to what its second lookup comes to, if the first one finds nothing. -/
theorem resolve_of_fallback {library left : Library σ} {other : String}
    (ends : (t.lookup? key (asked.getD t.settings.locale) arguments).outcome library = (.ok none, left))
    (fallback : t.fallbackFor? (asked.getD t.settings.locale) = some other) :
    (t.resolve key asked arguments none).outcome library =
      let ended := (t.lookup? key other arguments).outcome left
      (t.conclude key other arguments none ended.1, ended.2) := by
  simp only [resolve_outcome, ends, fallback]

/-- The locale asked for decides if something is found there, or there is no fallback to go on with. -/
theorem deciding_of_decided {left : Library σ} {answer : Except Error (Option Translation)}
    (ends : (t.lookup? key (asked.getD t.settings.locale) arguments).outcome t.library = (answer, left))
    (last : answer = .ok none → t.fallbackFor? (asked.getD t.settings.locale) = none) :
    t.deciding key asked arguments = (asked.getD t.settings.locale, t.library) := by
  -- An error or a message decides, and so does nothing if there is no other locale.
  rw [deciding, ends]
  match answer, last with
  | .error error, _ => rfl
  | .ok (some translation), _ => rfl
  | .ok none, last => simp only [last rfl]

section Again

variable {valid : σ → Prop} {finds : String → String → Finding} (steady : t.searcher.Steady t.settings valid finds)
  {library left : Library σ}
include steady

/-- A call made again where the locale asked for decides. -/
theorem resolve_again_of_decided {answer : Except Error (Option Translation)} (start : valid library.state)
    (familiar : library.store.has key (asked.getD t.settings.locale) = false →
      key ∉ (finds key (asked.getD t.settings.locale)).keys →
        t.Familiar finds key (asked.getD t.settings.locale) library)
    (ends : (t.lookup? key (asked.getD t.settings.locale) arguments).outcome library = (answer, left))
    (last : answer = .ok none → t.fallbackFor? (asked.getD t.settings.locale) = none) :
    ∃ second, t.Repeats key (asked.getD t.settings.locale) arguments library answer second ∧
      ((t.resolve key asked arguments none).outcome left).1 =
        t.conclude key (asked.getD t.settings.locale) arguments none second := by
  -- The second lookup repeats the first one, and decides as well.
  have frame := lookup?_frame steady key (asked.getD t.settings.locale) arguments start
  rw [ends] at frame
  obtain ⟨second, after, again, repeats⟩ := lookup?_again steady start familiar ends frame.1 fun _ => rfl
  have lastAgain : second = .ok none → t.fallbackFor? (asked.getD t.settings.locale) = none :=
    fun nothing => last (repeats.finds_nothing_iff.1 nothing)
  exact ⟨second, repeats, by rw [resolve_of_decided again lastAgain]⟩

/-- A call made again where the fallback locale decides: each of the two locales leaves the messages of the other one
alone, so that both lookups are made again as before. -/
theorem resolve_again_of_fallback {other : String} {answer : Except Error (Option Translation)} {last : Library σ}
    (start : valid library.state)
    (familiar : library.store.has key (asked.getD t.settings.locale) = false →
      key ∉ (finds key (asked.getD t.settings.locale)).keys →
        t.Familiar finds key (asked.getD t.settings.locale) library)
    (familiarThere : left.store.has key other = false → key ∉ (finds key other).keys →
      t.Familiar finds key other left)
    (ends : (t.lookup? key (asked.getD t.settings.locale) arguments).outcome library = (.ok none, left))
    (fallback : t.fallbackFor? (asked.getD t.settings.locale) = some other)
    (endsThere : (t.lookup? key other arguments).outcome left = (answer, last)) :
    ∃ second, t.Repeats key other arguments left answer second ∧
      ((t.resolve key asked arguments none).outcome last).1 = t.conclude key other arguments none second := by
  have apart : other ≠ asked.getD t.settings.locale := by
    have chosen := (Option.filter_eq_some_iff.1 fallback).2
    simpa using chosen
  have frame := lookup?_frame steady key (asked.getD t.settings.locale) arguments start
  rw [ends] at frame
  have frameThere := lookup?_frame steady key other arguments frame.1
  rw [endsThere] at frameThere
  -- In the locale asked for there is nothing again.
  obtain ⟨nothing, middle, again, repeats⟩ :=
    lookup?_again steady start familiar ends frameThere.1 fun same => frameThere.2 same _ (Ne.symm apart)
  obtain rfl : nothing = .ok none := repeats.finds_nothing_iff.2 rfl
  have frameAgain := lookup?_frame steady key (asked.getD t.settings.locale) arguments frameThere.1
  rw [again] at frameAgain
  obtain ⟨second, after, againThere, repeatsThere⟩ :=
    lookup?_again steady frame.1 familiarThere endsThere frameAgain.1 fun same => frameAgain.2 same _ apart
  exact ⟨second, repeatsThere, by rw [resolve_of_fallback again fallback, againThere]⟩

/-- The lookup in the deciding locale is repeated by a call made again, which comes to what it comes to. -/
theorem translate_repeats (start : valid t.library.state)
    (familiar : ∀ tried ∈ [(asked.getD t.settings.locale, t.library), t.deciding key asked arguments],
      tried.2.store.has key tried.1 = false → key ∉ (finds key tried.1).keys →
        t.Familiar finds key tried.1 tried.2) :
    let first := t.translate key asked arguments
    let decided := t.deciding key asked arguments
    let ended := (t.lookup? key decided.1 arguments).outcome decided.2
    first = (t.conclude key decided.1 arguments none ended.1, { t with library := ended.2 }) ∧
      ∃ answer, t.Repeats key decided.1 arguments decided.2 ended.1 answer ∧
        (first.2.translate key asked arguments).1 = t.conclude key decided.1 arguments none answer := by
  -- A translator is its settings, which a call leaves, with the library.
  have runs (library : Library σ) : ({ t with library } : Translator σ).translate key asked arguments =
      let ended := (t.resolve key asked arguments none).outcome library
      (ended.1, { t with library := ended.2 }) := rfl
  have firstRuns := runs t.library
  have here := familiar (asked.getD t.settings.locale, t.library) (List.mem_cons_self ..)
  have there := familiar (t.deciding key asked arguments) (List.mem_cons_of_mem _ (List.mem_cons_self ..))
  cases ends : (t.lookup? key (asked.getD t.settings.locale) arguments).outcome t.library with | mk result left => ?_
  by_cases last : result = .ok none → t.fallbackFor? (asked.getD t.settings.locale) = none
  · -- The locale asked for decides.
    obtain ⟨answer, repeats, again⟩ := resolve_again_of_decided steady start here ends last
    rw [resolve_of_decided ends last] at firstRuns
    simp only [deciding_of_decided ends last, ends]
    refine ⟨firstRuns, answer, repeats, ?_⟩
    rw [show t.translate key asked arguments = _ from firstRuns, runs, again]
  · -- Nothing is found there, and the fallback locale decides.
    obtain ⟨rfl, some⟩ := Classical.not_imp.1 last
    obtain ⟨other, fallback⟩ := Option.ne_none_iff_exists'.1 some
    have decided : t.deciding key asked arguments = (other, left) := by simp only [deciding, ends, fallback]
    simp only [decided] at there ⊢
    cases endsThere : (t.lookup? key other arguments).outcome left with | mk resultThere leftThere => ?_
    obtain ⟨answer, repeats, again⟩ := resolve_again_of_fallback steady start here there ends fallback endsThere
    rw [resolve_of_fallback ends fallback, endsThere] at firstRuns
    refine ⟨firstRuns, answer, repeats, ?_⟩
    rw [show t.translate key asked arguments = _ from firstRuns, runs, again]

end Again

/-- A call made again right after the first one gives the same, unless the lookup in the deciding locale has spoilt the
message; so an error of following references is reported again only if the message was not stored. -/
theorem translate_again (t : Translator σ) (key : String) (asked : Option String) (arguments : Arguments)
    {valid : σ → Prop} {finds : String → String → Finding} (steady : t.searcher.Steady t.settings valid finds)
    (start : valid t.library.state)
    (familiar : ∀ tried ∈ [(asked.getD t.settings.locale, t.library), t.deciding key asked arguments],
      tried.2.store.has key tried.1 = false → key ∉ (finds key tried.1).keys →
        t.Familiar finds key tried.1 tried.2) :
    let first := t.translate key asked arguments
    let second := first.2.translate key asked arguments
    let decided := t.deciding key asked arguments
    (second.1 = first.1 ↔ ¬ t.Spoils key decided.1 arguments decided.2) ∧
      ∀ error, first.1 = .error error → error.OfReference →
        (second.1 = first.1 ↔ first.2.store.has key decided.1 = false) ∧
        ∀ value, first.2.store.get? key decided.1 = some value →
          second.1 = (t.formatter key decided.1 arguments).format value := by
  obtain ⟨runs, answer, repeats, again⟩ := translate_repeats steady start familiar
  generalize t.deciding key asked arguments = decided at runs repeats again ⊢
  obtain ⟨locale, library⟩ := decided
  simp only [runs] at again ⊢
  have kept : t.conclude key locale arguments none answer =
      t.conclude key locale arguments none ((t.lookup? key locale arguments).outcome library).1 ↔
        ¬ t.Spoils key locale arguments library := repeats.conclude_eq_iff
  refine ⟨by rw [again]; exact kept, fun error fails isReference => ?_⟩
  cases ends : (t.lookup? key locale arguments).outcome library with | mk result left => ?_
  simp only [ends] at again fails repeats kept ⊢
  -- Neither the last resort nor formatting follows references: the error is one of the lookup.
  obtain rfl : result = .error error := conclude_of_reference fails isReference
  have spoils := spoils_iff_of_reference ends isReference
  constructor
  · rw [again, kept, spoils, Bool.not_eq_true]
    rfl
  · intro value stored
    change left.store.get? key locale = some value at stored
    have has : left.store.has key locale = true := by rw [Store.has, stored]; rfl
    cases repeats with
    | same unspoilt => exact absurd (spoils.2 has) unspoilt
    | spoilt _ held _ =>
      rw [ends, stored] at held
      obtain rfl := Option.some.inj held
      rw [again]
      cases (t.formatter key locale arguments).format value <;> rfl

/-- A table with a message whose reference leads nowhere. -/
def wanting : Table :=
  { rows := [{ locale := "en", key := "app.broken", value := .scalar "%{.nowhere}" }], everything := false }

/-- A translator that finds its messages in this table. -/
def wanted : Translator Table :=
  { library := ⟨.empty, wanting⟩, searcher := Table.searcher, settings := {}, grammar := .ofSettings {}
    functions := .empty, handlers := {} }

/-- Asked for in French, the message is looked for in English next; the call fails, and does not fail again. -/
theorem translate_again_wanted :
    let first := wanted.translate "app.broken" (some "fr") .empty
    let second := first.2.translate "app.broken" (some "fr") .empty
    first.1 = .error (.invalidReference "nowhere" "app.broken" none) ∧
      second.1 = (wanted.formatter "app.broken" "en" .empty).format (.scalar "%{.nowhere}") ∧ second.1 ≠ first.1 := by
  intro first second
  have fails : first.1 = Except.map Translation.text (.error (.invalidReference "nowhere" "app.broken" none)) :=
    Translation.eq_of_text? (by decide +kernel)
  have steady : wanted.searcher.Steady wanted.settings (fun table => table.rows = wanting.rows)
      (Table.finds wanting.rows) :=
    Table.searcher_steady (by decide) _
  have decided : (wanted.deciding "app.broken" (some "fr") .empty).1 = "en" := by decide +kernel
  have stored : first.2.store.get? "app.broken" "en" = some (.scalar "%{.nowhere}") := by decide +kernel
  obtain ⟨-, errors⟩ := translate_again wanted "app.broken" (some "fr") .empty steady rfl (by
      intro tried member _ unfound
      rcases List.mem_cons.1 member with rfl | member
      · -- Nothing is found in French, so that there are no references to follow.
        have nothing : (Table.finds wanting.rows "app.broken" "fr").keys = [] := by decide +kernel
        refine .plain fun other inside => ?_
        rw [Option.getD_some, nothing] at inside
        cases inside
      · obtain rfl := List.mem_singleton.1 member
        rw [decided] at unfound
        exact absurd (by decide +kernel) unfound)
  obtain ⟨repeated, instead⟩ := errors _ fails trivial
  rw [decided] at repeated instead
  refine ⟨fails, instead _ stored, fun same => ?_⟩
  have absent := repeated.1 same
  rw [Store.has, stored] at absent
  cases absent

/-- An error of following references is not reported again: the message stays stored as it was found, and is given the
next time. -/
theorem wanted_reported_once :
    let first := wanted.translate "app.broken" none .empty
    let second := first.2.translate "app.broken" none .empty
    Translator.create Table.searcher wanting {} = .ok wanted ∧
      Table.searcher.Steady {} (fun table => table.rows = wanting.rows) (Table.finds wanting.rows) ∧
      first.1 = .error (.invalidReference "nowhere" "app.broken" none) ∧
      second.1 = .ok (.text "%{.nowhere}") := by
  -- Both calls are computed; they are known by a text and an error.
  intro first second
  have created : Translator.create Table.searcher wanting {} = .ok wanted := by
    have valid : ({} : Settings).validate = .ok () := by decide +kernel
    rw [create, valid]
    rfl
  have fails : first.1 = Except.map Translation.text (.error (.invalidReference "nowhere" "app.broken" none)) :=
    Translation.eq_of_text? (by decide +kernel)
  have gives : second.1 = Except.map Translation.text (.ok "%{.nowhere}") := Translation.eq_of_text? (by decide +kernel)
  exact ⟨created, Table.searcher_steady (by decide) _, fails, gives⟩

end Calls

end Phrasebook.Translator
