import Phrasebook.Proofs.Catalogue.Again
import Phrasebook.Proofs.Translator.Change
import Phrasebook.Proofs.Translator.Recorded

/-! A call with a default text and the same call without one: they search for the same, and differ only where no locale
has the message. -/

namespace Phrasebook

/-- The messages of all locales but one are the same. -/
def Store.SameElsewhere (before : Store) (locale : String) (after : Store) : Prop :=
  ∀ key asked, asked ≠ locale → after.get? key asked = before.get? key asked

namespace Store.SameElsewhere

variable {one two three : Store} {locale : String}

/-- A store is the same elsewhere as itself. -/
theorem refl : one.SameElsewhere locale one :=
  fun _ _ _ => rfl

/-- Stores that are the same elsewhere as a third are so one after the other. -/
theorem trans (first : one.SameElsewhere locale two) (second : two.SameElsewhere locale three) :
    one.SameElsewhere locale three :=
  fun key asked elsewhere => (second key asked elsewhere).trans (first key asked elsewhere)

/-- A message may be put in for that locale. -/
theorem add (same : one.SameElsewhere locale two) (key : String) (value : Value) :
    one.SameElsewhere locale (two.add key value locale) := by
  intro other asked elsewhere
  simpa [elsewhere] using same other asked elsewhere

end Store.SameElsewhere

namespace Searcher

variable {σ : Type} (searcher : Searcher σ)

/-- Searching a locale changes no message of another one. -/
def Local : Prop :=
  ∀ key locale settings library, (searcher.search key locale settings).Meets library
    (fun _ left => library.store.SameElsewhere locale left.store)
    fun _ left => library.store.SameElsewhere locale left.store

end Searcher

namespace Translator

variable {σ : Type} (t : Translator σ) {key : String} {arguments : Arguments} {library left last : Library σ}

/-- The locales in which a key is looked for: the one asked for, and the fallback if it is another one. -/
def localesFor (requested : String) : List String :=
  requested :: (t.fallbackFor? requested).toList

/-- How a message is fetched from a locale: if it is not stored it is searched for once, in that locale, and what the
search reports is expanded there. -/
inductive Fetched (t : Translator σ) (key locale : String) : Library σ → Except Error Unit → Library σ → Prop where
  | stored {library : Library σ} (there : library.store.has key locale = true) :
    Fetched t key locale library (.ok ()) library
  | fails {library left : Library σ} {error : Error} (absent : library.store.has key locale = false)
    (searched : (t.searcher.search key locale t.settings).outcome library = (.error error, left)) :
    Fetched t key locale library (.error error) left
  | expanded {library found left : Library σ} {loaded : List String} {result : Except Error Unit}
    (absent : library.store.has key locale = false)
    (searched : (t.searcher.search key locale t.settings).outcome library = (.ok loaded, found))
    (expands : ((t.expansion locale).expandKeys loaded).outcome found = (result, left)) :
    Fetched t key locale library result left

/-- The locales are gone through up to one that decides: fetching the key fails there, or it is stored there and
formatted. -/
inductive Decided (t : Translator σ) (key : String) (arguments : Arguments) :
    List String → Library σ → Except Error Translation → Library σ → Prop where
  | fails {locale : String} {rest : List String} {library left : Library σ} {error : Error}
    (fetched : t.Fetched key locale library (.error error) left) :
    Decided t key arguments (locale :: rest) library (.error error) left
  | found {locale : String} {rest : List String} {library left : Library σ} {value : Value}
    (fetched : t.Fetched key locale library (.ok ()) left) (stored : left.store.get? key locale = some value) :
    Decided t key arguments (locale :: rest) library ((t.formatter key locale arguments).format value) left
  | later {locale : String} {rest : List String} {library left last : Library σ} {result : Except Error Translation}
    (fetched : t.Fetched key locale library (.ok ()) left) (absent : left.store.get? key locale = none)
    (others : Decided t key arguments rest left result last) :
    Decided t key arguments (locale :: rest) library result last

/-- The locales are all gone through, and behind each of the searches the key is not stored for the locale that was
searched. -/
inductive Nowhere (t : Translator σ) (key : String) : List String → Library σ → Library σ → Prop where
  | nil {library : Library σ} : Nowhere t key [] library library
  | cons {locale : String} {rest : List String} {library left last : Library σ}
    (fetched : t.Fetched key locale library (.ok ()) left) (absent : left.store.get? key locale = none)
    (others : Nowhere t key rest left last) : Nowhere t key (locale :: rest) library last

/-- That is what fetching a message does. -/
theorem fetched_iff {key locale : String} {result : Except Error Unit} :
    t.Fetched key locale library result left ↔ (t.fetch key locale).outcome library = (result, left) := by
  cases there : library.store.has key locale with
  | true =>
    rw [t.fetch_of_has there]
    constructor
    · rintro (⟨-⟩ | ⟨absent, -⟩ | ⟨absent, -, -⟩)
      · rfl
      · cases there.symm.trans absent
      · cases there.symm.trans absent
    · intro ends
      cases ends
      exact .stored there
  | false =>
    rw [t.fetch_of_missing there, Lookup.outcome_bind]
    constructor
    · rintro (⟨stored⟩ | ⟨-, searched⟩ | ⟨-, searched, expands⟩)
      · cases there.symm.trans stored
      · rw [searched]
      · rw [searched]
        exact expands
    · -- The search itself may have failed, or what it has brought is expanded.
      intro ends
      cases searched : (t.searcher.search key locale t.settings).outcome library with
      | mk found after =>
        rw [searched] at ends
        cases found with
        | error error =>
          cases ends
          exact .fails there searched
        | ok loaded => exact .expanded there searched ends

/-- Fetching a message comes to one end only. -/
theorem Fetched.unique {t : Translator σ} {key locale : String} {one two : Except Error Unit}
    (fetched : t.Fetched key locale library one left) (again : t.Fetched key locale library two last) :
    two = one ∧ last = left :=
  Prod.mk.inj ((t.fetched_iff.1 again).symm.trans (t.fetched_iff.1 fetched))

/-- A lookup in a locale fails with the search, or gives the formatted message, or finds none. -/
theorem lookup?_cases (key locale : String) (arguments : Arguments) (library : Library σ) :
    (∃ error left, t.Fetched key locale library (.error error) left ∧
        (t.lookup? key locale arguments).outcome library = (.error error, left)) ∨
      (∃ value left, t.Fetched key locale library (.ok ()) left ∧ left.store.get? key locale = some value ∧
        (t.lookup? key locale arguments).outcome library =
          (((t.formatter key locale arguments).format value).map some, left)) ∨
      ∃ left, t.Fetched key locale library (.ok ()) left ∧ left.store.get? key locale = none ∧
        (t.lookup? key locale arguments).outcome library = (.ok none, left) := by
  -- What the fetch leaves decides: its error, the message that is stored behind it, or none.
  simp only [lookup?_outcome, fetched_iff]
  generalize (t.fetch key locale).outcome library = ended
  obtain ⟨error | _, left⟩ := ended
  · exact .inl ⟨error, left, rfl, rfl⟩
  · cases stored : left.store.get? key locale with
    | some value => exact .inr (.inl ⟨value, left, rfl, stored, by simp [answer?, stored, Except.bind]⟩)
    | none => exact .inr (.inr ⟨left, rfl, stored, by simp [answer?, stored, Except.bind]⟩)

/-- A call is decided by one of its locales, whatever its default text, or ends in what stands for no message. -/
theorem resolve_ends (key : String) (asked : Option String) (arguments : Arguments) (library : Library σ) :
    let requested := asked.getD t.settings.locale
    (∃ result left, t.Decided key arguments (t.localesFor requested) library result left ∧
        ∀ default, (t.resolve key asked arguments default).outcome library = (result, left)) ∨
      ∃ left, t.Nowhere key (t.localesFor requested) library left ∧
        ∀ default, (t.resolve key asked arguments default).outcome library =
          (t.lastResort key ((t.fallbackFor? requested).getD requested) arguments default, left) := by
  simp only [resolve_outcome, localesFor]
  generalize asked.getD t.settings.locale = requested
  rcases t.lookup?_cases key requested arguments library with
    ⟨error, left, fetched, ends⟩ | ⟨value, left, fetched, stored, ends⟩ | ⟨left, fetched, absent, ends⟩
  · exact .inl ⟨_, _, .fails fetched, fun default => by simp only [ends]; rfl⟩
  · -- A message that cannot be formatted ends the call as well.
    refine .inl ⟨_, _, .found fetched stored, fun default => ?_⟩
    rw [ends]
    cases (t.formatter key requested arguments).format value <;> rfl
  · simp only [ends]
    cases t.fallbackFor? requested with
    | none => exact .inr ⟨_, .cons fetched absent .nil, fun default => rfl⟩
    | some other =>
      rcases t.lookup?_cases key other arguments left with
        ⟨error, last, tried, ends⟩ | ⟨value, last, tried, stored, ends⟩ | ⟨last, tried, missing, ends⟩
      · exact .inl ⟨_, _, .later fetched absent (.fails tried), fun default => by simp only [ends]; rfl⟩
      · refine .inl ⟨_, _, .later fetched absent (.found tried stored), fun default => ?_⟩
        simp only [ends]
        cases (t.formatter key other arguments).format value <;> rfl
      · exact .inr ⟨_, .cons fetched absent (.cons tried missing .nil), fun default => by simp only [ends]; rfl⟩

/-- A local searcher spares other locales also when what it brings is expanded. -/
theorem fetch_local (isLocal : t.searcher.Local) (key locale : String) (library : Library σ) :
    library.store.SameElsewhere locale ((t.fetch key locale).outcome library).2.store := by
  have meets : (t.fetch key locale).Meets library (fun _ left => library.store.SameElsewhere locale left.store)
      fun _ left => library.store.SameElsewhere locale left.store := by
    refine .bind (.has ?_)
    split
    · exact .pure .refl
    · refine .bind ((isLocal key locale t.settings library).mono (fun loaded left spares => ?_) fun _ _ => id)
      -- Expanding stores for the locale only, and so do the searches that it makes.
      refine Expansion.expandKeys_preserves (fun left => library.store.SameElsewhere locale left.store)
        (fun key left spares => ?_) (fun key value left spares => spares.add key value) loaded spares
      exact (isLocal key locale t.settings left).mono (fun _ _ => spares.trans) fun _ _ => spares.trans
  exact meets.left

/-- With a local searcher the locales that are not gone through keep their messages. -/
theorem Nowhere.kept {t : Translator σ} (isLocal : t.searcher.Local) {locales : List String}
    (nowhere : t.Nowhere key locales library last) {other : String} (untried : other ∉ locales) :
    last.store.get? key other = library.store.get? key other := by
  induction nowhere with
  | nil => rfl
  | @cons locale rest library left last fetched _ _ ih =>
    -- This search was for another locale, and so were those behind it.
    obtain ⟨apart, later⟩ := List.ne_and_not_mem_of_not_mem_cons untried
    have spares := t.fetch_local isLocal key locale library key other apart
    rw [t.fetched_iff.1 fetched] at spares
    exact (ih later).trans spares

/-- With a local searcher a key that is found nowhere is not stored in the end either. -/
theorem Nowhere.absent {t : Translator σ} (isLocal : t.searcher.Local) {locales : List String}
    (nowhere : t.Nowhere key locales library last) (distinct : locales.Nodup) :
    ∀ locale ∈ locales, last.store.has key locale = false := by
  induction nowhere with
  | nil => simp
  | cons fetched absent others ih =>
    obtain ⟨apart, distinct⟩ := List.nodup_cons.1 distinct
    intro locale member
    rcases List.mem_cons.1 member with rfl | later
    · -- The locales behind this one are other ones, so that nothing was put in for it since.
      rw [Store.has, others.kept isLocal apart, absent]
      rfl
    · exact ih distinct locale later

/-- A key that is found nowhere is not stored for the last of the locales in the end, whatever the searcher. -/
theorem Nowhere.absent_last {t : Translator σ} {requested : String} {others : Option String}
    (nowhere : t.Nowhere key (requested :: others.toList) library last) :
    last.store.has key (others.getD requested) = false := by
  -- The last fetch is that of the last locale, and nothing happens behind it.
  rcases nowhere with - | ⟨-, absent, behind⟩
  cases others with
  | none =>
    cases behind
    simp [Store.has, absent]
  | some other =>
    rcases behind with - | ⟨-, absent, behind⟩
    cases behind
    simp [Store.has, absent]

/-- Handlers have no part in fetching a message. -/
theorem Fetched.handlers {t : Translator σ} {key locale : String} {result : Except Error Unit}
    (fetched : t.Fetched key locale library result left) (handlers : Handlers) :
    ({ t with handlers } : Translator σ).Fetched key locale library result left := by
  -- Neither the store, nor the search, nor the expansion asks them.
  cases fetched with
  | stored there => exact .stored there
  | fails absent searched => exact .fails absent searched
  | expanded absent searched expands => exact .expanded absent searched expands

/-- Nor in finding it nowhere. -/
theorem Nowhere.handlers {t : Translator σ} {locales : List String} (nowhere : t.Nowhere key locales library last)
    (handlers : Handlers) : ({ t with handlers } : Translator σ).Nowhere key locales library last := by
  -- Locale by locale.
  induction nowhere with
  | nil => exact .nil
  | cons fetched absent _ ih => exact .cons (fetched.handlers handlers) absent ih

/-- The fallback is tried only if it is another locale than the one asked for. -/
theorem nodup_localesFor (requested : String) : (t.localesFor requested).Nodup := by
  -- There is one locale, or another one behind it.
  unfold localesFor fallbackFor?
  cases t.settings.fallback with
  | none => simp
  | some other => by_cases same : other = requested <;> simp [Option.filter, same, Ne.symm]

/-- The default text does not change what is searched for and what is left. -/
theorem translateOrDefault_leaves (key : String) (asked : Option String) (arguments : Arguments) (default : String) :
    (t.translateOrDefault key asked arguments default).2 = (t.translate key asked arguments).2 := by
  -- A call ends as it is decided or in its last resort, with the same library in both.
  rw [translateOrDefault, translate, run_outcome, run_outcome]
  rcases t.resolve_ends key asked arguments t.library with ⟨result, left, -, ends⟩ | ⟨left, -, ends⟩ <;>
    rw [ends, ends]

/-- With and without a default text a call puts the same searches on record, and goes as it does without a record. -/
theorem recording_calls (record : List Searched) (key : String) (asked : Option String) (arguments : Arguments)
    (default : String) :
    let one := t.translate key asked arguments
    let two := t.translateOrDefault key asked arguments default
    ∃ searches, (t.recording record).translate key asked arguments = (one.1, one.2.recording searches) ∧
      (t.recording record).translateOrDefault key asked arguments default = (two.1, two.2.recording searches) := by
  intro one two
  obtain ⟨searches, translates⟩ := t.run_recording record (t.resolve_recording record key asked arguments none)
  obtain ⟨others, defaults⟩ := t.run_recording record (t.resolve_recording record key asked arguments (some default))
  -- The recording translator is one of the translators whose two calls leave the same.
  have same := (t.recording record).translateOrDefault_leaves key asked arguments default
  rw [translateOrDefault, defaults, translate, translates] at same
  have leaves : two.2 = one.2 := t.translateOrDefault_leaves key asked arguments default
  refine ⟨searches, translates, defaults.trans (congrArg (two.1, ·) ?_)⟩
  rw [leaves]
  exact same

/-- Where no message is stored a handler decides if there is one, and the mode otherwise. -/
theorem missing_eq (key last : String) (arguments : Arguments) :
    t.missing key last arguments =
      match t.handlers.translation, t.settings.onMissingTranslation with
      | some handle, _ => .ok (.text (handle key last arguments))
      | none, .error => .error (.notFound key last)
      | none, .ignore => .ok (.text key) := by
  -- By whether there is a handler, and by the mode.
  unfold missing Policy.choose
  cases t.handlers.translation with
  | some handle => rfl
  | none => cases t.settings.onMissingTranslation <;> rfl

/-- A key that is found nowhere is decided by no locale. -/
theorem Nowhere.not_decided {t : Translator σ} {locales : List String} (nowhere : t.Nowhere key locales library left)
    {result : Except Error Translation} : ¬ t.Decided key arguments locales library result last := by
  -- Locale by locale: both tell of the same fetch, which leaves a message or does not.
  induction nowhere with
  | nil =>
    intro decided
    cases decided
  | cons fetched absent _ ih =>
    rintro (⟨fails⟩ | ⟨again, stored⟩ | ⟨again, -, others⟩)
    · cases (fetched.unique fails).1
    · obtain ⟨-, rfl⟩ := fetched.unique again
      cases absent.symm.trans stored
    · obtain ⟨-, rfl⟩ := fetched.unique again
      exact ih others

/-- A call with a default text for a key that is found nowhere gives the text. -/
theorem translateOrDefault_of_nowhere {asked : Option String}
    (nowhere : t.Nowhere key (t.localesFor (asked.getD t.settings.locale)) t.library left) (default : String) :
    (t.translateOrDefault key asked arguments default).1 = .ok (.text default) := by
  -- A call ends as it is decided, or as a last resort; the first is excluded.
  rw [translateOrDefault, run_outcome]
  rcases t.resolve_ends key asked arguments t.library with ⟨result, last, decided, -⟩ | ⟨last, -, ends⟩
  · exact absurd decided nowhere.not_decided
  · rw [ends]
    rfl

/-- A call with a default text and the same call without one search for the same and leave the same. Either they come
to the same in one of their locales, or in none of them the key is stored behind the one search for it: then the one
gives its default text, whatever the handlers, and the other one what the policy decides for the last locale. In the
end the key is not stored for that last locale, and not for the other one either unless a search has put it there for a
locale that it was not asked for. -/
theorem translateOrDefault_translate (key : String) (asked : Option String) (arguments : Arguments) (default : String) :
    let one := t.translate key asked arguments
    let two := t.translateOrDefault key asked arguments default
    let requested := asked.getD t.settings.locale
    let last := (t.fallbackFor? requested).getD requested
    two.2 = one.2 ∧
      (∀ record, ∃ searches,
        (t.recording record).translate key asked arguments = (one.1, one.2.recording searches) ∧
          (t.recording record).translateOrDefault key asked arguments default = (two.1, two.2.recording searches)) ∧
      ((t.Decided key arguments (t.localesFor requested) t.library one.1 one.2.library ∧ two.1 = one.1) ∨
        (t.Nowhere key (t.localesFor requested) t.library one.2.library ∧
          one.2.store.has key last = false ∧
          (t.searcher.Local → ∀ locale ∈ t.localesFor requested, one.2.store.has key locale = false) ∧
          (∀ handlers : Handlers,
            (({ t with handlers } : Translator σ).translateOrDefault key asked arguments default).1 =
              .ok (.text default)) ∧
          one.1 =
            match t.handlers.translation, t.settings.onMissingTranslation with
            | some handle, _ => .ok (.text (handle key last arguments))
            | none, .error => .error (.notFound key last)
            | none, .ignore => .ok (.text key))) := by
  intro one two requested last
  refine ⟨t.translateOrDefault_leaves key asked arguments default,
    fun record => t.recording_calls record key asked arguments default, ?_⟩
  rcases t.resolve_ends key asked arguments t.library with ⟨result, left, decided, ends⟩ | ⟨left, nowhere, ends⟩
  · -- The locale that decides does not ask for the default text.
    have both (default : Option String) :
        t.run (t.resolve key asked arguments default) = (result, { t with library := left }) := by
      rw [run_outcome, ends]
    have first : one = (result, { t with library := left }) := both none
    have second : two = (result, { t with library := left }) := both (some default)
    rw [first, second]
    exact .inl ⟨decided, rfl⟩
  · have first : one = (t.missing key last arguments, { t with library := left }) := by
      change t.run _ = _
      rw [run_outcome, ends]
      rfl
    right
    rw [first]
    exact ⟨nowhere, nowhere.absent_last, fun isLocal => nowhere.absent isLocal (t.nodup_localesFor requested),
      fun handlers => translateOrDefault_of_nowhere _ (nowhere.handlers handlers) default,
      t.missing_eq key last arguments⟩

/-- The searcher that finds nothing changes nothing. -/
theorem none_local : Searcher.none.Local :=
  fun _ _ _ _ => Lookup.Meets.pure .refl

/-- A key that is found in neither of two locales is reported for the second one, and has its default text. -/
theorem translateOrDefault_translate_unknown :
    let t := fresh .none () { locale := "fr", fallback := some "en", onMissingTranslation := .error }
    (t.translate "title" none .empty).1 = .error (.notFound "title" "en") ∧
      (t.translateOrDefault "title" none .empty "untitled").1 = .ok (.text "untitled") ∧
      (t.translateOrDefault "title" none .empty "untitled").2 = (t.translate "title" none .empty).2 ∧
      ∀ locale ∈ ["fr", "en"], (t.translate "title" none .empty).2.store.has "title" locale = false := by
  intro t
  obtain ⟨leaves, -, ⟨-, same⟩ | ⟨-, -, absent, default, policy⟩⟩ :=
    t.translateOrDefault_translate "title" none .empty "untitled"
  · -- Nothing is stored, so that the two calls do not come to the same.
    have differ : ((t.translateOrDefault "title" none .empty "untitled").1.toOption.isSome) ≠
        (t.translate "title" none .empty).1.toOption.isSome := by decide +kernel
    exact absurd (congrArg (·.toOption.isSome) same) differ
  · exact ⟨policy, default t.handlers, leaves, absent none_local⟩

/-- The searcher that answers a search in English by storing the message in French, and reports nothing. -/
def sideways : Searcher Unit where
  search key locale _ := do
    if locale = "en" then Lookup.add key (.scalar "Titre") "fr"
    return []
  loadEverything _ _ := pure []
  forget := id
  reach _ := 1

/-- A search in the fallback may store the message for the locale that was asked for: then the two calls differ although
the key is stored there in the end. -/
theorem translateOrDefault_sideways :
    let t := fresh sideways () { locale := "fr", fallback := some "en" }
    create sideways () { locale := "fr", fallback := some "en" } = .ok t ∧
      (t.translate "title" none .empty).1 = .ok (.text "title") ∧
      (t.translateOrDefault "title" none .empty "untitled").1 = .ok (.text "untitled") ∧
      (t.translate "title" none .empty).2.store.has "title" "fr" = true ∧
      (t.translateOrDefault "title" none .empty "untitled").2.store.has "title" "fr" = true := by
  -- Both runs are computed.
  intro t
  have validated : ({ locale := "fr", fallback := some "en" } : Settings).validate = .ok () := by decide +kernel
  exact ⟨congrArg (Except.map _) validated, rfl, rfl, by decide +kernel, by decide +kernel⟩

end Translator

end Phrasebook
