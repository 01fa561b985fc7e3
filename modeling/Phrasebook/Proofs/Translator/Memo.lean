import Mathlib.Data.Option.Defs
import Phrasebook.Proofs.Catalogue.Again
import Phrasebook.Proofs.Resource.Remembered
import Phrasebook.Proofs.Translator.Lookup

/-! Calls with files remembered and without: as long as nothing that was taken from a file is missed, all calls give the
same. -/

namespace Phrasebook

namespace Resource

/-- A source, and whether a search has come back to something that was taken from it before. -/
structure Watched where
  source : Source
  returned : Bool

/-- Searching resource files while watching whether a search comes back. -/
def watch : Searcher Watched where
  search key locale settings := .ofOutcome fun library =>
    let ended := (searcher.search key locale settings).outcome ⟨library.store, library.state.source⟩
    let fresh := freshFor library.state.source key locale settings
    (ended.1, ⟨ended.2.store, { source := ended.2.state, returned := library.state.returned || ! fresh }⟩)
  loadEverything locale settings := .ofOutcome fun library =>
    let ended := (searcher.loadEverything locale settings).outcome ⟨library.store, library.state.source⟩
    (ended.1, ⟨ended.2.store, { library.state with source := ended.2.state }⟩)
  forget watched := { watched with source := searcher.forget watched.source }
  reach watched := searcher.reach watched.source

/-- Watching a search changes nothing about it. -/
def unseen : Comparison Watched Source where
  fails _ := False
  spoilt _ := False
  link watched source := source = watched.source

/-- A search that is watched is compared with one without a memo, until it comes back. -/
def untilReturn (settings : Settings) : Comparison Watched Source where
  fails _ := False
  spoilt watched := watched.returned = true
  link watched := (forgetful settings).link watched.source

variable {key locale : String} {settings : Settings}

/-- Watching a searcher changes nothing of what it does. -/
theorem watch_unseen : unseen.Alike (watch.search key locale settings) (searcher.search key locale settings) where
  keeps _ := False.elim
  follows library other linked := by
    -- Linked libraries are the same but for what has been watched.
    obtain ⟨store, state⟩ := other
    obtain ⟨rfl, rfl⟩ : store = library.store ∧ state = library.state.source := linked
    exact .inr ⟨rfl, rfl, rfl⟩

/-- Until it comes back, a search goes as if nothing were remembered. -/
theorem watch_untilReturn :
    (untilReturn settings).Alike (watch.search key locale settings) (searcher.search key locale (plain settings)) where
  keeps library returned := by
    change (library.state.returned || _) = true
    rw [show library.state.returned = true from returned, Bool.true_or]
  follows library other linked := by
    cases fresh : freshFor library.state.source key locale settings with
    | false =>
      -- The search is noted as one that has come back, and nothing more is said.
      left
      right
      change (library.state.returned || ! freshFor library.state.source key locale settings) = true
      rw [fresh, Bool.not_false, Bool.or_true]
    | true =>
      have inner : (forgetful settings).Linked ⟨library.store, library.state.source⟩ other := linked
      rcases search_follows inner fresh with (⟨_, _, fails⟩ | spoilt) | ⟨same, links⟩
      · exact fails.elim
      · exact spoilt.elim
      · exact .inr ⟨same, links⟩

end Resource

/-- The same text, or the same variants, of which every one has the same text. -/
inductive Translation.Same : Translation → Translation → Prop where
  | text (text : String) : Same (.text text) (.text text)
  | variants {one two : VariantSet} (members : two.members = one.members)
    (texts : two.formatter.formatVariant = one.formatter.formatVariant) : Same (.variants one) (.variants two)

/-- Results are known by their texts and errors. -/
theorem Translation.eq_of_texts {results : List (Except Error Translation)} {expected : List (Except Error String)}
    (same : results.map (Except.map Translation.text?) = expected.map (Except.map some)) :
    results = expected.map (Except.map Translation.text) := by
  -- Result by result.
  induction results generalizing expected with
  | nil => rw [List.map_eq_nil_iff.1 same.symm, List.map_nil]
  | cons first rest ih =>
    cases expected with
    | nil => cases same
    | cons other more =>
      obtain ⟨here, later⟩ := List.cons.inj same
      rw [List.map_cons, Translation.eq_of_text? here, ih later]

/-- The same error, or results that belong together. -/
inductive Corresponds {α : Type} (same : α → α → Prop) : Except Error α → Except Error α → Prop where
  | error (error : Error) : Corresponds same (.error error) (.error error)
  | ok {one two : α} (related : same one two) : Corresponds same (.ok one) (.ok two)

/-- A translation is the same as itself. -/
theorem Translation.Same.refl (translation : Translation) : translation.Same translation := by
  -- A text, or variants that are formatted alike.
  cases translation with
  | text text => exact .text text
  | variants set => exact .variants rfl rfl

/-- Every result corresponds to itself. -/
theorem Corresponds.refl {α : Type} {same : α → α → Prop} (reflexive : ∀ x, same x x) (result : Except Error α) :
    Corresponds same result result := by
  -- An error, or an answer.
  cases result with
  | error error => exact .error error
  | ok x => exact .ok (reflexive x)

/-- Results that belong together do so as results that may be missing. -/
theorem Corresponds.map_some {α : Type} {same : α → α → Prop} {one two : Except Error α}
    (agree : Corresponds same one two) :
    Corresponds (Option.Rel same) (one.map some) (two.map some) := by
  -- An error, or an answer.
  cases agree with
  | error error => exact .error error
  | ok related => exact .ok (.some related)

/-- A call for a message, with a default text or without one. -/
structure Call where
  key : String
  locale : Option String := none
  arguments : Arguments := .empty
  default : Option String := none

open Resource (Source Watched plain forgetful watch unseen untilReturn)

namespace Translator

section Calls

variable {σ : Type}

/-- Making a call. -/
def call (t : Translator σ) (call : Call) : Except Error Translation × Translator σ :=
  match call.default with
  | none => t.translate call.key call.locale call.arguments
  | some text => t.translateOrDefault call.key call.locale call.arguments text

/-- The results of calls made one after the other. -/
def answers : Translator σ → List Call → List (Except Error Translation)
  | _, [] => []
  | t, call :: rest => (t.call call).1 :: (t.call call).2.answers rest

/-- The locales in which a call looks for its key, and the libraries in which it does. -/
def tries (t : Translator σ) (call : Call) : List (String × Library σ) :=
  let requested := call.locale.getD t.settings.locale
  let first := (t.lookup? call.key requested call.arguments).outcome t.library
  (requested, t.library) ::
    match first.1, t.fallbackFor? requested with
    | .ok none, some other => [(other, first.2)]
    | _, _ => []

end Calls

section Conditions

variable (t : Translator Source)

/-- The translator whose searches are watched. -/
def watched : Translator Watched :=
  { library := ⟨t.library.store, ⟨t.library.state, false⟩⟩
    searcher := watch
    settings := t.settings
    grammar := t.grammar
    functions := t.functions
    handlers := t.handlers }

/-- The same translator without a memo, with a library of its own. -/
def forgetting (library : Library Source) : Translator Source :=
  { t with library, settings := plain t.settings }

/-- What was taken from files is not missed when a key is fetched: the key is stored, or no search comes back, or all
files for the key are used up, and what they hold would be spelled out again to what is stored. -/
inductive Undisturbed (key locale : String) (library : Library Source) : Prop where
  | stored (there : library.store.has key locale = true)
  | fresh
    (first : ((t.watched.fetch key locale).outcome ⟨library.store, ⟨library.state, false⟩⟩).2.state.returned = false)
  | idle (used : Resource.usedUpFor library.state key locale t.settings = true)
    (readable : (Resource.finds library.state (plain t.settings) key locale).error = none)
    (settled : let found := Resource.finds library.state (plain t.settings) key locale
      (((t.forgetting library).expansion locale).alone.expandKeys found.keys).outcome
        ⟨library.store.putAll found.entries locale, ()⟩ =
        (.ok (), ⟨library.store, ()⟩))

/-- Whether a search is undisturbed is told by what is stored, by the search under watch and by the files that it finds,
so that it can be decided. -/
theorem undisturbed_iff {key locale : String} {library : Library Source} :
    let found := Resource.finds library.state (plain t.settings) key locale
    let settled := (((t.forgetting library).expansion locale).alone.expandKeys found.keys).outcome
      ⟨library.store.putAll found.entries locale, ()⟩
    t.Undisturbed key locale library ↔ library.store.has key locale = true ∨
      ((t.watched.fetch key locale).outcome ⟨library.store, ⟨library.state, false⟩⟩).2.state.returned = false ∨
      (Resource.usedUpFor library.state key locale t.settings = true ∧ found.error = none ∧
        settled.1 = .ok () ∧ settled.2.store = library.store) := by
  -- One test for each case; of an expansion its result and the store that it leaves are all that counts.
  intro found settled
  constructor
  · rintro (there | first | ⟨used, readable, same⟩)
    · exact .inl there
    · exact .inr (.inl first)
    · exact .inr (.inr ⟨used, readable, congrArg Prod.fst same, congrArg (·.2.store) same⟩)
  · rintro (there | first | ⟨used, readable, ok, same⟩)
    · exact .stored there
    · exact .fresh first
    · exact .idle used readable (Prod.ext ok (by change settled.2 = _; rw [← same]))

instance (key locale : String) (library : Library Source) : Decidable (t.Undisturbed key locale library) :=
  decidable_of_iff' _ t.undisturbed_iff

/-- Nothing that was taken from files is missed by calls made one after the other. -/
def Steadfast : Translator Source → List Call → Prop
  | _, [] => True
  | t, call :: rest =>
    (∀ tried ∈ t.tries call, t.Undisturbed call.key tried.1 tried.2) ∧ Steadfast (t.call call).2 rest

instance : (t : Translator Source) → (calls : List Call) → Decidable (t.Steadfast calls)
  | _, [] => .isTrue trivial
  | t, call :: rest =>
    have : Decidable ((t.call call).2.Steadfast rest) := instDecidableSteadfast _ rest
    inferInstanceAs (Decidable (_ ∧ _))

end Conditions

section Memo

variable {t : Translator Source} (files : t.searcher = Resource.searcher) {key locale : String} {arguments : Arguments}
  {library other : Library Source}
include files

/-- As long as no search comes back, fetching a key goes as if nothing were remembered. The watched translator stands
between the two: it does what the one with the memo does, and what the other one does until it notes a return. -/
theorem fetch_of_fresh (linked : (forgetful t.settings).Linked library other)
    (first : ((t.watched.fetch key locale).outcome ⟨library.store, ⟨library.state, false⟩⟩).2.state.returned = false) :
    (forgetful t.settings).Follows (t.fetch key locale) library ((t.forgetting other).fetch key locale) other := by
  have seen : unseen.Alike (t.watched.fetch key locale) (t.fetch key locale) := by
    refine fetch_alike (fun key => ?_) rfl fun library other linked => ?_
    · rw [files]
      exact Resource.watch_unseen
    · rw [files]
      rfl
  have goes : (untilReturn t.settings).Alike (t.watched.fetch key locale) ((t.forgetting other).fetch key locale) := by
    refine fetch_alike (fun key => ?_) rfl fun library other linked => ?_
    · change (untilReturn t.settings).Alike _ (t.searcher.search key locale (plain t.settings))
      rw [files]
      exact Resource.watch_untilReturn
    · change t.searcher.reach _ = _
      rw [files]
      rfl
  let start : Library Watched := ⟨library.store, ⟨library.state, false⟩⟩
  have shows := seen.follows start library ⟨rfl, rfl⟩
  have follows := goes.follows start other linked
  rcases shows with (⟨_, _, fails⟩ | spoilt) | ⟨same, stores, states⟩
  · exact fails.elim
  · exact spoilt.elim
  rcases follows with (⟨_, _, fails⟩ | returned) | ⟨answers, links, tracks⟩
  · exact fails.elim
  · -- The note says that no search has come back.
    exact absurd (first.symm.trans returned) Bool.false_ne_true
  · refine .inr ⟨answers.trans same.symm, links.trans stores.symm, ?_⟩
    rw [show ((t.fetch key locale).outcome library).2.state = _ from states]
    exact tracks

/-- A key whose files are used up is missing, with a memo or without one. -/
theorem fetch_of_idle (linked : (forgetful t.settings).Linked library other)
    (missing : library.store.has key locale = false)
    (used : Resource.usedUpFor library.state key locale t.settings = true)
    (readable : (Resource.finds library.state (plain t.settings) key locale).error = none)
    (settled : let found := Resource.finds library.state (plain t.settings) key locale
      (((t.forgetting library).expansion locale).alone.expandKeys found.keys).outcome
        ⟨library.store.putAll found.entries locale, ()⟩ =
        (.ok (), ⟨library.store, ()⟩)) :
    (forgetful t.settings).Follows (t.fetch key locale) library ((t.forgetting other).fetch key locale) other := by
  obtain ⟨stores, tracks, states⟩ := linked
  -- With a memo nothing is found any more.
  have memo : (t.fetch key locale).outcome library = (.ok (), library) := by
    rw [fetch_of_missing t missing, files, Lookup.outcome_bind, Resource.search_of_usedUp used]
    rfl
  have alsoMissing : other.store.has key locale = false := by rw [stores, missing]
  have unknown : other.state.remembered = .empty := by rw [states]
  have same : Resource.finds other.state (plain t.settings) = Resource.finds library.state (plain t.settings) :=
    Resource.finds_congr (by rw [states]) (by rw [states])
  -- Without a memo everything is loaded once more, and expanded to what it was before.
  have off : (plain t.settings).memoize = false := rfl
  obtain ⟨state, rfl, searches⟩ := Resource.searcher_steady off unknown key locale other rfl
  have plainFetch : ((t.forgetting other).fetch key locale).outcome other = (.ok (), ⟨library.store, other.state⟩) := by
    rw [← files] at searches
    change ((t.forgetting other).searcher.search key locale (t.forgetting other).settings).outcome other = _ at searches
    rw [fetch_of_missing (t.forgetting other) alsoMissing, Lookup.outcome_bind, searches, same, Finding.answer,
      readable, stores]
    generalize Resource.finds library.state (plain t.settings) key locale = found at settled
    exact Expansion.expandKeys_of_alone ((t.forgetting other).expansion locale)
      ⟨library.store.putAll found.entries locale, other.state⟩ settled
  unfold Comparison.Follows
  rw [memo, plainFetch]
  exact .inr ⟨rfl, rfl, tracks, states⟩

/-- Fetching a key without missing anything goes as if nothing were remembered. -/
theorem fetch_follows (linked : (forgetful t.settings).Linked library other)
    (undisturbed : t.Undisturbed key locale library) :
    (forgetful t.settings).Follows (t.fetch key locale) library ((t.forgetting other).fetch key locale) other := by
  -- One case for each reason why nothing is missed.
  cases there : library.store.has key locale with
  | true =>
    have alsoThere : other.store.has key locale = true := by rw [linked.1, there]
    unfold Comparison.Follows
    rw [fetch_of_has t there, fetch_of_has (t.forgetting other) alsoThere]
    exact .inr ⟨rfl, linked⟩
  | false =>
    cases undisturbed with
    | stored has => exact absurd (has.symm.trans there) (Bool.false_ne_true ·.symm)
    | fresh first => exact fetch_of_fresh files linked first
    | idle used readable settled => exact fetch_of_idle files linked there used readable settled

omit files in
/-- A message is formatted in the same way without a memo. -/
theorem format_agree (t : Translator Source) (key locale : String) (arguments : Arguments) (other : Library Source)
    (value : Value) :
    Corresponds Translation.Same ((t.formatter key locale arguments).format value)
      (((t.forgetting other).formatter key locale arguments).format value) := by
  -- The formatters are different as they hold the settings, but none of their functions asks for the memo.
  have single (value : Value) :
      Corresponds Translation.Same
        ((((t.formatter key locale arguments).pluralize value).bind (t.formatter key locale arguments).substitute).map
          Translation.text)
        (((((t.forgetting other).formatter key locale arguments).pluralize value).bind
          ((t.forgetting other).formatter key locale arguments).substitute).map Translation.text) := by
    change Corresponds Translation.Same _
      ((((t.formatter key locale arguments).pluralize value).bind (t.formatter key locale arguments).substitute).map
          Translation.text)
    cases ((t.formatter key locale arguments).pluralize value).bind (t.formatter key locale arguments).substitute with
    | error error => exact .error error
    | ok text => exact .ok (.text text)
  cases value with
  | scalar template => exact single (.scalar template)
  | plural forms => exact single (.plural forms)
  | variants members =>
    have counts : ((t.forgetting other).formatter key locale arguments).count? =
        (t.formatter key locale arguments).count? := rfl
    have texts : (members.mapM fun member =>
          (((t.forgetting other).formatter key locale arguments).pluralizeVariant member).map Variant.text) =
        members.mapM fun member => ((t.formatter key locale arguments).pluralizeVariant member).map Variant.text := rfl
    unfold Formatter.format
    simp only [counts, texts]
    cases (t.formatter key locale arguments).count? with
    | none => exact .ok (.variants rfl rfl)
    | some count =>
      simp only
      cases members.mapM
          fun member => ((t.formatter key locale arguments).pluralizeVariant member).map Variant.text with
      | error error => exact .error error
      | ok members => exact .ok (.variants rfl rfl)

/-- A lookup that misses nothing finds the same without a memo. -/
theorem lookup?_agrees (arguments : Arguments) (linked : (forgetful t.settings).Linked library other)
    (undisturbed : t.Undisturbed key locale library) :
    let one := (t.lookup? key locale arguments).outcome library
    let two := ((t.forgetting other).lookup? key locale arguments).outcome other
    Corresponds (Option.Rel Translation.Same) one.1 two.1 ∧ (forgetful t.settings).Linked one.2 two.2 := by
  rcases fetch_follows files linked undisturbed with (⟨_, _, fails⟩ | spoilt) | ⟨same, links⟩
  · exact fails.elim
  · exact spoilt.elim
  rw [lookup?_outcome, lookup?_outcome]
  refine ⟨?_, links⟩
  simp only [same]
  -- Both fetches end alike, with the same messages stored.
  cases ((t.fetch key locale).outcome library).1 with
  | error error => exact .error error
  | ok _ =>
    simp only [Except.bind, answer?, links.1]
    cases ((t.fetch key locale).outcome library).2.store.get? key locale with
    | none => exact .ok .none
    | some value => exact (format_agree t key locale arguments other value).map_some

omit files in
/-- What a call comes to in the last locale is the same without a memo. -/
theorem conclude_agrees (t : Translator Source) (key last : String) (arguments : Arguments) (default : Option String)
    (other : Library Source) {one two : Except Error (Option Translation)}
    (agree : Corresponds (Option.Rel Translation.Same) one two) :
    Corresponds Translation.Same (t.conclude key last arguments default one)
      ((t.forgetting other).conclude key last arguments default two) := by
  -- Without a message both calls come to the last resort, which does not ask for the memo.
  cases agree with
  | error error => exact .error error
  | ok related =>
    cases related with
    | some same => exact .ok same
    | none =>
      have resort : (t.forgetting other).lastResort key last arguments default =
          t.lastResort key last arguments default := rfl
      simp only [conclude, resort]
      exact .refl .refl _

omit files in
/-- A call is a step of the library. -/
theorem call_eq {σ : Type} (t : Translator σ) (call : Call) :
    t.call call =
      let ended := (t.resolve call.key call.locale call.arguments call.default).outcome t.library
      (ended.1, { t with library := ended.2 }) := by
  obtain ⟨key, locale, arguments, default⟩ := call
  cases default <;> rfl

/-- A call that misses nothing ends in the same way without a memo. -/
theorem resolve_agrees (linked : (forgetful t.settings).Linked t.library other) {call : Call}
    (undisturbed : ∀ tried ∈ t.tries call, t.Undisturbed call.key tried.1 tried.2) :
    let one := (t.resolve call.key call.locale call.arguments call.default).outcome t.library
    let two := ((t.forgetting other).resolve call.key call.locale call.arguments call.default).outcome other
    Corresponds Translation.Same one.1 two.1 ∧ (forgetful t.settings).Linked one.2 two.2 := by
  simp only [tries] at undisturbed
  have here := undisturbed _ List.mem_cons_self
  obtain ⟨agree, links⟩ := lookup?_agrees files call.arguments linked here
  have fallback : (t.forgetting other).fallbackFor? = t.fallbackFor? := rfl
  have default : (t.forgetting other).settings.locale = t.settings.locale := rfl
  simp only [resolve_outcome, fallback, default]
  generalize (t.lookup? call.key (call.locale.getD t.settings.locale) call.arguments).outcome t.library = one
    at undisturbed agree links ⊢
  generalize ((t.forgetting other).lookup? call.key (call.locale.getD t.settings.locale)
    call.arguments).outcome other = two at agree links ⊢
  obtain ⟨answer, left⟩ := one
  obtain ⟨answerAlso, leftAlso⟩ := two
  simp only at agree links undisturbed ⊢
  -- The fallback locale comes into play only if nothing is found.
  have last := conclude_agrees t call.key (call.locale.getD t.settings.locale) call.arguments call.default other agree
  cases agree with
  | error error => exact ⟨last, links⟩
  | ok related =>
    cases related with
    | some same => exact ⟨last, links⟩
    | none =>
      cases next : t.fallbackFor? (call.locale.getD t.settings.locale) with
      | none => exact ⟨last, links⟩
      | some locale =>
        have there := undisturbed (locale, left) (by simp [next])
        obtain ⟨agree, links⟩ := lookup?_agrees files call.arguments links there
        exact ⟨conclude_agrees t call.key locale call.arguments call.default other agree, links⟩

/-- A call that misses nothing gives the same without a memo. -/
theorem call_agrees (linked : (forgetful t.settings).Linked t.library other) {call : Call}
    (undisturbed : ∀ tried ∈ t.tries call, t.Undisturbed call.key tried.1 tried.2) :
    Corresponds Translation.Same (t.call call).1 ((t.forgetting other).call call).1 ∧
      ∃ after, ((t.forgetting other).call call).2 = (t.call call).2.forgetting after ∧
        (forgetful (t.call call).2.settings).Linked (t.call call).2.library after := by
  -- A call resolves its key and keeps the library that is left.
  obtain ⟨agree, links⟩ := resolve_agrees files linked undisturbed
  rw [call_eq, call_eq]
  exact ⟨agree, _, rfl, links⟩

end Memo

/-- As long as nothing that was taken from files is missed, calls give the same whether files are remembered or not. -/
theorem answers_forgetting {t : Translator Source} (files : t.searcher = Resource.searcher)
    (unknown : t.library.state.remembered = .empty) {calls : List Call} (steadfast : t.Steadfast calls) :
    List.Forall₂ (Corresponds Translation.Same) (t.answers calls)
      (({ t with settings := plain t.settings } : Translator Source).answers calls) := by
  -- The library of the translator that remembers nothing goes its own way, linked to the other one.
  have related (other : Library Source) (linked : (forgetful t.settings).Linked t.library other) :
      List.Forall₂ (Corresponds Translation.Same) (t.answers calls) ((t.forgetting other).answers calls) := by
    clear unknown
    induction calls generalizing t other with
    | nil => exact .nil
    | cons call rest ih =>
      obtain ⟨agree, after, next, links⟩ := call_agrees files linked steadfast.1
      have searcher : (t.call call).2.searcher = Resource.searcher := by rw [call_eq, ← files]
      rw [answers, answers, next]
      exact .cons agree (ih searcher steadfast.2 after links)
  refine related t.library ⟨rfl, fun place data held => ?_, ?_⟩
  · rw [unknown, Dict.get?_empty] at held
    cases held
  · rw [← unknown]

/-- A file that is divided by locales. -/
def divided : Source :=
  { files := .directory (.ofList [("app", .directory (.ofList
      [("foo.yml", .file "en:\n  a: A\n  b: '%{.a}B'\nfr:\n  a: C\n".toUTF8)]))])
    formats := .standard }

/-- Settings to search for it and to remember what it holds. -/
def remembering : Settings :=
  { loadPath := ["/app"], filenameFormat := "{namespace}.{format}", memoize := true }

/-- A translator for this file and settings. -/
def dividing (settings : Settings) : Translator Source :=
  { library := ⟨.empty, divided⟩, searcher := Resource.searcher, settings, grammar := .ofSettings settings
    functions := .empty, handlers := {} }

/-- Each section is asked for once, and a message that it does not hold is missing however it is looked for. -/
theorem answers_forgetting_divided :
    let calls : List Call := [{ key := "foo.a" }, { key := "foo.a", locale := some "fr" }, { key := "foo.c" }]
    (dividing remembering).Steadfast calls ∧
      List.Forall₂ (Corresponds Translation.Same) ((dividing remembering).answers calls)
        ((dividing (plain remembering)).answers calls) := by
  -- That nothing is missed is computed.
  intro calls
  have steadfast : (dividing remembering).Steadfast calls := by decide +kernel
  exact ⟨steadfast, answers_forgetting rfl rfl steadfast⟩

/-- A message of a section that has been taken is missed: the section is said not to be there, while without a memo the
fallback locale has the message. -/
theorem divided_missed :
    let calls : List Call := [{ key := "foo.a", locale := some "fr" }, { key := "foo.b", locale := some "fr" }]
    Translator.create Resource.searcher divided remembering = .ok (dividing remembering) ∧
      Translator.create Resource.searcher divided (plain remembering) = .ok (dividing (plain remembering)) ∧
      (dividing remembering).answers calls =
        [.ok (.text "C"), .error (.load "error getting data from /app/foo.yml: fr not defined")] ∧
      (dividing (plain remembering)).answers calls = [.ok (.text "C"), .ok (.text "AB")] := by
  intro calls
  have created (settings : Settings) (valid : settings.validate = .ok ()) :
      Translator.create Resource.searcher divided settings = .ok (dividing settings) := by
    rw [create, valid]
    rfl
  -- The answers are computed by their texts and errors.
  have memo : (dividing remembering).answers calls = List.map (Except.map Translation.text)
      [.ok "C", .error (.load "error getting data from /app/foo.yml: fr not defined")] :=
    Translation.eq_of_texts (by decide +kernel)
  have forgetful : (dividing (plain remembering)).answers calls = List.map (Except.map Translation.text)
      [.ok "C", .ok "AB"] := Translation.eq_of_texts (by decide +kernel)
  exact ⟨created _ (by decide +kernel), created _ (by decide +kernel), memo, forgetful⟩

end Translator

end Phrasebook
