import Phrasebook.Proofs.Translator.Lookup

/-! Calls with a record of the searches that they make, and of how these end. Keeping the record changes nothing else.
-/

namespace Phrasebook

/-- The error of a result that is one. -/
def Except.failure? {ε α : Type} : Except ε α → Option ε
  | .ok _ => none
  | .error error => some error

/-- A search that was made: for a key or for all of them, in a locale or in all of them, and the error in which it has
ended if it failed. -/
structure Searched where
  key : Option String
  locale : Option String
  failure : Option Error
deriving DecidableEq, Repr

namespace Searcher

variable {σ : Type} {α : Type}

/-- A step of a searcher that is put on record. -/
def noted (key locale : Option String) (step : Lookup σ α) : Lookup (σ × List Searched) α :=
  .ofOutcome fun library =>
    let ended := step.outcome ⟨library.store, library.state.1⟩
    (ended.1, ⟨ended.2.store, ended.2.state, library.state.2 ++ [⟨key, locale, Except.failure? ended.1⟩]⟩)

/-- The same searcher with a record of its searches, in their order. -/
def recorded (searcher : Searcher σ) : Searcher (σ × List Searched) where
  search key locale settings := noted (some key) (some locale) (searcher.search key locale settings)
  loadEverything locale settings := noted .none locale (searcher.loadEverything locale settings)
  forget state := (searcher.forget state.1, state.2)
  reach state := searcher.reach state.1

end Searcher

/-- A library with a record. -/
def Library.recording {σ : Type} (library : Library σ) (record : List Searched) : Library (σ × List Searched) :=
  ⟨library.store, library.state, record⟩

/-- Two runs are compared whatever the first one has on record. -/
def unrecorded (σ : Type) : Comparison (σ × List Searched) σ where
  fails _ := False
  spoilt _ := False
  link state other := other = state.1

/-- A step does the same when it is put on record. -/
theorem Searcher.noted_alike {σ α : Type} (key locale : Option String) (step : Lookup σ α) :
    (unrecorded σ).Alike (noted key locale step) step where
  keeps _ := False.elim
  follows library other linked := by
    -- Linked libraries are the same but for the record.
    obtain ⟨store, state⟩ := other
    obtain ⟨rfl, rfl⟩ : store = library.store ∧ state = library.state.1 := linked
    exact .inr ⟨rfl, rfl, rfl⟩

/-- How a step ends with a record follows from how it ends without one. -/
theorem Searcher.noted_meets {σ α : Type} {key locale : Option String} {step : Lookup σ α}
    {library : Library (σ × List Searched)} {answers : α → Library (σ × List Searched) → Prop}
    {fails : Error → Library (σ × List Searched) → Prop}
    (meets : step.Meets ⟨library.store, library.state.1⟩
      (fun x left => answers x ⟨left.store, left.state, library.state.2 ++ [⟨key, locale, .none⟩]⟩)
      fun error left => fails error ⟨left.store, left.state, library.state.2 ++ [⟨key, locale, some error⟩]⟩) :
    (noted key locale step).Meets library answers fails := by
  have ends : (noted key locale step).outcome library =
      let ended := step.outcome ⟨library.store, library.state.1⟩
      (ended.1, ⟨ended.2.store, ended.2.state, library.state.2 ++ [⟨key, locale, Except.failure? ended.1⟩]⟩) := rfl
  unfold Lookup.Meets at meets ⊢
  rw [ends]
  -- However the step ends, the record has one more entry and nothing else is changed.
  generalize step.outcome ⟨library.store, library.state.1⟩ = ended at meets ⊢
  obtain ⟨_ | _, left⟩ := ended <;> exact meets

namespace Translator

variable {σ α : Type} (t : Translator σ) (record : List Searched)

/-- The same translator with a record of what is searched for. -/
def recording (t : Translator σ) (record : List Searched) : Translator (σ × List Searched) :=
  { library := t.library.recording record
    searcher := t.searcher.recorded
    settings := t.settings
    grammar := t.grammar
    functions := t.functions
    handlers := t.handlers }

/-- What a translator with a record does like the one without leaves the same, but for the record. -/
theorem run_recording {noting : Lookup (σ × List Searched) α} {step : Lookup σ α}
    (alike : (unrecorded σ).Alike noting step) :
    ∃ searches, (t.recording record).run noting = ((t.run step).1, (t.run step).2.recording searches) := by
  -- Nothing excuses a difference here.
  rcases alike.follows (t.recording record).library t.library ⟨rfl, rfl⟩ with
    (⟨_, _, fails⟩ | spoilt) | ⟨same, stores, states⟩
  · exact fails.elim
  · exact spoilt.elim
  · rw [run_outcome, run_outcome]
    generalize noting.outcome (t.recording record).library = noted at same stores states ⊢
    generalize step.outcome t.library = plain at same stores states ⊢
    obtain ⟨result, store, state, searches⟩ := noted
    obtain ⟨_, _, _⟩ := plain
    cases same
    cases stores
    cases states
    exact ⟨searches, rfl⟩

/-- Expanding keys goes alike with a record. -/
theorem expandKeys_recording (locale : String) (keys : List String) :
    (unrecorded σ).Alike (((t.recording record).expansion locale).expandKeys keys)
      ((t.expansion locale).expandKeys keys) := by
  have parallel : Expansion.Parallel (unrecorded σ) ((t.recording record).expansion locale) (t.expansion locale) :=
    .of_search rfl rfl fun key => Searcher.noted_alike _ _ (t.searcher.search key locale t.settings)
  refine parallel.expandKeys (.inl rfl) (fun library other linked => ?_) keys
  -- The bound for the chains counts the same keys.
  obtain ⟨stores, states⟩ := linked
  have reach : t.searcher.reach other.state = t.searcher.reach library.state.1 := congrArg t.searcher.reach states
  simp only [Expansion.depth, expansion, recording, Searcher.recorded, stores, reach, Nat.add_zero]

/-- Looking up a key goes alike with a record. -/
theorem lookup?_recording (key locale : String) (arguments : Arguments) :
    (unrecorded σ).Alike ((t.recording record).lookup? key locale arguments) (t.lookup? key locale arguments) := by
  have fetch : (unrecorded σ).Alike ((t.recording record).fetch key locale) (t.fetch key locale) :=
    fetch_alike (fun key => Searcher.noted_alike _ _ (t.searcher.search key locale t.settings)) rfl
      fun _ _ linked => congrArg t.searcher.reach linked.2
  refine .bind fetch fun _ => .bind .store fun store => ?_
  -- The formatter does not know of the record.
  have formatter : (t.recording record).formatter key locale arguments = t.formatter key locale arguments := rfl
  rw [formatter]
  cases store.get? key locale with
  | none => exact .pure _
  | some value =>
    simp only
    cases (t.formatter key locale arguments).format value with
    | ok translation => exact .pure _
    | error error => exact .throw error

/-- What stands for no message is the same with a record. -/
theorem lastResort_recording (key last : String) (arguments : Arguments) (default : Option String) :
    (unrecorded σ).Alike
      (match default with
        | some text => return .text text
        | none => match (t.recording record).missing key last arguments with
          | .ok translation => return translation
          | .error error => throw error : Lookup (σ × List Searched) Translation)
      (match default with
        | some text => return .text text
        | none => match t.missing key last arguments with
          | .ok translation => return translation
          | .error error => throw error) := by
  -- Neither the default text nor the policy makes a search.
  have missing : (t.recording record).missing key last arguments = t.missing key last arguments := rfl
  rw [missing]
  cases default with
  | some text => exact .pure _
  | none =>
    simp only
    cases t.missing key last arguments with
    | ok translation => exact .pure _
    | error error => exact .throw error

/-- A call for a message goes alike with a record. -/
theorem resolve_recording (key : String) (asked : Option String) (arguments : Arguments) (default : Option String) :
    (unrecorded σ).Alike ((t.recording record).resolve key asked arguments default)
      (t.resolve key asked arguments default) := by
  have fallback : (t.recording record).fallbackFor? = t.fallbackFor? := rfl
  have settings : (t.recording record).settings = t.settings := rfl
  unfold resolve
  rw [fallback, settings]
  refine .bind (t.lookup?_recording record key _ arguments) fun answer => ?_
  cases answer with
  | some translation => exact .pure _
  | none =>
    -- Nothing is found in the locale asked for, and the fallback is tried if there is one.
    dsimp only
    cases t.fallbackFor? (asked.getD t.settings.locale) with
    | none => exact t.lastResort_recording record key _ arguments default
    | some other =>
      refine .bind (t.lookup?_recording record key other arguments) fun answer => ?_
      cases answer with
      | some translation => exact .pure _
      | none => exact t.lastResort_recording record key other arguments default

/-- Loading all messages goes alike with a record. -/
theorem loadEverything_recording (locale : Option String) :
    ∃ searches, (t.recording record).loadEverything locale =
      ((t.loadEverything locale).1, (t.loadEverything locale).2.recording searches) := by
  -- Loading is put on record, and then one expansion for each locale.
  refine t.run_recording record (.bind (Searcher.noted_alike _ _ _) fun loaded => ?_)
  refine .bind (.forM (fun entry => ?_) _) fun _ => .pure _
  exact t.expandKeys_recording record entry.1 entry.2

end Translator

end Phrasebook
