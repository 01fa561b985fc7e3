import Phrasebook.Proofs.Catalogue.Lockstep
import Phrasebook.Translator

/-! How a call of a translator ends: the locales in which it looks for a key, one after the other. -/

namespace Phrasebook

/-- The text of a formatted message that is one. -/
def Translation.text? : Translation → Option String
  | .text spelled => some spelled
  | .variants _ => none

/-- A result is known by its text or its error. -/
theorem Translation.eq_of_text? {result : Except Error Translation} {expected : Except Error String}
    (same : result.map Translation.text? = expected.map some) : result = expected.map Translation.text := by
  -- Variants have no text, so that the others are the only cases.
  match result, expected with
  | .error _, .error _ => rw [Except.error.inj same]; rfl
  | .ok (.text spelled), .ok other =>
    obtain rfl : spelled = other := Option.some.inj (Except.ok.inj same)
    rfl
  | .ok (.variants _), .ok _ => cases same
  | .ok _, .error _ => cases same
  | .error _, .ok _ => cases same

namespace Translator

variable {σ τ : Type} (t : Translator σ) {key locale : String} {arguments : Arguments} {library : Library σ}

/-- A step leaves another library, and the rest of the translator as it is. -/
theorem run_outcome {α : Type} (step : Lookup σ α) :
    t.run step = ((step.outcome t.library).1, { t with library := (step.outcome t.library).2 }) :=
  rfl

/-- What the stored messages say about a key in a locale: nothing, or the formatted message. -/
def answer? (key locale : String) (arguments : Arguments) (store : Store) : Except Error (Option Translation) :=
  match store.get? key locale with
  | none => .ok none
  | some value => ((t.formatter key locale arguments).format value).map some

/-- The result where no locale has a message: the default text, or what the policy decides. -/
def lastResort (key last : String) (arguments : Arguments) (default : Option String) : Except Error Translation :=
  match default with
  | some text => .ok (.text text)
  | none => t.missing key last arguments

/-- What a call comes to in the last locale it looks in. -/
def conclude (key last : String) (arguments : Arguments) (default : Option String) :
    Except Error (Option Translation) → Except Error Translation
  | .error error => .error error
  | .ok (some translation) => .ok translation
  | .ok none => t.lastResort key last arguments default

/-- The only error where no locale has a message says so. -/
theorem lastResort_error {last : String} {default : Option String} {error : Error}
    (fails : t.lastResort key last arguments default = .error error) : error = .notFound key last := by
  unfold lastResort missing at fails
  cases default with
  | some text => cases fails
  | none =>
    -- Of the policies only one gives an error.
    simp only at fails
    split at fails
    · exact (Except.error.inj fails).symm
    · cases fails
    · cases fails

/-- A stored message is not searched for. -/
theorem fetch_of_has (there : library.store.has key locale = true) :
    (t.fetch key locale).outcome library = (.ok (), library) := by
  -- The store is asked first.
  change (if library.store.has key locale = true then pure () else _ : Lookup σ Unit).outcome library = _
  rw [if_pos there]
  rfl

/-- A message that is not stored is searched for, and what the search brings is expanded. -/
theorem fetch_of_missing (missing : library.store.has key locale = false) :
    (t.fetch key locale).outcome library =
      (t.searcher.search key locale t.settings >>= (t.expansion locale).expandKeys).outcome library := by
  -- The store is asked first, and has nothing.
  change (if library.store.has key locale = true then pure () else
    t.searcher.search key locale t.settings >>= (t.expansion locale).expandKeys : Lookup σ Unit).outcome library = _
  rw [missing]
  rfl

/-- Fetching a key goes alike if the searches do. -/
theorem fetch_alike {comparison : Comparison σ τ} {one : Translator σ} {two : Translator τ} {key locale : String}
    (searches : ∀ key, comparison.Alike (one.searcher.search key locale one.settings)
      (two.searcher.search key locale two.settings))
    (grammar : two.grammar = one.grammar)
    (reach : ∀ library other, comparison.Linked library other →
      two.searcher.reach other.state = one.searcher.reach library.state) :
    comparison.Alike (one.fetch key locale) (two.fetch key locale) := by
  have parallel : Expansion.Parallel comparison (one.expansion locale) (two.expansion locale) :=
    .of_search grammar rfl searches
  -- The bound is made of the store and the reach, which are the same in both.
  have depth (library : Library σ) (other : Library τ) (linked : comparison.Linked library other) :
      (two.expansion locale).depth other = (one.expansion locale).depth library + 0 := by
    have same : two.searcher.reach other.state = one.searcher.reach library.state := reach library other linked
    simp only [Expansion.depth, expansion, linked.1, same, Nat.add_zero]
  refine .bind (.has key locale) fun there => ?_
  cases there with
  | true => exact .pure ()
  | false => exact .bind (searches key) (parallel.expandKeys (.inl rfl) depth)

/-- A lookup says what the stored messages say once the key has been fetched. -/
theorem lookup?_outcome : (t.lookup? key locale arguments).outcome library =
    let fetched := (t.fetch key locale).outcome library
    (fetched.1.bind fun _ => t.answer? key locale arguments fetched.2.store, fetched.2) := by
  rw [lookup?, Lookup.outcome_bind]
  -- If fetching fails, so does the lookup; else the message is read and formatted.
  generalize (t.fetch key locale).outcome library = ended
  obtain ⟨_ | _, left⟩ := ended
  · rfl
  · simp only [Lookup.outcome_bind, Lookup.outcome_store, answer?, Except.bind]
    cases left.store.get? key locale with
    | none => rfl
    | some value =>
      simp only
      cases (t.formatter key locale arguments).format value <;> rfl

/-- A lookup leaves what fetching the key leaves. -/
theorem lookup?_library (key locale : String) (arguments : Arguments) (library : Library σ) :
    ((t.lookup? key locale arguments).outcome library).2 = ((t.fetch key locale).outcome library).2 := by
  rw [lookup?_outcome]

/-- A lookup that gives an answer gives the one of the messages that it leaves. -/
theorem lookup?_ok {answer : Option Translation} {left : Library σ}
    (ends : (t.lookup? key locale arguments).outcome library = (.ok answer, left)) :
    t.answer? key locale arguments left.store = .ok answer := by
  -- A fetch that fails gives no answer.
  rw [lookup?_outcome] at ends
  generalize (t.fetch key locale).outcome library = ended at ends
  obtain ⟨_ | _, last⟩ := ended
  · cases ends
  · obtain ⟨answers, rfl⟩ := Prod.mk.inj ends
    exact answers

/-- A call that finds no message ends in its default text or in what the policy decides. -/
theorem lastResort_outcome (last : String) (default : Option String) (library : Library σ) :
    (match default with
      | some text => return .text text
      | none => match t.missing key last arguments with
        | .ok translation => return translation
        | .error error => throw error : Lookup σ Translation).outcome library =
      (t.lastResort key last arguments default, library) := by
  -- Neither of the two ways touches the library.
  unfold lastResort
  cases default with
  | some text => rfl
  | none =>
    simp only
    cases t.missing key last arguments <;> rfl

/-- A call looks in the locale asked for, then in the fallback locale, and last gives what stands for no message. -/
theorem resolve_outcome {asked : Option String} {default : Option String} :
    (t.resolve key asked arguments default).outcome library =
      let requested := asked.getD t.settings.locale
      let first := (t.lookup? key requested arguments).outcome library
      match first.1, t.fallbackFor? requested with
      | .ok none, some other =>
        let second := (t.lookup? key other arguments).outcome first.2
        (t.conclude key other arguments default second.1, second.2)
      | answer, _ => (t.conclude key requested arguments default answer, first.2) := by
  simp only [resolve, Lookup.outcome_bind]
  -- The first lookup fails, finds nothing, or finds a message.
  generalize (t.lookup? key (asked.getD t.settings.locale) arguments).outcome library = ended
  obtain ⟨_ | (_ | translation), left⟩ := ended
  · rfl
  · simp only
    cases t.fallbackFor? (asked.getD t.settings.locale) with
    | none => exact t.lastResort_outcome _ default left
    | some other =>
      simp only [Lookup.outcome_bind]
      generalize (t.lookup? key other arguments).outcome left = ended
      obtain ⟨_ | (_ | translation), after⟩ := ended
      · rfl
      · exact t.lastResort_outcome _ default after
      · rfl
  · rfl

end Translator

end Phrasebook
