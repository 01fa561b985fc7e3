import Phrasebook.Proofs.Translator.Misses

/-! The settings of a translator and the grammar it reads templates with never part: whatever is done to it, the
settings are valid and the grammar is the one that they ask for. -/

namespace Phrasebook.Translator

variable {σ : Type} {t : Translator σ}

/-- The settings are valid, and the grammar is the one that they ask for. -/
structure Coherent (t : Translator σ) : Prop where
  valid : t.settings.validate = .ok ()
  suits : t.grammar.suits t.settings = true

/-- What a call leaves, also if it is a change of the settings and is refused. -/
def after (t : Translator σ) : Operation → Translator σ
  | .updateSettings change => (t.undergo (revise change)).2
  | .set name value => (t.undergo (assign name value)).2
  | .reset => (t.undergo startOver).2
  | other => t.perform other

/-- No call leaves anything else where it is refused than where it is dropped. -/
theorem after_eq_perform (t : Translator σ) (operation : Operation) : t.after operation = t.perform operation := by
  -- A change of the settings that is refused leaves the translator as it was, so that it does not matter whether it is
  -- dropped.
  cases operation with
  | updateSettings change => exact (orSame_changed (t.revise_settles change)).symm
  | set name value => exact (orSame_changed (t.assign_settles name value)).symm
  | reset => exact t.orSame_reset.symm
  | _ => rfl

/-- A translator with valid settings and their grammar is coherent. -/
theorem under_coherent (t : Translator σ) {settings : Settings} (valid : settings.validate = .ok ()) :
    (t.under settings).Coherent :=
  ⟨valid, Grammar.suits_iff.2 rfl⟩

/-- A change that settles keeps a translator coherent, refused or not. -/
theorem Settles.coherent {change : Change σ Unit} (settles : t.Settles change) (coherent : t.Coherent) :
    (t.undergo change).2.Coherent := by
  -- Nothing has changed, or valid settings have been adopted.
  rcases settles with ⟨error, ends⟩ | ⟨settings, valid, ends⟩ <;> rw [ends]
  · exact coherent
  · exact t.under_coherent valid

/-- A translator is created coherent. -/
theorem fresh_coherent (searcher : Searcher σ) (state : σ) {settings : Settings} (valid : settings.validate = .ok ()) :
    (fresh searcher state settings).Coherent :=
  ⟨valid, Grammar.suits_iff.2 rfl⟩

/-- No call makes settings and grammar part. -/
theorem after_coherent (coherent : t.Coherent) (operation : Operation) : (t.after operation).Coherent := by
  cases operation with
  | updateSettings change => exact (t.revise_settles change).coherent coherent
  | set name value => exact (t.assign_settles name value).coherent coherent
  | reset =>
    change (t.undergo startOver).2.Coherent
    rw [undergo_startOver]
    exact fresh_coherent _ _ Settings.validate_default
  -- No other call touches either of them.
  | _ => exact ⟨coherent.valid, coherent.suits⟩

/-- Nor do several calls. -/
theorem coherent_of_run (coherent : t.Coherent) (operations : List Operation) :
    (operations.foldl after t).Coherent := by
  -- Call by call.
  induction operations generalizing t with
  | nil => exact coherent
  | cons operation rest ih => exact ih (after_coherent coherent operation)

/-- After any calls the settings are valid and the grammar is the one that they ask for, and a change of the settings
that is refused then leaves everything as it is. -/
theorem coherent_always {searcher : Searcher σ} {state : σ} {settings : Settings} {created : Translator σ}
    (creates : create searcher state settings = .ok created) (operations : List Operation) :
    let t := operations.foldl after created
    t.settings.validate = .ok () ∧ t.grammar.suits t.settings = true ∧
      (∀ name value error, (t.undergo (assign name value)).1 = .error error → (t.undergo (assign name value)).2 = t) ∧
      (∀ change error, (t.undergo (revise change)).1 = .error error → (t.undergo (revise change)).2 = t) := by
  -- A new translator is coherent, and every call keeps it so.
  intro t
  obtain ⟨valid, rfl⟩ := create_eq_ok_iff.1 creates
  have coherent : t.Coherent := coherent_of_run (fresh_coherent searcher state valid) operations
  exact ⟨coherent.valid, coherent.suits, fun name value _ => (t.assign_settles name value).unchanged,
    fun change _ => (t.revise_settles change).unchanged⟩

/-- A translator that searches no files and has been given another delimiter refuses settings that are of no use, and
keeps the delimiter. -/
theorem coherent_always_slashed :
    ∃ created, create Table.searcher gappy {} = .ok created ∧
      let t := [.set "namespace_delimiter" "/", .set "few_threshold" "0", .set "colour" "red",
        .updateSettings fun settings => { settings with locale := "", placeholderDelimiter := "$" }].foldl after created
      t.grammar = { placeholder := ['%'], space := ['/'], argument := ['|'] } ∧ t.grammar.suits t.settings = true ∧
        (t.undergo (assign "placeholder_delimiter" "\x7b")).1 =
          .error (.config (.forbiddenInDelimiter .placeholder "\x7b")) ∧
        (t.undergo (assign "placeholder_delimiter" "\x7b")).2 = t := by
  have creates : create Table.searcher gappy {} = .ok (fresh Table.searcher gappy {}) :=
    create_eq_ok_iff.2 ⟨Settings.validate_default, rfl⟩
  refine ⟨_, creates, ?_⟩
  intro t
  obtain ⟨-, suits, unchanged, -⟩ := coherent_always creates
    [.set "namespace_delimiter" "/", .set "few_threshold" "0", .set "colour" "red",
      .updateSettings fun settings => { settings with locale := "", placeholderDelimiter := "$" }]
  have refused : (t.undergo (assign "placeholder_delimiter" "\x7b")).1 =
      .error (.config (.forbiddenInDelimiter .placeholder "\x7b")) := by decide +kernel
  -- Only the first of the calls is accepted.
  exact ⟨by decide +kernel, suits, refused, unchanged _ _ _ refused⟩

end Phrasebook.Translator
