import Mathlib.Control.Monad.Basic
import Phrasebook.Translator

/-! What a change of the settings does: it is refused before anything is touched, or valid settings and the grammar that
they ask for are taken up together. -/

namespace Phrasebook

/-- A grammar suits settings if it is the one that they ask for. -/
theorem Grammar.suits_iff {grammar : Grammar} {settings : Settings} :
    grammar.suits settings = true ↔ grammar = .ofSettings settings :=
  beq_iff_eq

/-- The default settings are valid. -/
theorem Settings.validate_default : ({} : Settings).validate = .ok () := by
  decide +kernel

namespace Translator

variable {σ : Type} (t : Translator σ)

/-- The translator with other settings, and with the grammar that they ask for. -/
def under (settings : Settings) : Translator σ :=
  { t with settings, grammar := .ofSettings settings }

/-- The translator that is created for settings that are valid. -/
def fresh (searcher : Searcher σ) (state : σ) (settings : Settings) : Translator σ :=
  { library := { store := .empty, state }
    searcher
    settings
    grammar := .ofSettings settings
    functions := .empty
    handlers := {} }

/-- A translator is created where the settings are valid, and only there. -/
theorem create_eq_ok_iff {searcher : Searcher σ} {state : σ} {settings : Settings} {created : Translator σ} :
    create searcher state settings = .ok created ↔
      settings.validate = .ok () ∧ created = fresh searcher state settings := by
  -- The check is the only thing that can fail.
  unfold create
  cases settings.validate with
  | error error => simp [Except.map]
  | ok _ => simp [Except.map, fresh, eq_comm]

/-- A change is refused and leaves everything as it is, or it takes up valid settings with their grammar, and nothing
else changes. -/
def Settles (change : Change σ Unit) : Prop :=
  (∃ error, t.undergo change = (.error error, t)) ∨
    ∃ settings, settings.validate = .ok () ∧ t.undergo change = (.ok (), t.under settings)

variable {t} in
/-- A change that is refused leaves everything as it is. -/
theorem Settles.unchanged {change : Change σ Unit} (settles : t.Settles change) {error : SettingsError}
    (refused : (t.undergo change).1 = .error error) : (t.undergo change).2 = t := by
  rcases settles with ⟨_, ends⟩ | ⟨settings, -, ends⟩
  · rw [ends]
  · -- Settings that are taken up are not refused.
    rw [ends] at refused
    cases refused

/-- Settings are taken up if they are valid. Where the grammar is kept it is the one that they ask for. -/
theorem undergo_adopt (settings : Settings) :
    t.undergo (adopt settings) =
      match settings.validate with
      | .error error => (.error error, t)
      | .ok _ => (.ok (), t.under settings) := by
  unfold adopt undergo
  cases settings.validate with
  | error error => rfl
  | ok _ =>
    change Id.run ((ExceptT.run (do
      unless t.grammar.suits settings do
        modify fun t => { t with grammar := .ofSettings settings }
      modify fun t => { t with settings } : Change σ Unit)).run t) = _
    by_cases suits : t.grammar.suits settings = true
    · -- The grammar that is kept is the one that would be made.
      rw [suits, under, ← Grammar.suits_iff.1 suits]
      rfl
    · rw [if_neg suits]
      rfl

/-- An option is set in the settings first, and these are taken up if there is such an option with such a value. -/
theorem undergo_assign (name value : String) :
    t.undergo (assign name value) =
      match t.settings.set name value with
      | .error error => (.error error, t)
      | .ok settings => t.undergo (adopt settings) := by
  change Id.run ((ExceptT.run (MonadExcept.ofExcept (t.settings.set name value) >>= adopt : Change σ Unit)).run t) = _
  cases t.settings.set name value <;> rfl

/-- Adopting settings settles on them or leaves the translator as it was. -/
theorem adopt_settles (settings : Settings) : t.Settles (adopt settings) := by
  -- The settings are refused before anything is changed, or adopted as a whole.
  unfold Settles
  rw [undergo_adopt]
  cases valid : settings.validate with
  | error error => exact .inl ⟨error, rfl⟩
  | ok _ => exact .inr ⟨settings, valid, rfl⟩

/-- So does setting an option by its name. -/
theorem assign_settles (name value : String) : t.Settles (assign name value) := by
  -- An option that cannot be set changes nothing; otherwise the new settings are adopted.
  unfold Settles
  rw [undergo_assign]
  cases t.settings.set name value with
  | error error => exact .inl ⟨error, rfl⟩
  | ok settings => exact t.adopt_settles settings

/-- So does a change to the settings. -/
theorem revise_settles (change : Settings → Settings) : t.Settles (revise change) :=
  t.adopt_settles (change t.settings)

/-- Starting over is never refused. -/
theorem undergo_startOver :
    t.undergo startOver = (.ok (), fresh t.searcher (t.searcher.forget t.library.state) {}) := by
  -- All is dropped before the default settings are taken up.
  change ({ t.unloadEverything with functions := .empty, handlers := {} } : Translator σ).undergo (adopt {}) = _
  rw [undergo_adopt, Settings.validate_default]
  rfl

end Translator

end Phrasebook
