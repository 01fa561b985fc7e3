import Phrasebook.Settings.Valid
import Phrasebook.Template.Grammar

/-! What a passed check says about settings, and about their grammar. -/

namespace Phrasebook

namespace Grammar

/-- A grammar whose delimiters are there and have none of the characters that are forbidden in them. -/
structure Usable (grammar : Grammar) : Prop where
  placeholder_ne_nil : grammar.placeholder ≠ []
  space_ne_nil : grammar.space ≠ []
  argument_ne_nil : grammar.argument ≠ []
  placeholder_allowed : ∀ c ∈ grammar.placeholder, Settings.forbids .placeholder c = false
  space_allowed : ∀ c ∈ grammar.space, Settings.forbids .space c = false
  argument_allowed : ∀ c ∈ grammar.argument, Settings.forbids .argument c = false

end Grammar

namespace Settings

variable {settings : Settings}

/-- What comes second is reached only behind a first step that gives a result. -/
theorem exists_of_bind {α β ε : Type} {step : Except ε α} {next : α → Except ε β} {x : β}
    (passed : (step >>= next) = .ok x) : ∃ first, step = .ok first ∧ next first = .ok x := by
  -- An error of the first step would be the error of both.
  cases step with
  | error error => exact absurd passed nofun
  | ok first => exact ⟨first, rfl, passed⟩

/-- Where nothing was refused, there was no reason to. -/
theorem of_guard {α ε : Type} {refused : Prop} [Decidable refused] {error : ε} {next : Except ε α} {x : α}
    (passed : (if refused then .error error else next) = .ok x) : ¬ refused ∧ next = .ok x := by
  -- A refusal is an error.
  split at passed
  · cases passed
  · next held => exact ⟨held, passed⟩

/-- Checks that pass one after the other pass each. -/
theorem forall_of_forM {α ε : Type} {check : α → Except ε PUnit} {items : List α}
    (passed : items.forM check = .ok ()) : ∀ item ∈ items, check item = .ok () := by
  -- Item by item: the first check has passed, and so have those behind it.
  induction items with
  | nil => simp
  | cons first rest ih =>
    obtain ⟨_, checked, others⟩ := exists_of_bind (show (check first >>= fun _ => rest.forM check) = _ from passed)
    intro item member
    cases member with
    | head => exact checked
    | tail _ later => exact ih others item later

/-- In settings that pass the check every delimiter is there and has none of the characters forbidden in it. -/
theorem delimiter_of_validate (valid : settings.validate = .ok ()) (delimiter : Delimiter) :
    settings.delimiter delimiter ≠ "" ∧
      ∀ c ∈ (settings.delimiter delimiter).toList, forbids delimiter c = false := by
  -- The delimiters are checked first, all of them for being empty and then all for their characters.
  have listed : delimiter ∈ [Delimiter.placeholder, .space, .argument] := by cases delimiter <;> simp
  unfold validate at valid
  obtain ⟨_, lengths, valid⟩ := exists_of_bind valid
  obtain ⟨_, characters, _⟩ := exists_of_bind valid
  have length := forall_of_forM lengths delimiter listed
  have allowed := forall_of_forM characters delimiter listed
  constructor
  · intro empty
    rw [empty] at length
    exact absurd length nofun
  · intro c member
    rw [Bool.eq_false_iff]
    intro forbidden
    have present : (settings.delimiter delimiter).toList.any (forbids delimiter) = true :=
      List.any_eq_true.2 ⟨c, member, forbidden⟩
    simp only [present, if_true] at allowed
    exact absurd allowed nofun

/-- Behind the delimiters the threshold, the locale and the template of file names are checked. -/
theorem others_of_validate (valid : settings.validate = .ok ()) :
    settings.fewThreshold ≠ 0 ∧ settings.locale.isEmpty ≠ true ∧ ∃ format, settings.filename = .ok format := by
  -- The checks of the delimiters come first, and are passed over here.
  unfold validate at valid
  obtain ⟨_, _, valid⟩ := exists_of_bind valid
  obtain ⟨_, _, valid⟩ := exists_of_bind valid
  obtain ⟨threshold, valid⟩ := of_guard valid
  obtain ⟨locale, valid⟩ := of_guard valid
  obtain ⟨format, name, _⟩ := exists_of_bind valid
  exact ⟨threshold, locale, format, name⟩

/-- The file name template of settings that pass the check can be read. -/
theorem filename_of_validate (valid : settings.validate = .ok ()) : ∃ format, settings.filename = .ok format :=
  (others_of_validate valid).2.2

/-- Settings that pass the check take at least one for a few. -/
theorem fewThreshold_pos_of_validate (valid : settings.validate = .ok ()) : 0 < settings.fewThreshold :=
  Nat.pos_of_ne_zero (others_of_validate valid).1

/-- The grammar of settings that pass the check is usable. -/
theorem usable_of_validate (valid : settings.validate = .ok ()) : (Grammar.ofSettings settings).Usable := by
  -- What is known of each delimiter is all that a usable grammar asks for.
  have sound := delimiter_of_validate valid
  exact
    { placeholder_ne_nil := by simpa [Grammar.ofSettings, delimiter] using (sound .placeholder).1
      space_ne_nil := by simpa [Grammar.ofSettings, delimiter] using (sound .space).1
      argument_ne_nil := by simpa [Grammar.ofSettings, delimiter] using (sound .argument).1
      placeholder_allowed := (sound .placeholder).2
      space_allowed := (sound .space).2
      argument_allowed := (sound .argument).2 }

end Settings

end Phrasebook
