import Phrasebook.Proofs.Settings.Options
import Phrasebook.Settings.File

/-! What is relied on of the libraries for the languages of settings, and what they keep of settings by that. -/

namespace Phrasebook

/-- Of values by name those that a language writes: TOML leaves out what is nothing. -/
def FileFormat.written : FileFormat → List (String × Json) → List (String × Json)
  | .toml, members => members.filter Settings.isStated
  | _, members => members

/-- A codec does what is said of the library for a language: it reads back the values that it has written, each under
its name. -/
structure Codec.Lawful (codec : Codec) (language : FileFormat) : Prop where
  reads : ∀ members content, Settings.AreOptions members → codec.write members = .ok content →
    ∃ held, codec.contents? content = some (.members held) ∧ codec.source.ReturnsAll held (language.written members)

namespace Settings

/-- What a language keeps of settings: all of it, except that the absence of a fallback is not written in TOML. -/
def kept (settings : Settings) : FileFormat → Settings
  | .toml => { settings with fallback := settings.fallback.or ({} : Settings).fallback }
  | _ => settings

/-- Settings are kept as they are unless they have no fallback and the language is TOML. -/
theorem kept_eq_self_iff (settings : Settings) (language : FileFormat) :
    settings.kept language = settings ↔ ¬ (language = .toml ∧ settings.fallback = none) := by
  -- Only TOML says nothing of a fallback that is not there.
  cases language with
  | yaml => simp [kept]
  | json => simp [kept]
  | toml =>
    cases fallback : settings.fallback with
    | some text =>
      have same : settings.kept .toml = settings := by
        rw [kept, fallback, Option.some_or, ← fallback]
      simp [same]
    | none =>
      have other : settings.kept .toml ≠ settings := by
        intro same
        have kept := congrArg Settings.fallback same
        rw [Settings.kept, fallback] at kept
        cases kept
      simp [other]

/-- A fallback, or none, is nothing that is checked. -/
theorem validate_kept (settings : Settings) (language : FileFormat) :
    (settings.kept language).validate = settings.validate := by
  cases language <;> rfl

/-- Of the members that a language writes the settings are read that it keeps. -/
theorem readOptions?_written (settings : Settings) (small : settings.fewThreshold < UInt32.size)
    (language : FileFormat) :
    readOptions? jsonSource {} (language.written settings.members) = some (settings.kept language) := by
  -- TOML leaves a member out of which nothing is said, and the other two write all.
  cases language with
  | toml => exact settings.readOptions?_stated small
  | yaml => exact settings.readOptions?_members small
  | json => exact settings.readOptions?_members small

end Settings

/-- A lawful codec reads what its language keeps of the settings that it has written. -/
theorem Codec.Lawful.read?_write {codec : Codec} {language : FileFormat} (lawful : codec.Lawful language)
    {settings : Settings} (positive : 0 < settings.fewThreshold) (small : settings.fewThreshold < UInt32.size)
    {content : String} (written : codec.write settings.members = .ok content) :
    codec.read? content = some (settings.kept language) := by
  -- What the library holds is read as what was written, and that is the members of the settings.
  obtain ⟨held, contents, returns⟩ := lawful.reads _ content (Settings.members_areOptions positive small) written
  rw [Codec.read?, contents]
  exact Settings.readOptions?_of_returns returns (settings.readOptions?_written small language)

end Phrasebook
