import Phrasebook.Proofs.FileTree.Written
import Phrasebook.Proofs.Settings.Json
import Phrasebook.Proofs.Settings.Toml
import Phrasebook.Proofs.Settings.Valid
import Phrasebook.Proofs.Settings.Yaml

/-! What is loaded from a file to which settings were saved, by whatever libraries for the languages. -/

namespace Phrasebook

/-- The codecs at hand are lawful. -/
theorem FileFormat.codec_lawful (language : FileFormat) : language.codec.Lawful language := by
  -- Each of the three is lawful for its language.
  cases language with
  | toml => exact Settings.tomlCodec_lawful
  | yaml => exact Settings.yamlCodec_lawful
  | json => exact Settings.jsonCodec_lawful

namespace Settings

variable {codecs : FileFormat → Codec} {files after : FileTree} {path : String} {settings : Settings}

/-- Settings that are saved are written in the language of the file. -/
theorem exists_of_saveWith (saved : saveWith codecs files path settings = .ok after) :
    ∃ language content, FileFormat.ofPath path = .ok language ∧
      (codecs language).write settings.members = .ok content ∧ files.write path content.toUTF8 = .ok after := by
  -- Saving tells the language, writes the text and stores it; each of these could have been refused.
  obtain ⟨language, isLanguage, saved⟩ := exists_of_bind saved
  obtain ⟨content, written, stored⟩ := exists_of_bind saved
  refine ⟨language, content, isLanguage, ?_, ?_⟩
  · cases wrote : (codecs language).write settings.members with
    | error reason =>
      rw [wrote] at written
      cases written
    | ok text =>
      rw [wrote] at written
      cases written
      rfl
  · cases wrote : files.write path content.toUTF8 with
    | error error =>
      rw [wrote] at stored
      cases stored
    | ok tree =>
      rw [wrote] at stored
      cases stored
      rfl

/-- Settings that were saved are loaded as far as the language of the file keeps them. -/
theorem load_of_save (lawful : ∀ language, FileFormat.ofPath path = .ok language → (codecs language).Lawful language)
    (valid : settings.validate = .ok ()) (small : settings.fewThreshold < UInt32.size)
    (saved : saveWith codecs files path settings = .ok after) :
    ∃ language, FileFormat.ofPath path = .ok language ∧ loadWith codecs after path = .ok (settings.kept language) := by
  obtain ⟨language, content, isLanguage, written, stored⟩ := exists_of_saveWith saved
  have text := FileTree.readText_of_write stored
  have read := (lawful language isLanguage).read?_write (fewThreshold_pos_of_validate valid) small written
  -- What is kept passes the check as well, since a fallback is not looked at.
  have checked := (settings.validate_kept language).trans valid
  refine ⟨language, isLanguage, ?_⟩
  rw [loadWith, isLanguage, text]
  simp [Except.mapError, bind, Except.bind, read, checked, pure, Except.pure]

/-- Settings that pass the check are loaded as they were saved, whatever the file held before, exactly if they have a
fallback or the file is none of TOML. Otherwise they come back with the default fallback. It is relied on the libraries
to read back the values that they have written. -/
theorem load_save_iff
    (lawful : ∀ language, FileFormat.ofPath path = .ok language → (codecs language).Lawful language)
    (valid : settings.validate = .ok ()) (small : settings.fewThreshold < UInt32.size)
    (saved : saveWith codecs files path settings = .ok after) :
    (loadWith codecs after path = .ok settings ↔
        ¬ (FileFormat.ofPath path = .ok .toml ∧ settings.fallback = none)) ∧
      (FileFormat.ofPath path = .ok .toml → settings.fallback = none →
        loadWith codecs after path = .ok { settings with fallback := some "en" }) := by
  -- Loading gives what the language keeps.
  obtain ⟨language, isLanguage, loaded⟩ := load_of_save lawful valid small saved
  refine ⟨?_, fun isToml absent => ?_⟩
  · rw [loaded, Except.ok.injEq, kept_eq_self_iff, isLanguage, Except.ok.injEq]
  · obtain rfl : language = .toml := Except.ok.inj (isLanguage.symm.trans isToml)
    rw [loaded, kept, absent]
    rfl

/-- Settings without a fallback are loaded from a file of JSON, by a path relative to where the program works. -/
theorem load_save_iff_json :
    let settings : Settings := { fallback := none }
    settings.validate = .ok () ∧ settings.fewThreshold < UInt32.size ∧
      ∃ after, save .empty "settings.json" settings = .ok after ∧ load after "settings.json" = .ok settings := by
  intro settings
  have valid : settings.validate = .ok () := by decide +kernel
  have small : settings.fewThreshold < UInt32.size := by decide
  have isSaved : (save .empty "settings.json" settings).isOk = true := by decide +kernel
  cases saved : save .empty "settings.json" settings with
  | error error =>
    rw [saved] at isSaved
    cases isSaved
  | ok after =>
    -- The path is not one of TOML, so that nothing is lost.
    have loaded := (load_save_iff (fun language _ => language.codec_lawful) valid small saved).1
    exact ⟨valid, small, after, rfl, loaded.2 (by decide +kernel)⟩

/-- Settings without a fallback come back from a file of TOML with the default one. -/
theorem load_save_toml :
    let settings : Settings := { fallback := none }
    settings.validate = .ok () ∧ settings.fewThreshold < UInt32.size ∧
      (save .empty "/settings.toml" settings).bind (fun after => load after "/settings.toml") = .ok {} ∧
      settings ≠ {} := by
  intro settings
  have valid : settings.validate = .ok () := by decide +kernel
  have small : settings.fewThreshold < UInt32.size := by decide
  have isSaved : (save .empty "/settings.toml" settings).isOk = true := by decide +kernel
  cases saved : save .empty "/settings.toml" settings with
  | error error =>
    rw [saved] at isSaved
    cases isSaved
  | ok after =>
    obtain ⟨language, isLanguage, loaded⟩ := load_of_save (fun language _ => language.codec_lawful) valid small saved
    -- The language is told by the extension.
    have isToml : FileFormat.ofPath "/settings.toml" = .ok .toml := by decide +kernel
    obtain rfl : language = .toml := Except.ok.inj (isLanguage.symm.trans isToml)
    exact ⟨valid, small, loaded, by decide⟩

end Settings

end Phrasebook
