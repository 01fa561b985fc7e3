import Phrasebook.Proofs.Filename.Matching
import Phrasebook.Proofs.Text.Split
import Phrasebook.Settings.Valid

/-! File names of the default template, and what is read back from them. -/

namespace Phrasebook.Filename

/-- The default template: the namespace, the locale and the format with points between them. -/
def standard : Format :=
  { template := "\x7bnamespace\x7d.\x7blocale\x7d.\x7bformat\x7d"
    pieces := [.field .space, .literal ['.'], .field .locale, .literal ['.'], .field .format] }

/-- The default template is the one that the default settings have. -/
theorem filename_standard {settings : Settings} (default : settings.filenameFormat = ({} : Settings).filenameFormat) :
    settings.filename = .ok standard := by
  -- The default text compiles to the default template.
  have compiles : compile ({} : Settings).filenameFormat = .ok standard := by decide +kernel
  rw [Settings.filename, default, compiles]
  rfl

/-- The name that the default template gives for some values. -/
theorem render_standard (space locale format : String) :
    standard.render space locale format = space ++ "." ++ locale ++ "." ++ format := by
  rw [← String.toList_inj]
  simp [Format.render, standard]

/-- A point is no word character. -/
theorem isWord_point : Unicode.isWord '.' = false := by
  decide +kernel

/-- Word characters are no points. -/
theorem not_mem_of_words {s : List Char} (words : ∀ c ∈ s, Unicode.isWord c = true) : '.' ∉ s := by
  -- A point is no word character.
  intro inside
  have word := words _ inside
  rw [isWord_point] at word
  cases word

/-- No field of the default template occurs twice. -/
theorem nodup_standard : (fieldsOf standard.pieces).Nodup := by
  decide

/-- The points keep the values of the default template apart. -/
theorem divided_standard : Divided standard.pieces :=
  ⟨.inl ⟨'.', List.mem_singleton_self _, isWord_point⟩, .inl ⟨'.', List.mem_singleton_self _, isWord_point⟩, trivial,
    trivial⟩

/-- A name of the default template has the values with points between them. -/
theorem filled_standard (value : Field → List Char) :
    filled value standard.pieces = value .space ++ '.' :: (value .locale ++ '.' :: value .format) := by
  simp [filled, standard]

/-- A name that the default template matches is the one that it gives for the values of its fields. -/
theorem of_captures?_standard {name : String} {captures : Captures}
    (found : standard.captures? name = some captures) :
    ∃ space locale format, Spelled space ∧ Spelled locale ∧ Spelled format ∧
      name = space ++ "." ++ locale ++ "." ++ format ∧ captures = ⟨some space, some locale, some format⟩ := by
  -- The default template keeps its fields apart by points.
  obtain ⟨value, worded, same, rfl⟩ := (captures?_eq_some_iff nodup_standard divided_standard).1 found
  refine ⟨_, _, _, worded.spelled .space, worded.spelled .locale, worded.spelled .format, ?_, rfl⟩
  rw [← String.toList_inj, same, filled_standard]
  simp

/-- From a name that the default template gave for values of which the first one holds no point, these values are read
back exactly if they consist of word characters; otherwise nothing is. -/
theorem captures?_standard {space locale format : String} (plain : '.' ∉ space.toList) :
    standard.captures? (space ++ "." ++ locale ++ "." ++ format) =
      if Spelled space ∧ Spelled locale ∧ Spelled format then some ⟨some space, some locale, some format⟩
      else none := by
  split
  · next spelled =>
    obtain ⟨spaces, locales, formats⟩ := spelled
    refine (captures?_eq_some_iff nodup_standard divided_standard).2
      ⟨_, worded_valueOf spaces locales formats, ?_, ?_⟩
    · simp [filled_standard, valueOf]
    · simp [Format.captured, Format.has, standard, valueOf]
  · next unspelled =>
    rw [Option.eq_none_iff_forall_ne_some]
    intro captures found
    obtain ⟨first, second, third, firsts, seconds, thirds, same, -⟩ := of_captures?_standard found
    have points {text : String} (absent : '.' ∉ text.toList) : ∀ c ∈ text.toList, (c != '.') = true := by
      simpa using fun c member => ne_of_mem_of_not_mem member absent
    have characters : space.toList ++ '.' :: (locale.toList ++ '.' :: format.toList) =
        first.toList ++ '.' :: (second.toList ++ '.' :: third.toList) := by
      simpa using congrArg String.toList same
    -- The points are those that the template has put there: the first one ends the namespace, and there is one more.
    obtain ⟨firstSame, -, rest⟩ := Text.append_cons_inj characters (points plain)
      (points (not_mem_of_words firsts.2)) (by decide) (by decide)
    have plainLocale : '.' ∉ locale.toList := by
      have counts := congrArg (List.count '.') rest
      simp only [List.count_append, List.count_cons_self, List.count_eq_zero.2 (not_mem_of_words seconds.2),
        List.count_eq_zero.2 (not_mem_of_words thirds.2)] at counts
      exact List.count_eq_zero.1 (by omega)
    obtain ⟨secondSame, -, thirdSame⟩ := Text.append_cons_inj rest (points plainLocale)
      (points (not_mem_of_words seconds.2)) (by decide) (by decide)
    rw [String.toList_inj] at firstSame secondSame thirdSame
    exact unspelled ⟨firstSame ▸ firsts, secondSame ▸ seconds, thirdSame ▸ thirds⟩

end Phrasebook.Filename
