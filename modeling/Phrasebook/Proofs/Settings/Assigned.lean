import Mathlib.Data.List.Basic
import Phrasebook.Settings.Assign
import Phrasebook.Settings.Data

/-! Setting options by name, one after the other: a call that is refused changes nothing, one that is accepted changes
one field, and so every field holds what the last accepted call for it says. -/

namespace Phrasebook.Settings

/-- The fields of settings. -/
inductive Field where
  | locale
  | fallback
  | availableLocales
  | loadPath
  | filenameFormat
  | fileFormat
  | encoding
  | placeholderDelimiter
  | namespaceDelimiter
  | argumentDelimiter
  | fewThreshold
  | skipLocaleRoot
  | memoize
  | onMissingTranslation
  | onMissingPlaceholder
  | onMissingPlural
deriving DecidableEq, Repr

namespace Field

/-- The name of the option that a field holds. -/
def name : Field → String
  | locale => "locale"
  | fallback => "fallback"
  | availableLocales => "available_locales"
  | loadPath => "load_path"
  | filenameFormat => "filename_format"
  | fileFormat => "file_format"
  | encoding => "encoding"
  | placeholderDelimiter => "placeholder_delimiter"
  | namespaceDelimiter => "namespace_delimiter"
  | argumentDelimiter => "argument_delimiter"
  | fewThreshold => "few_threshold"
  | skipLocaleRoot => "skip_locale_root_data"
  | memoize => "enable_memoization"
  | onMissingTranslation => "on_missing_translation"
  | onMissingPlaceholder => "on_missing_placeholder"
  | onMissingPlural => "on_missing_plural"

/-- What a field holds. -/
def Content : Field → Type
  | locale | filenameFormat | fileFormat | encoding => String
  | placeholderDelimiter | namespaceDelimiter | argumentDelimiter => String
  | fallback => Option String
  | availableLocales | loadPath => List String
  | fewThreshold => Nat
  | skipLocaleRoot | memoize => Bool
  | onMissingTranslation | onMissingPlaceholder | onMissingPlural => MissingMode

/-- What a text says for a field, which is called by the given name. -/
def read (name text : String) : (field : Field) → Except SettingsError field.Content
  | locale | fileFormat | encoding => .ok text
  | placeholderDelimiter | namespaceDelimiter | argumentDelimiter => .ok text
  | fallback => .ok (optionalLocale text)
  | availableLocales => .ok (localeList text)
  | loadPath => .ok (Path.splitList text)
  | filenameFormat => parseFilename text
  | fewThreshold => parseCount name text
  | skipLocaleRoot | memoize => parseFlag name text
  | onMissingTranslation | onMissingPlaceholder | onMissingPlural => MissingMode.parse text

/-- A name stands for one field at most. -/
theorem name_injective {field other : Field} (same : field.name = other.name) : field = other := by
  cases field <;> cases other <;> first | rfl | exact absurd same (by decide)

end Field

/-- What settings hold in a field. -/
def value (settings : Settings) : (field : Field) → field.Content
  | .locale => settings.locale
  | .fallback => settings.fallback
  | .availableLocales => settings.availableLocales
  | .loadPath => settings.loadPath
  | .filenameFormat => settings.filenameFormat
  | .fileFormat => settings.fileFormat
  | .encoding => settings.encoding
  | .placeholderDelimiter => settings.placeholderDelimiter
  | .namespaceDelimiter => settings.namespaceDelimiter
  | .argumentDelimiter => settings.argumentDelimiter
  | .fewThreshold => settings.fewThreshold
  | .skipLocaleRoot => settings.skipLocaleRoot
  | .memoize => settings.memoize
  | .onMissingTranslation => settings.onMissingTranslation
  | .onMissingPlaceholder => settings.onMissingPlaceholder
  | .onMissingPlural => settings.onMissingPlural

/-- The settings with something else in a field. -/
def put (settings : Settings) : (field : Field) → field.Content → Settings
  | .locale, content => { settings with locale := content }
  | .fallback, content => { settings with fallback := content }
  | .availableLocales, content => { settings with availableLocales := content }
  | .loadPath, content => { settings with loadPath := content }
  | .filenameFormat, content => { settings with filenameFormat := content }
  | .fileFormat, content => { settings with fileFormat := content }
  | .encoding, content => { settings with encoding := content }
  | .placeholderDelimiter, content => { settings with placeholderDelimiter := content }
  | .namespaceDelimiter, content => { settings with namespaceDelimiter := content }
  | .argumentDelimiter, content => { settings with argumentDelimiter := content }
  | .fewThreshold, content => { settings with fewThreshold := content }
  | .skipLocaleRoot, content => { settings with skipLocaleRoot := content }
  | .memoize, content => { settings with memoize := content }
  | .onMissingTranslation, content => { settings with onMissingTranslation := content }
  | .onMissingPlaceholder, content => { settings with onMissingPlaceholder := content }
  | .onMissingPlural, content => { settings with onMissingPlural := content }

variable (settings : Settings) {field other : Field} {name text : String}

/-- An option has the value that is put in it. -/
@[simp] theorem value_put (field : Field) (content : field.Content) :
    (settings.put field content).value field = content := by
  cases field <;> rfl

/-- The other fields keep what they hold. -/
theorem value_put_of_ne (content : field.Content) (different : other ≠ field) :
    (settings.put field content).value other = settings.value other := by
  cases field <;> cases other <;> first | rfl | exact absurd rfl different

/-- Settings that hold the same in every field are the same. -/
theorem ext_value {settings other : Settings} (same : ∀ field, settings.value field = other.value field) :
    settings = other := by
  -- Settings are their sixteen fields.
  obtain ⟨⟩ := settings
  obtain ⟨⟩ := other
  simp only [Settings.mk.injEq]
  exact ⟨same .locale, same .fallback, same .availableLocales, same .loadPath, same .filenameFormat, same .fileFormat,
    same .encoding, same .placeholderDelimiter, same .namespaceDelimiter, same .argumentDelimiter, same .fewThreshold,
    same .skipLocaleRoot, same .memoize, same .onMissingTranslation, same .onMissingPlaceholder, same .onMissingPlural⟩

/-- A name stands for the field that it names, and `plural_few` for another one. -/
theorem optionName_eq_iff :
    optionName name = field.name ↔ name = field.name ∨ field = .fewThreshold ∧ name = "plural_few" := by
  -- The second name of the one field with two is the only one that is turned into another.
  unfold optionName
  split
  · next second =>
    subst second
    constructor
    · exact fun same => .inr ⟨Field.name_injective (show field.name = Field.fewThreshold.name from same.symm), rfl⟩
    · rintro (same | ⟨rfl, -⟩)
      · cases field <;> exact absurd same (by decide)
      · rfl
  · next own => simp [own]

/-- A call for a field reads the text and then puts in what it says. -/
theorem assign_of_name (named : optionName name = field.name) (text : String) :
    assign name text = (do
      let content ← MonadExcept.ofExcept (field.read name text)
      modify fun settings => settings.put field content) := by
  rcases optionName_eq_iff.1 named with rfl | ⟨rfl, rfl⟩
  · cases field <;> rfl
  · -- The second name of the threshold takes the same arm.
    rfl

/-- A call for no field is refused. -/
theorem exists_field_or_refused (name text : String) :
    (∃ field : Field, optionName name = field.name) ∨ assign name text = throw (.config (.unknownSetting name)) := by
  -- Every arm but the last one names a field, and two of them the threshold.
  unfold assign
  split
  · exact .inl ⟨.locale, rfl⟩
  · exact .inl ⟨.fallback, rfl⟩
  · exact .inl ⟨.availableLocales, rfl⟩
  · exact .inl ⟨.loadPath, rfl⟩
  · exact .inl ⟨.filenameFormat, rfl⟩
  · exact .inl ⟨.fileFormat, rfl⟩
  · exact .inl ⟨.encoding, rfl⟩
  · exact .inl ⟨.placeholderDelimiter, rfl⟩
  · exact .inl ⟨.namespaceDelimiter, rfl⟩
  · exact .inl ⟨.argumentDelimiter, rfl⟩
  · exact .inl ⟨.fewThreshold, rfl⟩
  · exact .inl ⟨.fewThreshold, rfl⟩
  · exact .inl ⟨.skipLocaleRoot, rfl⟩
  · exact .inl ⟨.memoize, rfl⟩
  · exact .inl ⟨.onMissingTranslation, rfl⟩
  · exact .inl ⟨.onMissingPlaceholder, rfl⟩
  · exact .inl ⟨.onMissingPlural, rfl⟩
  · exact .inr rfl

/-- What a call says for a field: nothing if its name stands for another one, or for none, or if the text is refused. -/
def Field.said? (field : Field) (call : String × String) : Option field.Content :=
  if optionName call.1 = field.name then (field.read call.1 call.2).toOption else none

/-- A call says something for a field if its name stands for it and its text is read. -/
theorem Field.said?_eq_some_iff {call : String × String} {content : field.Content} :
    field.said? call = some content ↔ optionName call.1 = field.name ∧ field.read call.1 call.2 = .ok content := by
  -- A text that is not read says nothing.
  unfold said?
  split
  · next named => cases field.read call.1 call.2 <;> simp [named, Except.toOption]
  · next other => simp [other]

/-- A call is refused, changes nothing and says nothing for any field; or it is accepted, and puts what it says in the
field that its name stands for. -/
theorem undergo_assign_cases (name text : String) :
    (∃ error, settings.undergo (assign name text) = (.error error, settings) ∧
      ∀ field : Field, field.said? (name, text) = none) ∨
    ∃ (field : Field) (content : field.Content), optionName name = field.name ∧ field.read name text = .ok content ∧
      settings.undergo (assign name text) = (.ok (), settings.put field content) := by
  by_cases known : ∃ field : Field, optionName name = field.name
  · obtain ⟨field, named⟩ := known
    rw [assign_of_name named]
    cases read : field.read name text with
    | ok content => exact .inr ⟨field, content, named, read, rfl⟩
    | error error =>
      refine .inl ⟨error, rfl, fun other => Option.eq_none_iff_forall_ne_some.2 fun content said => ?_⟩
      -- No other field has the name, and this one does not read the text.
      obtain ⟨same, reads⟩ := Field.said?_eq_some_iff.1 said
      obtain rfl := Field.name_injective (named.symm.trans same)
      rw [read] at reads
      cases reads
  · have refused := (exists_field_or_refused name text).resolve_left known
    exact .inl ⟨.config (.unknownSetting name), by rw [refused]; rfl,
      fun field => if_neg fun same => known ⟨field, same⟩⟩

/-- A call that is refused changes nothing. -/
theorem undergo_assign_of_error {error : SettingsError}
    (refused : (settings.undergo (assign name text)).1 = .error error) :
    (settings.undergo (assign name text)).2 = settings := by
  -- A call that is accepted ends without an error.
  rcases settings.undergo_assign_cases name text with ⟨_, ends, -⟩ | ⟨_, _, -, -, ends⟩
  · exact congrArg Prod.snd ends
  · cases (congrArg Prod.fst ends).symm.trans refused

/-- A call is accepted if its name stands for a field and its text is read. -/
theorem undergo_assign_eq_ok_iff :
    (settings.undergo (assign name text)).1 = .ok () ↔
      ∃ (field : Field) (content : field.Content),
        optionName name = field.name ∧ field.read name text = .ok content := by
  -- A call is refused and says nothing for any field, or is accepted for the field that it names.
  constructor
  · intro accepted
    rcases settings.undergo_assign_cases name text with ⟨_, ends, -⟩ | ⟨field, content, named, read, -⟩
    · cases (congrArg Prod.fst ends).symm.trans accepted
    · exact ⟨field, content, named, read⟩
  · rintro ⟨field, content, named, read⟩
    rcases settings.undergo_assign_cases name text with ⟨_, -, silent⟩ | ⟨_, _, -, -, ends⟩
    · cases (silent field).symm.trans (Field.said?_eq_some_iff.2 ⟨named, read⟩)
    · exact congrArg Prod.fst ends

/-- A call leaves in every field what it says for it, or else what was there. -/
theorem value_undergo_assign (call : String × String) (field : Field) :
    (settings.undergo (assign call.1 call.2)).2.value field = (field.said? call).getD (settings.value field) := by
  rcases settings.undergo_assign_cases call.1 call.2 with ⟨error, ends, silent⟩ | ⟨other, content, named, read, ends⟩
  · rw [ends, silent field, Option.getD_none]
  · rw [ends]
    -- A name stands for one field, so that nothing is said for the others.
    by_cases same : field = other
    · subst same
      rw [Field.said?_eq_some_iff.2 ⟨named, read⟩, value_put, Option.getD_some]
    · have different : optionName call.1 ≠ field.name := fun own => same (Field.name_injective (own.symm.trans named))
      rw [value_put_of_ne settings content same, Field.said?, if_neg different, Option.getD_none]

/-- The settings behind some calls, also where some of them are refused. -/
def after (settings : Settings) (calls : List (String × String)) : Settings :=
  calls.foldl (fun settings call => (settings.undergo (assign call.1 call.2)).2) settings

/-- Those of some calls that are accepted when it is their turn. -/
def accepted (settings : Settings) : List (String × String) → List (String × String)
  | [] => []
  | call :: rest =>
    let (result, next) := settings.undergo (assign call.1 call.2)
    match result with
    | .ok _ => call :: accepted next rest
    | .error _ => accepted next rest

/-- Behind some calls a field holds what the last one of them says that says something for it. -/
theorem value_after (calls : List (String × String)) (field : Field) :
    (settings.after calls).value field = (calls.filterMap field.said?).getLast?.getD (settings.value field) := by
  -- Each call leaves what the rest of them starts with.
  induction calls generalizing settings with
  | nil => rfl
  | cons call rest ih =>
    have step := value_undergo_assign settings call field
    rw [after, List.foldl_cons]
    refine (ih _).trans ?_
    rw [step, List.filterMap_cons]
    cases field.said? call with
    | none => rfl
    | some content =>
      rw [List.getLast?_cons]
      rfl

/-- The calls that are refused say nothing. -/
theorem filterMap_accepted (calls : List (String × String)) (field : Field) :
    (settings.accepted calls).filterMap field.said? = calls.filterMap field.said? := by
  -- A refused call leaves the settings that the rest starts with, and what a call says does not depend on them.
  induction calls generalizing settings with
  | nil => rfl
  | cons call rest ih =>
    rcases settings.undergo_assign_cases call.1 call.2 with ⟨error, ends, silent⟩ | ⟨other, content, _, _, ends⟩
    · rw [accepted, ends, List.filterMap_cons, silent field]
      exact ih settings
    · rw [accepted, ends, List.filterMap_cons, List.filterMap_cons, ih]

/-- What calls say for a field does not depend on those for other fields. -/
theorem filterMap_filter_said (calls : List (String × String)) (field : Field) :
    (calls.filter fun call => optionName call.1 = field.name).filterMap field.said? = calls.filterMap field.said? := by
  -- A call whose name stands for another field says nothing.
  rw [List.filterMap_filter]
  refine List.filterMap_congr fun call _ => ?_
  by_cases named : optionName call.1 = field.name <;> simp [Field.said?, named]

/-- Setting options by name is atomic, and the last accepted call wins. A call that is refused changes nothing. It is
accepted if its name stands for a field and its text is read, and puts what is read in that field alone. So after any
calls a field holds what the last accepted one for it says, or what it held before if there is none, and it does not
matter how the calls for different fields are interleaved. -/
theorem last_accepted_wins (settings : Settings) :
    (∀ name text,
      let ended := settings.undergo (assign name text)
      (∀ error, ended.1 = .error error → ended.2 = settings) ∧
      (ended.1 = .ok () ↔
        ∃ (field : Field) (content : field.Content),
          optionName name = field.name ∧ field.read name text = .ok content) ∧
      (∀ field : Field, optionName name ≠ field.name → ended.2.value field = settings.value field) ∧
      ∀ (field : Field) (content : field.Content), optionName name = field.name → field.read name text = .ok content →
        ended.2.value field = content) ∧
    (∀ calls field, (settings.after calls).value field =
      ((settings.accepted calls).filterMap field.said?).getLast?.getD (settings.value field)) ∧
    (∀ calls others, (∀ field : Field, (calls.filter fun call => optionName call.1 = field.name) =
        others.filter fun call => optionName call.1 = field.name) →
      settings.after calls = settings.after others) := by
  refine ⟨fun name text => ?_, fun calls field => ?_, fun calls others same => ?_⟩
  · intro ended
    have value (field : Field) : ended.2.value field = (field.said? (name, text)).getD (settings.value field) :=
      value_undergo_assign settings (name, text) field
    refine ⟨fun error => settings.undergo_assign_of_error, settings.undergo_assign_eq_ok_iff, fun field other => ?_,
      fun field content named read => ?_⟩
    · rw [value, Field.said?, if_neg other, Option.getD_none]
    · rw [value, Field.said?_eq_some_iff.2 ⟨named, read⟩, Option.getD_some]
  · -- The last of all calls that says something is an accepted one.
    rw [filterMap_accepted, value_after]
  · -- A field depends on the calls for it alone, and these are in the same order.
    refine ext_value fun field => ?_
    rw [value_after, value_after, ← filterMap_filter_said calls, same field, filterMap_filter_said]

/-- A text that is refused and a call for no field change nothing, and the second name of a field counts as well. -/
example :
    let calls := [("few_threshold", "7"), ("locale", "fr"), ("plural_few", " 9 "), ("few_threshold", "many"),
      ("colour", "red"), ("filename_format", "\x7bformatus\x7d")]
    ({} : Settings).accepted calls = [("few_threshold", "7"), ("locale", "fr"), ("plural_few", " 9 ")] ∧
      ({} : Settings).after calls = { fewThreshold := 9, locale := "fr" } := by
  decide +kernel

end Phrasebook.Settings
