import Mathlib.Data.List.Forall2
import Phrasebook.Proofs.Traversal
import Phrasebook.Settings.Json

/-! Settings that are written option by option are read back, in whatever way a library holds the values. -/

namespace Phrasebook

namespace Settings

/-- What an option may be written as: nothing, a text, texts, a positive number that fits a word, or a flag. -/
inductive IsPlain : Json → Prop where
  | nothing : IsPlain .null
  | text (text : String) : IsPlain (.text text)
  | texts (texts : List String) : IsPlain (.array (texts.map .text))
  | count {n : Nat} (positive : 0 < n) (small : n < UInt32.size) : IsPlain (.number (.whole n))
  | flag (flag : Bool) : IsPlain (.bool flag)

/-- Values by name as settings may be written: different options, each with a value of one of these kinds. -/
structure AreOptions (members : List (String × Json)) : Prop where
  some : members ≠ []
  known : ∀ name ∈ members.map Prod.fst, name ∈ optionNames
  distinct : (members.map Prod.fst).Nodup
  plain : ∀ entry ∈ members, IsPlain entry.2

/-- Some data of a library are read as a value that was written, whatever an option with such a value asks for: nothing
as the absence of a text, a text as one that may be absent as well, and as the mode of that name. -/
inductive Source.Returns {α : Type} (source : Source α) (held : α) : Json → Prop where
  | nothing (absent : source.optional? held = some none) : Returns source held .null
  | text {text : String} (read : source.text? held = some text) (present : source.optional? held = some (some text))
    (mode : source.mode? held = modeOfName? text) : Returns source held (.text text)
  | texts {texts : List String} (read : source.texts? held = some texts) :
    Returns source held (.array (texts.map .text))
  | count {n : Nat} (read : source.count? held = some n) : Returns source held (.number (.whole n))
  | flag {flag : Bool} (read : source.flag? held = some flag) : Returns source held (.bool flag)

/-- Whatever is read of a value of JSON is read of some data of a library. -/
structure Source.Follows {α : Type} (source : Source α) (held : α) (value : Json) : Prop where
  text {v : String} : jsonSource.text? value = some v → source.text? held = some v
  optional {v : Option String} : jsonSource.optional? value = some v → source.optional? held = some v
  texts {v : List String} : jsonSource.texts? value = some v → source.texts? held = some v
  count {v : Nat} : jsonSource.count? value = some v → source.count? held = some v
  flag {v : Bool} : jsonSource.flag? value = some v → source.flag? held = some v
  mode {v : MissingMode} : jsonSource.mode? value = some v → source.mode? held = some v

/-- Data stand under their names for the values that were written. -/
def Source.ReturnsAll {α : Type} (source : Source α) (held : List (String × α)) (members : List (String × Json)) :
    Prop :=
  List.Forall₂ (fun entry written => entry.1 = written.1 ∧ source.Returns entry.2 written.2) held members

/-- The members of settings are their options, under their names. -/
theorem map_fst_members (settings : Settings) : settings.members.map Prod.fst = optionNames :=
  rfl

/-- The members of settings may be written. -/
theorem members_areOptions {settings : Settings} (positive : 0 < settings.fewThreshold)
    (small : settings.fewThreshold < UInt32.size) : AreOptions settings.members where
  some := List.cons_ne_nil _ _
  known := by
    rw [map_fst_members]
    exact fun _ => id
  distinct := by
    rw [map_fst_members]
    decide
  plain := by
    -- A fallback is written as nothing or as a text; the threshold is the only number.
    have optional : IsPlain (optionalJson settings.fallback) := by
      cases settings.fallback with
      | none => exact .nothing
      | some text => exact .text text
    simp only [members, toJson, List.forall_mem_cons, optional, IsPlain.text, IsPlain.texts, IsPlain.flag,
      IsPlain.count positive small, List.not_mem_nil, false_implies, implies_true, and_self]

/-- The texts of an array of texts are read. -/
theorem jsonSource_texts (texts : List String) : jsonSource.texts? (.array (texts.map .text)) = some texts :=
  Traversal.mapM_of_leftInverse jsonText? (fun _ => rfl) texts

/-- A number that fits a word is read. -/
theorem jsonSource_count {n : Nat} (small : n < UInt32.size) : jsonSource.count? (.number (.whole n)) = some n := by
  have least : (n : Int) < UInt32.size := by exact_mod_cast small
  simp only [jsonSource, Int.natCast_nonneg, least, and_self, if_true, Int.toNat_natCast]

/-- What is read of a number is the number. -/
theorem eq_of_jsonSource_count {n v : Nat} (same : jsonSource.count? (.number (.whole n)) = some v) : n = v := by
  -- A number that does not fit is not read at all.
  simp only [jsonSource] at same
  split at same
  · simpa only [Int.toNat_natCast, Option.some.injEq] using same
  · cases same

section Returns

variable {α : Type} {source : Source α} {held : α} {value : Json}

/-- A value of JSON is read as itself. -/
theorem jsonSource_returns (plain : IsPlain value) : jsonSource.Returns value value := by
  -- By the kinds of values.
  cases plain with
  | nothing => exact .nothing rfl
  | text text => exact .text rfl rfl rfl
  | texts texts => exact .texts (jsonSource_texts texts)
  | count positive small => exact .count (jsonSource_count small)
  | flag flag => exact .flag rfl

/-- Whatever is read of a written value in JSON is read of what a library holds of it. -/
theorem Source.Returns.follows (returns : source.Returns held value) : source.Follows held value := by
  -- JSON reads a value in the ways that suit its kind, and in these the library reads the same.
  cases returns with
  | nothing absent =>
    constructor <;> intro _ same
    case optional => exact absent.trans same
    all_goals cases same
  | text read present mode =>
    constructor <;> intro _ same
    case text => exact read.trans same
    case optional => exact present.trans same
    case mode => exact mode.trans same
    all_goals cases same
  | texts read =>
    constructor <;> intro _ same
    case texts => exact read.trans ((jsonSource_texts _).symm.trans same)
    all_goals cases same
  | count read =>
    constructor <;> intro _ same
    case count => exact eq_of_jsonSource_count same ▸ read
    all_goals cases same
  | flag read =>
    constructor <;> intro _ same
    case flag => exact read.trans same
    all_goals cases same

/-- An option is read of what follows a value as it is read of the value. -/
theorem readOption?_of_follows (follows : source.Follows held value) {settings after : Settings} {name : String}
    (reads : readOption? jsonSource settings name value = some after) :
    readOption? source settings name held = some after := by
  -- Every option is read in one of six ways, and what is no option is passed over.
  have mapped {β : Type} {set : β → Settings} {first second : Option β} (same : first.map set = some after)
      (onward : ∀ v, first = some v → second = some v) : second.map set = some after := by
    obtain ⟨v, isFirst, isAfter⟩ := Option.map_eq_some_iff.1 same
    rw [onward v isFirst, Option.map_some, isAfter]
  unfold readOption? at reads ⊢
  split at reads
  case h_17 => exact reads
  all_goals
    first
      | exact mapped reads fun _ => follows.text
      | exact mapped reads fun _ => follows.optional
      | exact mapped reads fun _ => follows.texts
      | exact mapped reads fun _ => follows.count
      | exact mapped reads fun _ => follows.flag
      | exact mapped reads fun _ => follows.mode

/-- Names are held as they were written. -/
theorem Source.ReturnsAll.map_fst {held : List (String × α)} {members : List (String × Json)}
    (returns : source.ReturnsAll held members) : held.map Prod.fst = members.map Prod.fst := by
  -- Entry by entry.
  induction returns with
  | nil => rfl
  | cons entry _ ih => rw [List.map_cons, List.map_cons, entry.1, ih]

/-- Options are read from what a library holds as they are read from what was written. -/
theorem readOptions?_of_returns {held : List (String × α)} {members : List (String × Json)}
    (returns : source.ReturnsAll held members) {settings after : Settings}
    (reads : readOptions? jsonSource settings members = some after) :
    readOptions? source settings held = some after := by
  induction returns generalizing settings with
  | nil => exact reads
  | @cons entry written held members own others ih =>
    obtain ⟨name, data⟩ := entry
    obtain ⟨_, value⟩ := written
    obtain ⟨rfl, isValue⟩ := own
    -- An option that is given again is refused in both.
    have again : held.any (fun entry => optionName entry.1 = optionName name) =
        members.any (fun entry => optionName entry.1 = optionName name) := by
      have names := congrArg (List.any · fun other => decide (optionName other = optionName name))
        (Source.ReturnsAll.map_fst others)
      simpa only [List.any_map, Function.comp_def] using names
    rw [readOptions?] at reads ⊢
    simp only [again]
    split at reads
    · cases reads
    · next once =>
      obtain ⟨first, read, onward⟩ := Option.bind_eq_some_iff.1 reads
      rw [if_neg once, readOption?_of_follows isValue.follows read]
      exact ih onward

end Returns

/-- Different options are read one after the other. -/
theorem readOptions?_eq_foldlM {entries : List (String × Json)}
    (known : ∀ name ∈ entries.map Prod.fst, name ∈ optionNames) (distinct : (entries.map Prod.fst).Nodup)
    (settings : Settings) :
    readOptions? jsonSource settings entries =
      entries.foldlM (fun settings entry => readOption? jsonSource settings entry.1 entry.2) settings := by
  have own : ∀ name ∈ optionNames, optionName name = name := by decide
  induction entries generalizing settings with
  | nil => rfl
  | cons entry rest ih =>
    obtain ⟨name, value⟩ := entry
    obtain ⟨isKnown, others⟩ := List.forall_mem_cons.1 known
    obtain ⟨apart, distinct⟩ := List.nodup_cons.1 distinct
    -- An option that is given again would be refused.
    have once : rest.any (fun entry => optionName entry.1 = name) = false := by
      rw [List.any_eq_false]
      intro entry member
      have inside := List.mem_map_of_mem (f := Prod.fst) member
      rw [own _ (others _ inside), decide_eq_true_eq]
      exact fun same => apart (same ▸ inside)
    rw [readOptions?, own name isKnown]
    simp only [once, Bool.false_eq_true, and_false, if_false, List.foldlM_cons]
    cases readOption? jsonSource settings name value with
    | none => rfl
    | some settings => exact ih others distinct settings

/-- A mode is known by its name. -/
theorem modeOfName?_name (mode : MissingMode) : modeOfName? mode.name = some mode := by
  cases mode <;> rfl

section Members

variable (settings : Settings) (small : settings.fewThreshold < UInt32.size)
include small

/-- Settings are read from their members. -/
theorem readOptions?_members : readOptions? jsonSource {} settings.members = some settings := by
  -- Every member is read as the value that it was written from.
  have fallback : jsonSource.optional? (optionalJson settings.fallback) = some settings.fallback := by
    cases settings.fallback <;> rfl
  have text (text : String) : jsonSource.text? (.text text) = some text := rfl
  have flag (flag : Bool) : jsonSource.flag? (.bool flag) = some flag := rfl
  have mode (mode : MissingMode) : jsonSource.mode? (.text mode.name) = some mode := modeOfName?_name mode
  rw [readOptions?_eq_foldlM (by rw [map_fst_members]; exact fun _ => id) (by rw [map_fst_members]; decide)]
  simp [members, toJson, readOption?, fallback, text, flag, mode, jsonSource_texts, jsonSource_count small]

/-- From the members of which something is said settings are read, except that without a fallback the fallback stays as
it was. -/
theorem readOptions?_stated :
    readOptions? jsonSource {} (settings.members.filter isStated) =
      some { settings with fallback := settings.fallback.or ({} : Settings).fallback } := by
  cases fallback : settings.fallback with
  | some locale =>
    -- Something is said of every option.
    have all : settings.members.filter isStated = settings.members := by
      simp [members, toJson, isStated, fallback, optionalJson, List.filter_cons]
    rw [all, readOptions?_members settings small, Option.some_or, ← fallback]
  | none =>
    have names : (settings.members.filter isStated).map Prod.fst =
        optionNames.filter fun name => name ≠ "fallback" := by
      simp [members, toJson, isStated, fallback, optionalJson, optionNames, List.filter_cons]
    have distinct : optionNames.Nodup := by decide
    have text (text : String) : jsonSource.text? (.text text) = some text := rfl
    have flag (flag : Bool) : jsonSource.flag? (.bool flag) = some flag := rfl
    have mode (mode : MissingMode) : jsonSource.mode? (.text mode.name) = some mode := modeOfName?_name mode
    rw [readOptions?_eq_foldlM (by rw [names]; exact fun _ => List.mem_of_mem_filter)
      (by rw [names]; exact distinct.filter _)]
    simp [members, toJson, isStated, fallback, optionalJson, readOption?, text, flag, mode, jsonSource_texts,
      jsonSource_count small, List.filter_cons]

end Members

end Settings

end Phrasebook
