import Phrasebook.Proofs.Catalogue.Contract
import Phrasebook.Proofs.Catalogue.References
import Phrasebook.Proofs.Rendering.Errors
import Phrasebook.Proofs.Translator.Change
import Phrasebook.Proofs.Translator.Recorded

/-! That a message is not stored is never reported to a caller by a translator itself. A searcher may fail with such an
error, though, and then the translator hands it on: whatever state it is in, the only such error that comes out of a
call is the one in which the last search of that call has ended. -/

namespace Phrasebook

/-- The error of asking for a message that is not stored. -/
def Error.IsMiss : Error → Prop
  | .notStored _ _ => True
  | _ => False

/-- Errors of putting a message together are no misses. -/
theorem Error.OfFormatting.not_isMiss {e : Error} (formatting : e.OfFormatting) : ¬ e.IsMiss := by
  cases e <;> first | exact formatting.elim | exact id

/-- Every key stored for a locale stays stored. -/
def Store.Keeps (before : Store) (locale : String) (after : Store) : Prop :=
  ∀ key, before.has key locale = true → after.has key locale = true

/-- What is kept twice is kept. -/
theorem Store.Keeps.trans {one two three : Store} {locale : String} (first : one.Keeps locale two)
    (second : two.Keeps locale three) : one.Keeps locale three :=
  fun key there => second key (first key there)

/-- Adding a value keeps everything that is stored. -/
theorem Store.Keeps.add {before after : Store} {locale : String} (keeps : before.Keeps locale after) (key : String)
    (value : Value) (asked : String) : before.Keeps locale (after.add key value asked) := by
  intro other there
  simp [has_add, keeps other there]

namespace Searcher

variable {σ : Type} (searcher : Searcher σ)

/-- A searcher that removes nothing of the locale asked for, and reports only keys that are stored for it. The states in
which it may be are left to it. -/
structure Honest (valid : σ → Prop) : Prop where
  search : ∀ key locale settings library, valid library.state →
    (searcher.search key locale settings).Meets library
      (fun loaded left => (valid left.state ∧ library.store.Keeps locale left.store) ∧
        ∀ other ∈ loaded, left.store.has other locale = true)
      (fun _ left => valid left.state)
  loadEverything : ∀ locale settings library, valid library.state →
    (searcher.loadEverything locale settings).Meets library (fun _ left => valid left.state)
      fun _ left => valid left.state
  forget : ∀ state, valid state → valid (searcher.forget state)

/-- A search has ended in an error, and has left a library. -/
inductive EndsIn (valid : σ → Prop) (settings : Settings) (error : Error) (left : Library σ) : Prop where
  | search {key locale : String} {library : Library σ} (start : valid library.state)
    (fails : (searcher.search key locale settings).outcome library = (.error error, left))
  | loadEverything {locale : Option String} {library : Library σ} (start : valid library.state)
    (fails : (searcher.loadEverything locale settings).outcome library = (.error error, left))

/-- No search ends in a miss. -/
def Missless (valid : σ → Prop) : Prop :=
  ∀ settings error left, searcher.EndsIn valid settings error left → ¬ error.IsMiss

/-- An error with which a step ends is no miss, unless a search has just ended in it. -/
def Relays (valid : σ → Prop) (settings : Settings) (error : Error) (left : Library σ) : Prop :=
  valid left.state ∧ (error.IsMiss → searcher.EndsIn valid settings error left)

variable {searcher} {valid : σ → Prop} {settings : Settings}

/-- An error that is no miss needs no search to end in it. -/
theorem relays_of_hit {error : Error} {left : Library σ} (isValid : valid left.state) (hit : ¬ error.IsMiss) :
    searcher.Relays valid settings error left :=
  ⟨isValid, fun miss => absurd miss hit⟩

/-- A searcher that keeps the contract keeps what is stored and stores what it reports, and of errors it knows only its
own. -/
theorem Honest.search_relays (honest : searcher.Honest valid) {key locale : String} {library : Library σ}
    (start : valid library.state) :
    (searcher.search key locale settings).Meets library
      (fun loaded left => (valid left.state ∧ library.store.Keeps locale left.store) ∧
        ∀ other ∈ loaded, left.store.has other locale = true)
      (searcher.Relays valid settings) := by
  -- If this search fails, it is itself the one that has ended in the error.
  have meets := honest.search key locale settings library start
  refine Lookup.Meets.mono (Lookup.Meets.self _ library) (fun _ _ => meets.ok) fun error left fails => ?_
  exact ⟨meets.error fails, fun _ => .search start fails⟩

/-- Of loading everything, too, the only errors are its own. -/
theorem Honest.loadEverything_relays (honest : searcher.Honest valid) {locale : Option String} {library : Library σ}
    (start : valid library.state) :
    (searcher.loadEverything locale settings).Meets library (fun _ left => valid left.state)
      (searcher.Relays valid settings) := by
  -- An error of the searcher is one that it has ended in.
  have meets := honest.loadEverything locale settings library start
  refine Lookup.Meets.mono (Lookup.Meets.self _ library) (fun _ _ => meets.ok) fun error left fails => ?_
  exact ⟨meets.error fails, fun _ => .loadEverything start fails⟩

/-- A searcher keeps its word also when its searches are put on record. -/
theorem Honest.recorded (honest : searcher.Honest valid) : searcher.recorded.Honest fun state => valid state.1 where
  -- The record is kept beside the state, of which the word speaks.
  search key locale settings library isValid :=
    Searcher.noted_meets (honest.search key locale settings ⟨library.store, library.state.1⟩ isValid)
  loadEverything locale settings library isValid :=
    Searcher.noted_meets (honest.loadEverything locale settings ⟨library.store, library.state.1⟩ isValid)
  forget state isValid := honest.forget state.1 isValid

/-- A search on record that ends in an error is the last one on record when it does. -/
theorem last_of_endsIn {error : Error} {left : Library (σ × List Searched)}
    (ends : searcher.recorded.EndsIn (fun state => valid state.1) settings error left) :
    ∃ before key locale, left.state.2 = before ++ [⟨key, locale, some error⟩] := by
  -- The record is written when the search has ended.
  rcases ends with @⟨key, locale, library, -, fails⟩ | @⟨locale, library, -, fails⟩
  · obtain ⟨failed, rfl⟩ := Prod.mk.inj fails
    exact ⟨library.state.2, some key, some locale, by rw [failed]; rfl⟩
  · obtain ⟨failed, rfl⟩ := Prod.mk.inj fails
    exact ⟨library.state.2, .none, locale, by rw [failed]; rfl⟩

/-- The searcher that fails for every key, saying itself that it is not stored. -/
def refusing : Searcher Unit where
  search key locale _ := throw (.notStored key locale)
  loadEverything _ _ := pure []
  forget := id
  reach _ := 0

/-- It removes nothing and reports nothing that is not stored. -/
theorem refusing_honest : refusing.Honest fun _ => True where
  -- A search fails before it touches anything, and nothing is ever loaded.
  search _ _ _ _ _ := Lookup.Meets.throw trivial
  loadEverything _ _ _ _ := Lookup.Meets.pure trivial
  forget _ _ := trivial

end Searcher

namespace Expansion

variable {σ : Type} {expansion : Expansion σ} {valid : σ → Prop} {library : Library σ}

/-- What the steps of an expansion come to that starts with some messages: of its locale none is lost, and an error is
no miss unless a search has ended in it. -/
def Attends (expansion : Expansion σ) (valid : σ → Prop) (before : Store) {α : Type} (step : Lookup σ α)
    (library : Library σ) : Prop :=
  step.Meets library (fun _ left => valid left.state ∧ before.Keeps expansion.locale left.store)
    (expansion.searcher.Relays valid expansion.settings)

/-- A stored message is put in, or is of the wrong kind. -/
theorem inline_attends {before : Store} {key target : String} (isValid : valid library.state)
    (keeps : before.Keeps expansion.locale library.store) (there : library.store.has target expansion.locale = true) :
    expansion.Attends valid before (expansion.inline key target) library := by
  -- What is stored cannot be missed, and that it is of the wrong kind is another error.
  refine Lookup.Meets.inline (fun _ _ => ⟨isValid, keeps⟩) (fun _ _ _ => ?_) fun absent => ?_
  · exact Searcher.relays_of_hit isValid id
  · rw [Store.has, absent] at there
    cases there

/-- Whether a stored key is expanded without a miss. -/
def Expands (expansion : Expansion σ) (valid : σ → Prop) (expand : String → Lookup σ Unit) : Prop :=
  ∀ key library, valid library.state → library.store.has key expansion.locale = true →
    expansion.Attends valid library.store (expand key) library

/-- Keys that are stored stay so while those before them are expanded. -/
theorem loaded_attends {before : Store} {loaded : List String} {expand : String → Lookup σ Unit}
    (expands : expansion.Expands valid expand) (path : List String) (isValid : valid library.state)
    (keeps : before.Keeps expansion.locale library.store)
    (stored : ∀ other ∈ loaded, library.store.has other expansion.locale = true) :
    expansion.Attends valid before (loaded.forM fun other => if other ∈ path then pure () else expand other)
      library := by
  -- The invariant: those that are left to expand are stored.
  refine Lookup.Meets.mono (Lookup.Meets.forM (fun rest after =>
    (valid after.state ∧ before.Keeps expansion.locale after.store) ∧
      ∀ other ∈ rest, after.store.has other expansion.locale = true) (fun other rest after holding => ?_)
    ⟨⟨isValid, keeps⟩, stored⟩) (fun _ _ => And.left) fun _ _ => id
  obtain ⟨⟨isValid, keeps⟩, stored⟩ := holding
  split
  · exact Lookup.Meets.pure ⟨⟨isValid, keeps⟩, fun key member => stored key (List.mem_cons_of_mem _ member)⟩
  · refine (expands other after isValid (stored other List.mem_cons_self)).mono (fun _ last ends => ?_) fun _ _ => id
    exact ⟨⟨ends.1, keeps.trans ends.2⟩, fun key member => ends.2 key (stored key (List.mem_cons_of_mem _ member))⟩

section Honest

variable (honest : expansion.searcher.Honest valid) {expand : String → Lookup σ Unit}
include honest

/-- A reference is followed only to keys that are stored by then. -/
theorem follow_attends {before : Store} (expands : expansion.Expands valid expand) (path : List String) (key : String)
    (reference : Reference) (isValid : valid library.state) (keeps : before.Keeps expansion.locale library.store) :
    expansion.Attends valid before (expansion.follow expand path key reference) library := by
  refine Lookup.Meets.follow (fun candidate found => ?_) fun _ => ?_
  · -- The key that the reference means is stored, and so it is when it has been expanded.
    have there := Store.has_of_resolve? found
    refine (expands candidate library isValid there).mono (fun _ left ends => ?_) fun _ _ => id
    exact inline_attends ends.1 (keeps.trans ends.2) (ends.2 candidate there)
  · refine (honest.search_relays isValid).mono (fun loaded left ends => ?_) fun _ _ => id
    obtain ⟨⟨isValid, grows⟩, reported⟩ := ends
    refine (loaded_attends expands path isValid (keeps.trans grows) reported).mono (fun _ after ends => ?_)
      fun _ _ => id
    split
    · next there => exact inline_attends ends.1 ends.2 there
    · exact Searcher.relays_of_hit ends.1 id

/-- A stored key is expanded without a miss, however many keys are in progress. -/
theorem expandKey_attends (fuel : Nat) (path : List String) :
    expansion.Expands valid (expansion.expandKey fuel path) := by
  -- The induction is on the bound, for all keys that may be in progress by then.
  induction fuel generalizing path with
  | zero => exact fun key library isValid _ => Lookup.Meets.throw (Searcher.relays_of_hit isValid id)
  | succ fuel ih =>
    intro key library isValid there
    -- The key may be in progress, or have no references; it is stored in any case.
    refine Lookup.Meets.expandKey (fun _ => ?_) (fun _ absent => ?_) (fun _ _ _ _ => ⟨isValid, fun _ => id⟩) ?_
    · exact Searcher.relays_of_hit isValid id
    · rw [Store.has, absent] at there
      cases there
    · intro value _ _ _
      refine (Lookup.Meets.expandValue (fun _ _ => True)
        (fun _ left => valid left.state ∧ library.store.Keeps expansion.locale left.store)
        (fun reference _ left holding => ?_) ⟨isValid, fun _ => id⟩).mono (fun full left ends => ?_) fun _ _ => id
      · exact (follow_attends honest (ih (path ++ [key])) (path ++ [key]) key reference holding.1 holding.2).mono
          (fun _ _ => And.intro trivial) fun _ _ => id
      · exact ⟨ends.2.1, ends.2.2.add key full expansion.locale⟩

/-- Expanding keys never misses one: those that are not stored are passed over. -/
theorem expandKeys_relays (keys : List String) (isValid : valid library.state) :
    (expansion.expandKeys keys).Meets library (fun _ left => valid left.state)
      (expansion.searcher.Relays valid expansion.settings) := by
  -- Each key that is stored is expanded, and the others are passed over.
  refine Lookup.Meets.expandKeys (fun _ left => valid left.state) (fun key _ left isValid there => ?_)
    (fun _ _ _ isValid _ => isValid) isValid
  exact (expandKey_attends honest _ [] key left isValid there).mono (fun _ _ => And.left) fun _ _ => id

end Honest

end Expansion

namespace Table

/-- Tables are honest, whatever their rows: those that are stored without being reported do no harm. -/
theorem searcher_honest : searcher.Honest fun _ => True where
  -- Rows are added to the store and never removed, and what is reported has been added.
  search key locale settings library _ := by
    refine (search_takes key locale settings library).mono (fun loaded left ends => ?_) fun _ _ _ => trivial
    exact ⟨⟨trivial, fun other there => ends.1.2.kept other locale there⟩, ends.2⟩
  loadEverything locale settings library _ :=
    (loadEverything_takes locale settings library).mono (fun _ _ _ => trivial) fun _ _ _ => trivial
  forget _ _ := trivial

/-- Tables fail with messages of their own only. -/
theorem searcher_missless : searcher.Missless fun _ => True := by
  -- The only errors are messages that are written in rows.
  intro settings error left ends
  rcases ends with @⟨key, locale, library, _, fails⟩ | @⟨locale, library, _, fails⟩
  · obtain ⟨_, rfl⟩ := (search_takes key locale settings library).error fails
    exact id
  · obtain ⟨_, rfl⟩ := (loadEverything_takes locale settings library).error fails
    exact id

end Table

namespace Translator

variable {σ : Type}

/-- What is done to a translator by one call. -/
inductive Operation where
  | translate (key : String) (locale : Option String) (arguments : Arguments)
  | translateOrDefault (key : String) (locale : Option String) (arguments : Arguments) (default : String)
  | expandReferences (keys : List String) (locale : String)
  | loadEverything (locale : Option String)
  | reloadEverything
  | unloadEverything
  | addTranslation (key : String) (value : Value) (locale : Option String)
  /-- Changing the stored messages directly, in any way. -/
  | changeStore (change : Store → Store)
  | registerFunction (name : String) (function : Function) (locale : Option String)
  /-- Setting handlers, or removing them. -/
  | changeHandlers (change : Handlers → Handlers)
  | updateSettings (change : Settings → Settings)
  | set (name value : String)
  | reset

/-- The translator behind a change that may be refused. -/
def orSame (t : Translator σ) (changed : Except SettingsError (Translator σ)) : Translator σ :=
  changed.toOption.getD t

/-- The translator after a call. -/
def perform (t : Translator σ) : Operation → Translator σ
  | .translate key locale arguments => (t.translate key locale arguments).2
  | .translateOrDefault key locale arguments default => (t.translateOrDefault key locale arguments default).2
  | .expandReferences keys locale => (t.expandReferences keys locale).2
  | .loadEverything locale => (t.loadEverything locale).2
  | .reloadEverything => t.reloadEverything.2
  | .unloadEverything => t.unloadEverything
  | .addTranslation key value locale => t.addTranslation key value locale
  | .changeStore change => t.withStore (change t.store)
  | .registerFunction name function locale => t.registerFunction name function locale
  | .changeHandlers change => { t with handlers := change t.handlers }
  | .updateSettings change => t.orSame (t.updateSettings change)
  | .set name value => t.orSame (t.set name value)
  | .reset => t.orSame t.reset

/-- A call goes the same when its searches are put on record, and ends in a miss only if the last of them has ended in
that very error. -/
def Relayed {α : Type} (t : Translator σ) (call : (τ : Type) → Translator τ → Except Error α × Translator τ) : Prop :=
  ∃ searches, call _ (t.recording []) = ((call σ t).1, (call σ t).2.recording searches) ∧
    ∀ error, (call σ t).1 = .error error → error.IsMiss →
      ∃ before key locale, searches = before ++ [⟨key, locale, some error⟩]

/-- A call that ends in a miss has seen a search end in it. -/
def Excused {α : Type} (searcher : Searcher σ) (valid : σ → Prop) (ended : Except Error α × Translator σ) : Prop :=
  ∀ error, ended.1 = .error error → error.IsMiss →
    searcher.EndsIn valid ended.2.settings error ended.2.library

/-- Every call of a translator that can fail ends in a miss only if its last search has. -/
structure Relaying (t : Translator σ) : Prop where
  translate : ∀ key locale arguments, t.Relayed fun _ t => t.translate key locale arguments
  translateOrDefault : ∀ key locale arguments default,
    t.Relayed fun _ t => t.translateOrDefault key locale arguments default
  expandReferences : ∀ keys locale, t.Relayed fun _ t => t.expandReferences keys locale
  loadEverything : ∀ locale, t.Relayed fun _ t => t.loadEverything locale
  reloadEverything : t.Relayed fun _ t => t.reloadEverything

/-- No call of a translator ends in a miss. -/
structure NeverMisses (t : Translator σ) : Prop where
  translate : ∀ key locale arguments error, (t.translate key locale arguments).1 = .error error → ¬ error.IsMiss
  translateOrDefault : ∀ key locale arguments default error,
    (t.translateOrDefault key locale arguments default).1 = .error error → ¬ error.IsMiss
  expandReferences : ∀ keys locale error, (t.expandReferences keys locale).1 = .error error → ¬ error.IsMiss
  loadEverything : ∀ locale error, (t.loadEverything locale).1 = .error error → ¬ error.IsMiss
  reloadEverything : ∀ error, t.reloadEverything.1 = .error error → ¬ error.IsMiss

section Steps

variable (t : Translator σ) {valid : σ → Prop} (honest : t.searcher.Honest valid) {library : Library σ}
include honest

/-- What a search reports is expanded without a miss. -/
theorem fetch_relays (key locale : String) (isValid : valid library.state) :
    (t.fetch key locale).Meets library (fun _ left => valid left.state) (t.searcher.Relays valid t.settings) := by
  -- Only a key that is not stored is searched for.
  refine .bind (.has ?_)
  split
  · exact .pure isValid
  · refine .bind ((honest.search_relays isValid).mono (fun loaded left ends => ?_) fun _ _ => id)
    exact Expansion.expandKeys_relays (show (t.expansion locale).searcher.Honest valid from honest) loaded ends.1.1

/-- The message of a key is read only where it is stored. -/
theorem lookup?_relays (key locale : String) (arguments : Arguments) (isValid : valid library.state) :
    (t.lookup? key locale arguments).Meets library (fun _ left => valid left.state)
      (t.searcher.Relays valid t.settings) := by
  refine .bind ((t.fetch_relays honest key locale isValid).mono (fun _ left isValid => ?_) fun _ _ => id)
  refine .bind (.store ?_)
  split
  · exact .pure isValid
  · next value _ =>
    split
    · exact .pure isValid
    · next error formats =>
      -- A message that was found fails only in being put together.
      exact .throw (Searcher.relays_of_hit isValid (Formatter.format_rendered _ value error formats).not_isMiss)

omit honest in
/-- Where no locale has a message the key is said not to be found, which is another error than a miss. -/
theorem resorts_relays (key last : String) (arguments : Arguments) (default : Option String)
    (isValid : valid library.state) :
    Lookup.Meets (match default with
      | some text => return .text text
      | none => match t.missing key last arguments with
        | .ok translation => return translation
        | .error error => throw error : Lookup σ Translation) library (fun _ left => valid left.state)
      (t.searcher.Relays valid t.settings) := by
  -- The error of a last resort is told by another name than a miss.
  cases default with
  | some text => exact .pure isValid
  | none =>
    simp only
    cases fails : t.missing key last arguments with
    | ok translation => exact .pure isValid
    | error error =>
      obtain rfl := t.lastResort_error (show t.lastResort key last arguments none = .error error from fails)
      exact .throw (Searcher.relays_of_hit isValid id)

/-- A call ends in a miss only if one of its lookups does. -/
theorem resolve_relays (key : String) (asked : Option String) (arguments : Arguments) (default : Option String)
    (isValid : valid library.state) :
    (t.resolve key asked arguments default).Meets library (fun _ left => valid left.state)
      (t.searcher.Relays valid t.settings) := by
  -- The locale asked for comes first, and the fallback, if there is one, behind it.
  refine .bind ((t.lookup?_relays honest key _ arguments isValid).mono (fun answer left isValid => ?_) fun _ _ => id)
  cases answer with
  | some translation => exact .pure isValid
  | none =>
    dsimp only
    cases t.fallbackFor? (asked.getD t.settings.locale) with
    | none => exact t.resorts_relays key _ arguments default isValid
    | some other =>
      refine .bind ((t.lookup?_relays honest key other arguments isValid).mono (fun answer last isValid => ?_)
        fun _ _ => id)
      cases answer with
      | some translation => exact .pure isValid
      | none => exact t.resorts_relays key other arguments default isValid

/-- Of every locale for which something was loaded the keys are expanded without a miss. -/
theorem loadEverything_relays (locale : Option String) (isValid : valid library.state) :
    Lookup.Meets (do
        let loaded ← t.searcher.loadEverything locale t.settings
        (groupByLocale loaded).entries.forM fun (locale, keys) => (t.expansion locale).expandKeys keys
        return loaded.length)
      library (fun _ left => valid left.state) (t.searcher.Relays valid t.settings) := by
  -- Loading comes first, and then one expansion for each locale, in none of which a miss is raised.
  refine .bind (honest.loadEverything_relays isValid |>.mono (fun loaded left isValid => ?_) fun _ _ => id)
  refine .bind (.mono (.forM (fun _ left => valid left.state) (fun entry _ left isValid => ?_) isValid)
    (fun _ _ isValid => .pure isValid) fun _ _ => id)
  exact Expansion.expandKeys_relays (show (t.expansion entry.1).searcher.Honest valid from honest) entry.2 isValid

omit honest in
/-- A step that relays is one of a call that is excused. -/
theorem excused_of_meets {α : Type} {step : Lookup σ α}
    (meets : step.Meets t.library (fun _ left => valid left.state) (t.searcher.Relays valid t.settings)) :
    valid (t.run step).2.library.state ∧ Excused t.searcher valid (t.run step) := by
  -- An error of the step that is a miss is one that a search has ended in.
  unfold Lookup.Meets at meets
  rw [run_outcome]
  generalize step.outcome t.library = ended at meets ⊢
  obtain ⟨_ | _, left⟩ := ended
  · exact ⟨meets.1, fun _ same miss => by cases same; exact meets.2 miss⟩
  · exact ⟨meets, fun _ same => nomatch same⟩

end Steps

section Calls

variable {t : Translator σ} {valid : σ → Prop} (honest : t.searcher.Honest valid) (isValid : valid t.library.state)
include honest isValid

/-- A miss that a translation ends in is one of the searcher. -/
theorem translate_excused (key : String) (locale : Option String) (arguments : Arguments) :
    valid (t.translate key locale arguments).2.library.state ∧
      Excused t.searcher valid (t.translate key locale arguments) :=
  t.excused_of_meets (t.resolve_relays honest key locale arguments none isValid)

/-- So is one that a translation with a default ends in. -/
theorem translateOrDefault_excused (key : String) (locale : Option String) (arguments : Arguments) (default : String) :
    valid (t.translateOrDefault key locale arguments default).2.library.state ∧
      Excused t.searcher valid (t.translateOrDefault key locale arguments default) :=
  t.excused_of_meets (t.resolve_relays honest key locale arguments (some default) isValid)

/-- So is one that an expansion of keys ends in. -/
theorem expandReferences_excused (keys : List String) (locale : String) :
    valid (t.expandReferences keys locale).2.library.state ∧
      Excused t.searcher valid (t.expandReferences keys locale) :=
  t.excused_of_meets
    (Expansion.expandKeys_relays (show (t.expansion locale).searcher.Honest valid from honest) keys isValid)

/-- So is one that loading everything ends in. -/
theorem loadEverything_excused (locale : Option String) :
    valid (t.loadEverything locale).2.library.state ∧ Excused t.searcher valid (t.loadEverything locale) :=
  t.excused_of_meets (t.loadEverything_relays honest locale isValid)

/-- So is one that loading everything again ends in. -/
theorem reloadEverything_excused :
    valid t.reloadEverything.2.library.state ∧ Excused t.searcher valid t.reloadEverything :=
  loadEverything_excused (show t.unloadEverything.searcher.Honest valid from honest) (honest.forget _ isValid) none

/-- A searcher without misses of its own leaves a translator none that it could hand on. -/
theorem neverMisses_of_missless (missless : t.searcher.Missless valid) : t.NeverMisses := by
  -- Such a miss would be excused by a search that has ended in it.
  have never {α : Type} {ended : Except Error α × Translator σ} (excused : Excused t.searcher valid ended)
      (error : Error)
      (fails : ended.1 = .error error) : ¬ error.IsMiss :=
    fun miss => missless _ _ _ (excused error fails miss) miss
  exact {
    translate key locale arguments := never (translate_excused honest isValid key locale arguments).2
    translateOrDefault key locale arguments default :=
      never (translateOrDefault_excused honest isValid key locale arguments default).2
    expandReferences keys locale := never (expandReferences_excused honest isValid keys locale).2
    loadEverything locale := never (loadEverything_excused honest isValid locale).2
    reloadEverything := never (reloadEverything_excused honest isValid).2 }

omit honest isValid in
/-- A call that goes the same with a record, and is excused there, has its last search to excuse it. -/
theorem relayed_of_excused {α : Type} {call : (τ : Type) → Translator τ → Except Error α × Translator τ}
    (same : ∃ searches, call _ (t.recording []) = ((call σ t).1, (call σ t).2.recording searches))
    (excused : Excused t.searcher.recorded (fun state => valid state.1) (call _ (t.recording []))) :
    t.Relayed call := by
  -- The excuse is a search that ends in the error, and on record that is the last one.
  obtain ⟨searches, same⟩ := same
  refine ⟨searches, same, fun error fails miss => ?_⟩
  rw [same] at excused
  exact Searcher.last_of_endsIn (excused error fails miss)

/-- The calls of a translator hand on what its searcher fails with. -/
theorem relaying_of_honest : t.Relaying := by
  -- The calls are looked at with a record, which changes nothing about them.
  have recorded : (t.recording []).searcher.Honest fun state => valid state.1 := honest.recorded
  have start : valid (t.recording []).library.state.1 := isValid
  exact {
    translate key locale arguments :=
      relayed_of_excused (t.run_recording [] (t.resolve_recording [] key locale arguments none))
        (translate_excused recorded start key locale arguments).2
    translateOrDefault key locale arguments default :=
      relayed_of_excused (t.run_recording [] (t.resolve_recording [] key locale arguments (some default)))
        (translateOrDefault_excused recorded start key locale arguments default).2
    expandReferences keys locale :=
      relayed_of_excused (t.run_recording [] (t.expandKeys_recording [] locale keys))
        (expandReferences_excused recorded start keys locale).2
    loadEverything locale :=
      relayed_of_excused (t.loadEverything_recording [] locale) (loadEverything_excused recorded start locale).2
    reloadEverything :=
      relayed_of_excused (t.unloadEverything.loadEverything_recording [] none)
        (reloadEverything_excused recorded start).2 }

end Calls

/-- A change that settles leaves what it leaves also when it is refused. -/
theorem orSame_changed {t : Translator σ} {change : Change σ Unit} (settles : t.Settles change) :
    t.orSame (t.changed change) = (t.undergo change).2 := by
  rcases settles with ⟨error, ends⟩ | ⟨settings, -, ends⟩ <;> simp [changed, orSame, ends, Except.map, Except.toOption]

/-- Settings are changed without touching the searcher and the messages. -/
theorem Settles.untouched {t : Translator σ} {change : Change σ Unit} (settles : t.Settles change) :
    (t.undergo change).2.searcher = t.searcher ∧ (t.undergo change).2.library = t.library := by
  rcases settles with ⟨error, ends⟩ | ⟨settings, -, ends⟩ <;> rw [ends] <;> exact ⟨rfl, rfl⟩

/-- Starting over leaves what it leaves. -/
theorem orSame_reset (t : Translator σ) : t.orSame t.reset = (t.undergo startOver).2 := by
  simp [reset, changed, undergo_startOver, orSame, Except.map, Except.toOption]

/-- No call replaces the searcher or makes its state invalid. -/
theorem perform_valid {searcher : Searcher σ} {valid : σ → Prop} (honest : searcher.Honest valid) {t : Translator σ}
    (holds : t.searcher = searcher ∧ valid t.library.state) (operation : Operation) :
    (t.perform operation).searcher = searcher ∧ valid (t.perform operation).library.state := by
  obtain ⟨rfl, isValid⟩ := holds
  -- Changes of the settings touch neither.
  have changed {change : Change σ Unit} (settles : t.Settles change) :
      (t.orSame (t.changed change)).searcher = t.searcher ∧ valid (t.orSame (t.changed change)).library.state := by
    rw [orSame_changed settles, settles.untouched.1, settles.untouched.2]
    exact ⟨rfl, isValid⟩
  cases operation with
  | translate key locale arguments => exact ⟨rfl, (translate_excused honest isValid key locale arguments).1⟩
  | translateOrDefault key locale arguments default =>
    exact ⟨rfl, (translateOrDefault_excused honest isValid key locale arguments default).1⟩
  | expandReferences keys locale => exact ⟨rfl, (expandReferences_excused honest isValid keys locale).1⟩
  | loadEverything locale => exact ⟨rfl, (loadEverything_excused honest isValid locale).1⟩
  | reloadEverything => exact ⟨rfl, (reloadEverything_excused honest isValid).1⟩
  | unloadEverything => exact ⟨rfl, honest.forget _ isValid⟩
  | addTranslation key value locale => exact ⟨rfl, isValid⟩
  | changeStore change => exact ⟨rfl, isValid⟩
  | registerFunction name function locale => exact ⟨rfl, isValid⟩
  | changeHandlers change => exact ⟨rfl, isValid⟩
  | updateSettings change => exact changed (t.revise_settles change)
  | set name value => exact changed (t.assign_settles name value)
  | reset =>
    change (t.orSame t.reset).searcher = _ ∧ valid (t.orSame t.reset).library.state
    rw [orSame_reset, undergo_startOver]
    exact ⟨rfl, honest.forget _ isValid⟩

/-- Calls neither replace the searcher nor make its state invalid. -/
theorem operations_valid {searcher : Searcher σ} {valid : σ → Prop} (honest : searcher.Honest valid) {t : Translator σ}
    (holds : t.searcher = searcher ∧ valid t.library.state) (operations : List Operation) :
    (operations.foldl perform t).searcher = searcher ∧ valid (operations.foldl perform t).library.state := by
  -- Each of the calls keeps it so.
  induction operations generalizing t with
  | nil => exact holds
  | cons operation rest ih => exact ih (perform_valid honest holds operation)

/-- A translator is created with the searcher and the state that it is given. -/
theorem create_searcher {searcher : Searcher σ} {state : σ} {settings : Settings} {created : Translator σ}
    (creates : create searcher state settings = .ok created) :
    created.searcher = searcher ∧ created.library.state = state := by
  -- Creating checks the settings and puts the rest together.
  unfold create at creates
  cases validated : settings.validate with
  | error error =>
    rw [validated] at creates
    cases creates
  | ok _ =>
    rw [validated] at creates
    cases creates
    exact ⟨rfl, rfl⟩

/-- A translator never says by itself that a message is not stored: with a searcher that removes nothing and reports
only stored keys, and after any calls, a call ends in such an error only if the last search that it has made ended in
the same error. With a searcher that never says so no call does. -/
theorem misses_relayed {searcher : Searcher σ} {valid : σ → Prop} (honest : searcher.Honest valid) {state : σ}
    (start : valid state) {settings : Settings} {created : Translator σ}
    (creates : create searcher state settings = .ok created) (operations : List Operation) :
    let t := operations.foldl perform created
    t.Relaying ∧ (searcher.Missless valid → t.NeverMisses) := by
  -- The word is kept through all operations, and then counts for each single call.
  intro t
  obtain ⟨given, begins⟩ := create_searcher creates
  obtain ⟨same, isValid⟩ := operations_valid honest ⟨given, begins ▸ start⟩ operations
  subst same
  exact ⟨relaying_of_honest honest isValid, fun missless => neverMisses_of_missless honest isValid missless⟩

/-- A table of messages that refer to each other and to one that is in no row. -/
def gappy : Table :=
  { rows := [{ locale := "en", key := "app.title", value := .scalar "%{lib.name}" },
      { locale := "en", key := "lib.name", value := .scalar "%{.about}, %{nowhere}" },
      { locale := "en", key := "lib.about", value := .scalar "a guide", on := some "lib.name", quiet := true }]
    everything := true }

/-- Whatever is done to a translator that searches this table, no call says that a message is not stored. -/
theorem misses_relayed_gappy :
    ∃ created, create Table.searcher gappy {} = .ok created ∧ ∀ operations : List Operation,
      (operations.foldl perform created).Relaying ∧ (operations.foldl perform created).NeverMisses := by
  have validated : ({} : Settings).validate = .ok () := by decide +kernel
  obtain ⟨created, creates⟩ : ∃ created, create Table.searcher gappy {} = .ok created :=
    ⟨_, congrArg (Except.map _) validated⟩
  refine ⟨created, creates, fun operations => ?_⟩
  -- The table itself never says so.
  obtain ⟨relaying, never⟩ := misses_relayed Table.searcher_honest trivial creates operations
  exact ⟨relaying, never Table.searcher_missless⟩

/-- A searcher that says itself that a message is not stored is heard: a call for a message ends in its error, where a
translator of its own accord would have given the key. -/
theorem translate_refused :
    Searcher.refusing.Honest (fun _ => True) ∧ ∃ created, create Searcher.refusing () {} = .ok created ∧
      (created.translate "title" none .empty).1 = .error (.notStored "title" "en") := by
  have validated : ({} : Settings).validate = .ok () := by decide +kernel
  exact ⟨Searcher.refusing_honest, fresh Searcher.refusing () {}, congrArg (Except.map _) validated, rfl⟩

end Translator

end Phrasebook
