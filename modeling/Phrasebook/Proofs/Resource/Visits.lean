import Phrasebook.Proofs.Catalogue.Steady
import Phrasebook.Proofs.Resource.Place
import Phrasebook.Resource.Search

/-! The files that a search visits, and what loading one of them does to what is remembered. -/

namespace Phrasebook.Resource

/-- The result of a step on resource files and the source it leaves. -/
def Step.outcome {α : Type} (step : Step α) (source : Source) : Except LoadError α × Source :=
  Id.run ((ExceptT.run step).run source)

namespace Step

variable {α β : Type} {source : Source}

/-- A step that only answers leaves the source. -/
@[simp] theorem outcome_pure (x : α) : (pure x : Step α).outcome source = (.ok x, source) :=
  rfl

/-- A step that only fails leaves the source. -/
@[simp] theorem outcome_throw (error : LoadError) : (throw error : Step α).outcome source = (.error error, source) :=
  rfl

/-- Asking for the source leaves it. -/
@[simp] theorem outcome_get : (get : Step Source).outcome source = (.ok source, source) :=
  rfl

/-- Setting the source answers nothing. -/
@[simp] theorem outcome_set (other : Source) : (set other : Step PUnit).outcome source = (.ok ⟨⟩, other) :=
  rfl

/-- A step goes on with the source that the one before leaves, unless that fails. -/
theorem outcome_bind (step : Step α) (next : α → Step β) :
    (step >>= next).outcome source =
      match step.outcome source with
      | (.ok x, left) => (next x).outcome left
      | (.error error, left) => (.error error, left) := by
  -- One case for each way in which the first step may end.
  simp only [outcome, ExceptT.run_bind, StateT.run_bind, Id.run_bind]
  generalize (StateT.run (ExceptT.run step) source).run = first
  obtain ⟨_ | _, left⟩ := first <;> rfl

end Step

/-- The result of a step on resource files as the result of a step on the library. -/
theorem answer_outcome {α : Type} (result : Except LoadError α) (library : Library Source) :
    (match result with
      | .ok value => return value
      | .error error => throw (.load error.message) : Lookup Source α).outcome library =
      (result.mapError fun error => .load error.message, library) := by
  cases result <;> rfl

/-- A step on resource files changes the state of the searcher only. -/
theorem lift_outcome {α : Type} (step : Step α) (library : Library Source) :
    (lift step).outcome library =
      let ended := Step.outcome step library.state
      (ended.1.mapError fun error => .load error.message, { library with state := ended.2 }) :=
  let ended := Step.outcome step library.state
  answer_outcome ended.1 { library with state := ended.2 }

section Load

variable {source : Source} {path : String} {root : Option String} {keepRest : Bool} {settings : Settings}

/-- What is taken of the data of a file: all of it, or the section of a locale. -/
def taken (place : String) : Option String → Dict Json → Except LoadError (Dict Json)
  | none, data => .ok data
  | some locale, data =>
    if data.contains locale then sectionAt place locale data else .error (.missingRoot place locale)

/-- What is left of the data of a file. -/
def leftover : Option String → Dict Json → Dict Json
  | none, _ => .empty
  | some locale, data => data.erase locale

/-- What a file gives that is read anew. -/
def Source.given (source : Source) (path : String) (root : Option String) (settings : Settings) :
    Except LoadError (Dict Json) :=
  (source.read path settings.encoding).bind (taken (source.placeOf path) root)

/-- What a file gives depends on the files and their formats only. -/
theorem Source.given_congr {other : Source} (files : other.files = source.files)
    (formats : other.formats = source.formats)
    (path : String) (root : Option String) (settings : Settings) :
    other.given path root settings = source.given path root settings := by
  rw [given, read_congr files formats, placeOf, files, given, placeOf]

/-- What is remembered of a file from which something was taken. -/
def Source.after (source : Source) (place : String) (root : Option String) (keepRest : Bool) (settings : Settings)
    (data : Dict Json) : Source :=
  if settings.memoize then source.remember place (if keepRest then some (leftover root data) else none) else source

/-- What was asked for is given, and the rest remembered. -/
theorem finish_outcome (place : String) (root : Option String) (data found : Dict Json) :
    Step.outcome (load.finish keepRest settings place (leftover root data) found) source =
      (.ok found, source.after place root keepRest settings data) := by
  unfold load.finish Source.after
  cases settings.memoize <;> rfl

/-- A file of which nothing is known is read. -/
theorem load_of_unknown (unknown : source.remembered.get? (source.placeOf path) = none) :
    Step.outcome (load path root keepRest settings) source =
      match source.read path settings.encoding with
      | .error error => (.error error, source)
      | .ok data =>
        match taken (source.placeOf path) root data with
        | .error error => (.error error, source)
        | .ok found => (.ok found, source.after (source.placeOf path) root keepRest settings data) := by
  rw [load, Step.outcome_bind, Step.outcome_get]
  simp only [unknown]
  cases source.read path settings.encoding with
  | error error => rfl
  | ok data =>
    simp only [pure_bind, Bool.false_eq_true, false_and, if_false]
    -- All data is asked for, or the section of a locale, which may be missing.
    cases root with
    | none => exact finish_outcome (source.placeOf path) none data data
    | some locale =>
      simp only [taken]
      split
      · cases sectionAt (source.placeOf path) locale data with
        | error error => rfl
        | ok found => exact finish_outcome (source.placeOf path) (some locale) data found
      · rfl

/-- What is asked for is taken from data that is remembered. -/
theorem load_of_held {data : Dict Json} (held : source.remembered.get? (source.placeOf path) = some (some data))
    (more : data.isEmpty = false) :
    Step.outcome (load path root keepRest settings) source =
      let place := source.placeOf path
      let emptied := source.remember place (some .empty)
      match taken place root data with
      | .ok found => (.ok found, emptied.after place root keepRest settings data)
      | .error error =>
        (.error error, if root.all data.contains then emptied else source.remember place (some data)) := by
  rw [load, Step.outcome_bind, Step.outcome_get]
  simp only [held, pure_bind, more, Bool.false_eq_true, and_false, if_false, if_true]
  -- The data is taken out of the table before it is looked at.
  rw [Step.outcome_bind, Step.outcome_set]
  cases root with
  | none => exact finish_outcome (source.placeOf path) none data data
  | some locale =>
    simp only [taken, Option.all_some]
    split
    · cases sectionAt (source.placeOf path) locale data with
      | error error => rfl
      | ok found => exact finish_outcome (source.placeOf path) (some locale) data found
    · -- A section that is missing puts the data back.
      rw [Step.outcome_bind, Step.outcome_set]
      rfl

/-- Whether all that a file had to give has been taken. -/
def Source.usedUp (source : Source) (path : String) : Bool :=
  match source.remembered.get? (source.placeOf path) with
  | some (some data) => data.isEmpty
  | some none => true
  | none => false

/-- A file that is used up gives nothing. -/
theorem load_of_usedUp (used : source.usedUp path = true) :
    Step.outcome (load path root keepRest settings) source = (.ok .empty, source) := by
  -- Nothing is left of the file, or what is left is empty.
  unfold Source.usedUp at used
  rw [load, Step.outcome_bind, Step.outcome_get]
  match known : source.remembered.get? (source.placeOf path) with
  | none => simp [known] at used
  | some none =>
    simp only [known]
    rfl
  | some (some data) =>
    simp only [known] at used
    simp only [known, pure_bind, used, and_self, if_true]
    rfl

/-- A source that differs from another one at most in what is remembered of a file. -/
structure Source.SameBut (source other : Source) (place : String) : Prop where
  files : other.files = source.files
  formats : other.formats = source.formats
  elsewhere : ∀ other', other' ≠ place → other.remembered.get? other' = source.remembered.get? other'

namespace Source.SameBut

variable {other : Source} {place : String}

/-- A source is the same as itself but for any place. -/
theorem refl : source.SameBut source place :=
  ⟨rfl, rfl, fun _ _ => rfl⟩

/-- Something else may be remembered of the file. -/
theorem remember (same : source.SameBut other place) (data : Option (Dict Json)) :
    source.SameBut (other.remember place data) place where
  files := same.files
  formats := same.formats
  elsewhere other' apart := by
    rw [Source.remember, Dict.get?_insert, if_neg apart]
    exact same.elsewhere other' apart

/-- What a load remembers or forgets concerns its own place only. -/
theorem after (same : source.SameBut other place) (data : Dict Json) :
    source.SameBut (other.after place root keepRest settings data) place := by
  -- The memo is written for the place, or not at all.
  unfold Source.after
  split
  · exact same.remember _
  · exact same

end Source.SameBut

/-- Loading a file changes only what is remembered of it. -/
theorem load_sameBut (source : Source) (path : String) (root : Option String) (keepRest : Bool) (settings : Settings) :
    source.SameBut (Step.outcome (load path root keepRest settings) source).2 (source.placeOf path) := by
  -- One case for each of the lemmas above.
  cases used : source.usedUp path with
  | true =>
    rw [load_of_usedUp used]
    exact .refl
  | false =>
    unfold Source.usedUp at used
    match known : source.remembered.get? (source.placeOf path) with
    | some none => simp [known] at used
    | none =>
      rw [load_of_unknown known]
      cases source.read path settings.encoding with
      | error error => exact .refl
      | ok data =>
        simp only
        cases taken (source.placeOf path) root data with
        | error error => exact .refl
        | ok found => exact Source.SameBut.refl.after data
    | some (some data) =>
      rw [load_of_held known (by simpa [known] using used)]
      simp only
      cases taken (source.placeOf path) root data with
      | ok found => exact (Source.SameBut.refl.remember _).after data
      | error error =>
        simp only
        split
        · exact Source.SameBut.refl.remember _
        · exact Source.SameBut.refl.remember _

variable {other : Source} (root : Option String) (keepRest : Bool) (settings : Settings)

/-- What is remembered of a file after something was taken from it. -/
theorem Source.get?_after (source : Source) (place : String) (data : Dict Json) :
    (source.after place root keepRest settings data).remembered.get? place =
      if settings.memoize then some (if keepRest then some (leftover root data) else none)
      else source.remembered.get? place := by
  -- With a memo something is put in for the place, and without one nothing is changed.
  unfold after remember
  split
  · rw [Dict.get?_insert, if_pos rfl]
  · rfl

/-- What a file gives depends on the files, their formats and what is remembered of that one. -/
theorem load_congr (files : other.files = source.files) (formats : other.formats = source.formats)
    (memo : other.remembered.get? (source.placeOf path) = source.remembered.get? (source.placeOf path)) :
    let one := Step.outcome (load path root keepRest settings) source
    let two := Step.outcome (load path root keepRest settings) other
    two.1 = one.1 ∧
      two.2.remembered.get? (source.placeOf path) = one.2.remembered.get? (source.placeOf path) := by
  have place : other.placeOf path = source.placeOf path := by rw [Source.placeOf, files, Source.placeOf]
  have reads := Source.read_congr files formats path settings.encoding
  have used : other.usedUp path = source.usedUp path := by rw [Source.usedUp, place, memo, Source.usedUp]
  -- The file has nothing left, or has to be read, or is taken from the memo.
  cases usedUp : source.usedUp path with
  | true =>
    rw [load_of_usedUp usedUp, load_of_usedUp (used.trans usedUp)]
    exact ⟨rfl, memo⟩
  | false =>
    unfold Source.usedUp at usedUp
    cases known : source.remembered.get? (source.placeOf path) with
    | none =>
      rw [load_of_unknown known, load_of_unknown (place ▸ memo.trans known), reads, place]
      cases source.read path settings.encoding with
      | error error => exact ⟨rfl, memo⟩
      | ok data =>
        dsimp only
        cases taken (source.placeOf path) root data with
        | error error => exact ⟨rfl, memo⟩
        | ok found => exact ⟨rfl, by simp only [Source.get?_after, memo]⟩
    | some remembered =>
      cases remembered with
      | none => simp [known] at usedUp
      | some data =>
        have more : data.isEmpty = false := by simpa [known] using usedUp
        rw [load_of_held known more, load_of_held (place ▸ memo.trans known) more, place]
        dsimp only
        cases taken (source.placeOf path) root data with
        | error error =>
          dsimp only
          split
          · exact ⟨rfl, by simp [Source.remember]⟩
          · exact ⟨rfl, by simp [Source.remember]⟩
        | ok found => exact ⟨rfl, by simp [Source.get?_after, Source.remember]⟩

end Load

namespace Query

variable (query : Query) (files : FileTree) (base locale : String)

/-- The file named after a segment in a directory below a load path, if there is one. -/
def named? (path segment : String) : Option String :=
  let wanted := query.format.render segment locale query.settings.fileFormat
  if files.isFile (Path.join (Path.join base path) wanted) then some (Path.join path wanted) else none

/-- The file below a load path that holds the messages of a namespace, if there is one. -/
def target? : String → List String → Option String
  | path, [] => query.named? files base locale path ""
  | path, segment :: rest =>
    (query.named? files base locale path segment).or
      (if segment ≠ "" ∧ files.isDirectory (Path.join (Path.join base path) segment) then
        target? (Path.join path segment) rest
      else none)

/-- The paths of the files below load paths that hold the messages of a namespace. -/
def visits (segments bases : List String) : List String :=
  bases.filterMap fun base => (query.target? files base locale "" segments).map (Path.join base)

/-- The segments of the namespace of a key. -/
def space (key : String) : List String :=
  (Key.segments key query.settings.namespaceDelimiter).dropLast

variable {query files base locale} {library : Library Source}

/-- The files that a search visits are found base by base. -/
theorem visits_cons (segments : List String) (rest : List String) :
    query.visits files locale segments (base :: rest) =
      match query.target? files base locale "" segments with
      | none => query.visits files locale segments rest
      | some file => Path.join base file :: query.visits files locale segments rest := by
  rw [visits, List.filterMap_cons]
  cases query.target? files base locale "" segments <;> rfl

/-- The file named after a segment is there. -/
theorem isFile_of_named? {path segment file : String}
    (named : query.named? files base locale path segment = some file) :
    files.isFile (Path.join base file) = true := by
  -- The name is only given if there is a file.
  unfold named? at named
  simp only at named
  split at named
  · next isFile =>
    obtain rfl := Option.some.inj named
    rwa [← Path.join_assoc]
  · cases named

/-- The file that holds the messages of a namespace is there. -/
theorem isFile_of_target? {path file : String} {segments : List String}
    (target : query.target? files base locale path segments = some file) :
    files.isFile (Path.join base file) = true := by
  -- Segment by segment: the file is named after this one, or lies further below.
  induction segments generalizing path with
  | nil => exact isFile_of_named? target
  | cons segment rest ih =>
    rw [target?, Option.or_eq_some_iff] at target
    rcases target with named | ⟨-, below⟩
    · exact isFile_of_named? named
    · split at below
      · exact ih below
      · cases below

/-- A segment that names a file has it loaded; otherwise the search goes on. -/
theorem loadIfFile_outcome (path segment : String) (otherwise : Lookup Source (List String)) :
    (descend.loadIfFile query base locale path segment otherwise).outcome library =
      match query.named? library.state.files base locale path segment with
      | some file => (query.loadFile base file locale).outcome library
      | none => otherwise.outcome library := by
  -- Whether there is a file is asked of the library.
  unfold descend.loadIfFile named?
  rw [Lookup.outcome_bind, Lookup.outcome_get]
  simp only
  split <;> rfl

/-- A descent loads the file that holds the messages of the namespace. -/
theorem descend_outcome (path : String) (segments : List String) :
    (query.descend base locale path segments).outcome library =
      match query.target? library.state.files base locale path segments with
      | some file => (query.loadFile base file locale).outcome library
      | none => (.ok [], library) := by
  induction segments generalizing path with
  | nil =>
    rw [descend, loadIfFile_outcome, target?]
    rfl
  | cons segment rest ih =>
    rw [descend, loadIfFile_outcome, target?]
    cases query.named? library.state.files base locale path segment with
    | some file => rfl
    | none =>
      -- Without a file of that name, the descent goes on in the directory.
      simp only [Option.none_or]
      rw [Lookup.outcome_bind, Lookup.outcome_get]
      simp only
      split
      · exact ih (Path.join path segment)
      · rfl

/-- Messages that are added one by one are put into the store in their order. -/
theorem adds_outcome (found : List (String × Value)) (locale : String) (library : Library Source) :
    (found.forM fun (key, value) => Lookup.add key value locale : Lookup Source PUnit).outcome library =
      (.ok ⟨⟩, { library with store := library.store.putAll found locale }) := by
  -- Message by message.
  induction found generalizing library with
  | nil => rfl
  | cons entry rest ih => exact ih { library with store := library.store.add entry.1 entry.2 locale }

/-- The messages of a section are put into the store in their order. -/
theorem store_outcome (data : Dict Json) (space : String) :
    (query.store data space locale).outcome library =
      match entries query.settings.namespaceDelimiter space data.entries with
      | .error error => (.error (.load error.message), library)
      | .ok found => (.ok (found.map Prod.fst), { library with store := library.store.putAll found locale }) := by
  -- The messages are all spelled out before the first one is put in.
  unfold Query.store
  cases entries query.settings.namespaceDelimiter space data.entries with
  | error error => rfl
  | ok found =>
    simp only
    rw [Lookup.outcome_bind, adds_outcome]
    rfl

/-- The section that is taken of the files of a locale, if they are divided by locales. -/
def rootOf (settings : Settings) (locale : String) : Option String :=
  if settings.skipLocaleRoot then none else some locale

/-- A file is loaded, and what is taken of it stored. -/
theorem loadFile_outcome (path : String) :
    (query.loadFile base path locale).outcome library =
      let root := rootOf query.settings locale
      let ended := Step.outcome (load (Path.join base path) root
        (! query.format.has .locale && root.isSome) query.settings)
        library.state
      match ended.1 with
      | .error error => (.error (.load error.message), { library with state := ended.2 })
      | .ok data => (query.store data (query.spaceOf path) locale).outcome { library with state := ended.2 } := by
  -- The program with the section that is asked for under its name.
  change (lift (load (Path.join base path) (rootOf query.settings locale)
    (! query.format.has .locale && (rootOf query.settings locale).isSome) query.settings) >>= fun data =>
      query.store data (query.spaceOf path) locale).outcome library = _
  rw [Lookup.outcome_bind, lift_outcome]
  simp only
  generalize Step.outcome _ library.state = ended
  obtain ⟨_ | data, left⟩ := ended
  · rfl
  · rfl

/-- Loading a file changes only what is remembered of it. -/
theorem loadFile_sameBut (query : Query) (base path locale : String) (library : Library Source) :
    library.state.SameBut ((query.loadFile base path locale).outcome library).2.state
      (library.state.placeOf (Path.join base path)) := by
  -- Storing its messages touches the store only.
  have same := load_sameBut library.state (Path.join base path) (rootOf query.settings locale)
    (! query.format.has .locale && (rootOf query.settings locale).isSome) query.settings
  rw [loadFile_outcome]
  simp only
  generalize Step.outcome _ library.state = ended at same ⊢
  obtain ⟨_ | data, left⟩ := ended
  · exact same
  · simp only [store_outcome]
    cases entries query.settings.namespaceDelimiter (query.spaceOf path) data.entries <;> exact same

end Query

section Search

variable {key locale : String} {settings : Settings}

/-- A search looks below every load path for the file that holds the messages of the namespace. -/
theorem search_eq {format : Filename.Format} (name : settings.filename = .ok format) :
    let query : Query := { format, settings }
    searcher.search key locale settings =
      ((settings.loadPath.mapM fun base => query.descend base locale "" (query.space key)) >>= fun found =>
        pure found.flatten) := by
  -- The namespace is the key without its last segment.
  change (query settings >>= fun query => (settings.loadPath.mapM fun base =>
    query.descend base locale "" (Key.segments key settings.namespaceDelimiter).dropLast) >>= fun found =>
      pure found.flatten) = _
  rw [query, name]
  rfl

/-- A search for files whose names cannot be made out fails. -/
theorem search_eq_throw {error : SettingsError} (unnamed : settings.filename = .error error) :
    searcher.search key locale settings = throw (.settings error) := by
  -- The template of names is compiled before anything else.
  change (query settings >>= fun query => (settings.loadPath.mapM fun base =>
    query.descend base locale "" (Key.segments key settings.namespaceDelimiter).dropLast) >>= fun found =>
      pure found.flatten) = _
  rw [query, unnamed]
  rfl

variable {asked : Option String}

/-- Loading all files goes through the directories below all load paths. -/
theorem loadEverything_eq {format : Filename.Format} (name : settings.filename = .ok format) :
    let query : Query := { format, settings }
    searcher.loadEverything asked settings =
      ((settings.loadPath.mapM fun base => query.loadDirectory base asked) >>= fun loaded => pure loaded.flatten) := by
  -- Each load path is gone through with the same query.
  change (query settings >>= fun query => (settings.loadPath.mapM fun base =>
    query.loadDirectory base asked) >>= fun loaded => pure loaded.flatten) = _
  rw [query, name]
  rfl

/-- Loading all files fails if their names cannot be made out. -/
theorem loadEverything_eq_throw {error : SettingsError} (unnamed : settings.filename = .error error) :
    searcher.loadEverything asked settings = throw (.settings error) := by
  -- The template of names is compiled before anything else.
  change (query settings >>= fun query => (settings.loadPath.mapM fun base =>
    query.loadDirectory base asked) >>= fun loaded => pure loaded.flatten) = _
  rw [query, unnamed]
  rfl

end Search

end Phrasebook.Resource
