import Phrasebook.Proofs.Resource.Visits

/-! Searching without a memo: files are read anew every time, so that the same is found whenever it is asked for. -/

namespace Phrasebook

namespace Store

/-- Messages put in one after the other may be put in in two parts. -/
theorem putAll_append (store : Store) (entries more : List (String × Value)) (locale : String) :
    store.putAll (entries ++ more) locale = (store.putAll entries locale).putAll more locale :=
  List.foldl_append

end Store

/-- What several searches find one after the other, up to the first one that fails. -/
def Finding.all : List Finding → Finding
  | [] => { entries := [] }
  | first :: rest =>
    match first.error with
    | some _ => first
    | none => { all rest with entries := first.entries ++ (all rest).entries }

/-- The keys of the first search stand in front of those of the others. -/
theorem Finding.all_answer (entries : List (String × Value)) (rest : List Finding) :
    (Finding.all ({ entries } :: rest)).answer = (Finding.all rest).answer.map (entries.map Prod.fst ++ ·) := by
  simp only [Finding.all, Finding.answer, Finding.keys, List.map_append]
  cases (Finding.all rest).error <;> rfl

namespace Resource

variable {source : Source} {settings : Settings}

/-- Loading without a memo gives what a file has of which nothing is remembered, and nothing is remembered then. -/
theorem load_memoless (off : settings.memoize = false) (unknown : source.remembered.get? (source.placeOf path) = none)
    (root : Option String) (keepRest : Bool) :
    Step.outcome (load path root keepRest settings) source = (source.given path root settings, source) := by
  -- The file is read, and what is not taken of it is not kept.
  rw [load_of_unknown unknown, Source.given]
  cases source.read path settings.encoding with
  | error error => rfl
  | ok data =>
    simp only [Except.bind, Source.after, off]
    cases taken (source.placeOf path) root data <;> rfl

/-- Loading without a memo gives what the file has if nothing is remembered at all. -/
theorem load_plain (off : settings.memoize = false) (unknown : source.remembered = .empty) (path : String)
    (root : Option String) (keepRest : Bool) :
    Step.outcome (load path root keepRest settings) source = (source.given path root settings, source) :=
  load_memoless off (by rw [unknown, Dict.get?_empty]) root keepRest

namespace Query

/-- What is found in a file. -/
def foundIn (query : Query) (source : Source) (locale base file : String) : Finding :=
  let found := (source.given (Path.join base file) (rootOf query.settings locale) query.settings).bind fun data =>
    entries query.settings.namespaceDelimiter (query.spaceOf file) data.entries
  match found with
  | .error error => { entries := [], error := some (.load error.message) }
  | .ok entries => { entries }

/-- What is found in the files below load paths that hold the messages of a namespace. -/
def finds (query : Query) (source : Source) (locale : String) (segments bases : List String) : Finding :=
  .all (bases.filterMap fun base =>
    (query.target? source.files base locale "" segments).map (query.foundIn source locale base))

variable {query : Query} {store : Store} {locale base : String}

/-- What is found in a file is stored and reported. -/
theorem loadFile_plain (off : query.settings.memoize = false) (unknown : source.remembered = .empty) (file : String) :
    (query.loadFile base file locale).outcome ⟨store, source⟩ =
      let found := query.foundIn source locale base file
      (found.answer, ⟨store.putAll found.entries locale, source⟩) := by
  -- Reading may fail, and then taking the messages out of the data; otherwise they are stored.
  rw [loadFile_outcome]
  simp only [load_plain off unknown, foundIn]
  cases source.given (Path.join base file) (rootOf query.settings locale) query.settings with
  | error error => rfl
  | ok data =>
    simp only [store_outcome, Except.bind]
    cases entries query.settings.namespaceDelimiter (query.spaceOf file) data.entries <;> rfl

/-- What is found below load paths is stored and reported, one file after the other. -/
theorem descends_plain (off : query.settings.memoize = false) (unknown : source.remembered = .empty) (store : Store)
    (locale : String) (segments bases : List String) :
    let found := query.finds source locale segments bases
    ∃ loaded, (bases.mapM fun base => query.descend base locale "" segments).outcome ⟨store, source⟩ =
        (loaded, ⟨store.putAll found.entries locale, source⟩) ∧ loaded.map List.flatten = found.answer := by
  -- The store grows along the load paths, while the source stays as it is.
  induction bases generalizing store with
  | nil => exact ⟨.ok [], rfl, rfl⟩
  | cons base rest ih =>
    simp only [finds, List.filterMap_cons] at ih ⊢
    rw [List.mapM_cons, Lookup.outcome_bind, descend_outcome]
    cases query.target? source.files base locale "" segments with
    | none =>
      -- There is no file below this load path, and nothing is reported for it.
      obtain ⟨loaded, ends, answers⟩ := ih store
      refine ⟨loaded.map ([] :: ·), ?_, ?_⟩
      · simp only [Option.map_none, Lookup.outcome_bind, ends]
        cases loaded <;> rfl
      · simp only [Option.map_none, ← answers]
        cases loaded <;> rfl
    | some file =>
      simp only [Option.map_some, loadFile_plain off unknown]
      generalize query.foundIn source locale base file = first
      obtain ⟨found, error⟩ := first
      cases error with
      | some error => exact ⟨.error error, rfl, rfl⟩
      | none =>
        -- The messages of the file stand in the store when the others are put in.
        obtain ⟨loaded, ends, answers⟩ := ih (store.putAll found locale)
        refine ⟨loaded.map (found.map Prod.fst :: ·), ?_, ?_⟩
        · simp only [Finding.answer, Finding.keys, Finding.all, Lookup.outcome_bind, ends, Store.putAll_append]
          cases loaded <;> rfl
        · rw [Finding.all_answer, ← answers]
          cases loaded <;> rfl

end Query

/-- What a search for a key finds in the files of a source. -/
def finds (source : Source) (settings : Settings) (key locale : String) : Finding :=
  match settings.filename with
  | .error error => { entries := [], error := some (.settings error) }
  | .ok format =>
    let query : Query := { format, settings }
    query.finds source locale (query.space key) settings.loadPath

/-- What a search finds depends on the files and their formats only. -/
theorem finds_congr {other : Source} (files : other.files = source.files) (formats : other.formats = source.formats) :
    finds other settings = finds source settings := by
  -- Neither the way to a file nor its data depend on anything else.
  have each (query : Query) (locale : String) : query.foundIn other locale = query.foundIn source locale := by
    funext base file
    rw [Query.foundIn, Source.given_congr files formats, Query.foundIn]
  funext key locale
  rw [finds, finds]
  cases settings.filename with
  | error error => rfl
  | ok format =>
    simp only [Query.finds, files, each]

/-- A search of files that are not remembered is steady. -/
theorem searcher_steady (off : settings.memoize = false) (unknown : source.remembered = .empty) :
    searcher.Steady settings (fun state => state = source) (finds source settings) := by
  intro key locale library same
  obtain ⟨store, state⟩ := library
  obtain rfl : state = source := same
  refine ⟨state, rfl, ?_⟩
  cases name : settings.filename with
  | error error =>
    rw [search_eq_throw name, finds, name]
    rfl
  | ok format =>
    have off : (Query.mk format settings).settings.memoize = false := off
    -- The lists of keys that the files report are put together in the end.
    obtain ⟨loaded, ends, answers⟩ := Query.descends_plain off unknown store locale
      (Query.space { format, settings } key) settings.loadPath
    rw [search_eq name, finds, name, Lookup.outcome_bind, ends, ← answers]
    cases loaded <;> rfl

end Resource

end Phrasebook
