import Phrasebook.Proofs.Resource.Gathered
import Phrasebook.Proofs.Resource.Honest

/-! What is reported of a search is what it stored, and nothing else has changed. Of several messages that are loaded
for one key and locale the last one stays, in the order in which the files are walked. -/

namespace Phrasebook

/-- A message of a locale with the key under which it is stored. -/
abbrev Loaded := LoadedKey × Value

/-- There is a last message for the keys of those that are loaded. -/
theorem lookup_reverse_eq_none_iff {found : List Loaded} {reported : LoadedKey} :
    found.reverse.lookup reported = none ↔ reported ∉ found.map Prod.fst := by
  -- The last message of a key is the first one from behind.
  rw [List.lookup_eq_none_iff]
  constructor
  · intro none member
    obtain ⟨message, inside, rfl⟩ := List.mem_map.1 member
    simpa using none message (List.mem_reverse.2 inside)
  · intro absent message member
    have apart : reported ≠ message.1 := fun same =>
      absent (same ▸ List.mem_map_of_mem (List.mem_reverse.1 member))
    simpa using apart

/-- A message under its key, as one of a locale. -/
def Loaded.label (locale : String) (message : String × Value) : Loaded :=
  (⟨locale, message.1⟩, message.2)

namespace Store

variable {store : Store} {locale key : String}

/-- Messages of whatever locales put into a store from the front. -/
def putEach (store : Store) (found : List Loaded) : Store :=
  found.foldl (fun store message => store.add message.1.key message.2 message.1.locale) store

/-- Storing two lists of loaded values is storing one after the other. -/
theorem putEach_append (store : Store) (found more : List Loaded) :
    store.putEach (found ++ more) = (store.putEach found).putEach more :=
  List.foldl_append

/-- Messages of one locale are put in as those that they are. -/
theorem putEach_label (store : Store) (found : List (String × Value)) (locale : String) :
    store.putEach (found.map (Loaded.label locale)) = store.putAll found locale := by
  rw [putEach, List.foldl_map]
  rfl

/-- The last one of the messages for a key and a locale is found. -/
theorem get?_putEach (store : Store) (found : List Loaded) (key locale : String) :
    (store.putEach found).get? key locale = (found.reverse.lookup ⟨locale, key⟩).or (store.get? key locale) := by
  -- The induction takes the messages from the front, so that the ones behind it hide it.
  induction found generalizing store with
  | nil => rfl
  | cons message rest ih =>
    obtain ⟨⟨name, under⟩, value⟩ := message
    have onward : store.putEach (⟨⟨name, under⟩, value⟩ :: rest) = (store.add under value name).putEach rest := rfl
    rw [onward, ih, List.reverse_cons, List.lookup_append, get?_add, Option.or_assoc]
    congr 1
    by_cases same : key = under ∧ locale = name
    · obtain ⟨rfl, rfl⟩ := same
      simp
    · have apart : (⟨locale, key⟩ : LoadedKey) ≠ ⟨name, under⟩ := fun equal => by
        injection equal with locales keys
        exact same ⟨keys, locales⟩
      rw [if_neg same]
      simp [List.lookup_cons, beq_false_of_ne apart]

end Store

namespace Resource

variable {library left : Library Source} {locale base path : String}

/-- The files below load paths, each with the load path, in the order in which they are walked. -/
def Source.walked (source : Source) (bases : List String) : List (String × String) :=
  bases.flatMap fun base => (source.listed base).map fun names => (base, "/".intercalate names)

/-- The sections of data that are objects, each with its locale. -/
def objects (sections : List (String × Json)) : List (String × Dict Json) :=
  sections.filterMap fun
    | (locale, .object members) => some (locale, Json.dictOf members)
    | _ => none

/-- What is done with a file when all files are loaded: it is passed over, or loaded for a locale, or it is divided by
locales. -/
inductive Role where
  | passedOver
  | ofLocale (locale : String)
  | divided

namespace Query

variable {query : Query} {asked : Option String}

/-- What is done with a file. Its name has to have the extension and to match the template, and it must not tell another
locale than the one that is asked for. -/
def role (query : Query) (asked : Option String) (path : String) : Role :=
  if Path.extension? path ≠ some query.settings.fileFormat then .passedOver
  else match (Path.fileName? path).bind query.format.captures? with
    | none => .passedOver
    | some captures =>
      match asked.or captures.locale with
      | none => .divided
      | some locale => if captures.locale.getD locale = locale then .ofLocale locale else .passedOver

/-- A file is loaded as its role says. -/
theorem loadMatching_eq (query : Query) (base : String) (asked : Option String) (path : String) :
    query.loadMatching base asked path =
      match query.role asked path with
      | .passedOver => pure []
      | .ofLocale locale => query.loadFile base path locale >>= fun keys => pure (keys.map (LoadedKey.mk locale))
      | .divided =>
        if query.settings.skipLocaleRoot then throw (.load (LoadError.unknownLocales (Path.join base path)).message)
        else query.loadSections base path := by
  -- The two sides ask the same, in the same order.
  unfold loadMatching role
  split
  · rfl
  cases (Path.fileName? path).bind query.format.captures? with
  | none => rfl
  | some captures =>
    dsimp only
    cases asked.or captures.locale with
    | none => rfl
    | some locale =>
      dsimp only
      split
      · rfl
      · rfl

/-- The data of a file for a locale. -/
def dataFor (query : Query) (base path locale : String) : Step (Dict Json) :=
  let root := rootOf query.settings locale
  load (Path.join base path) root (! query.format.has .locale && root.isSome) query.settings

/-- The data that a file below a load path gives, each piece with the locale whose messages it holds. -/
def pieces (query : Query) (asked : Option String) (base path : String) : Step (List (String × Dict Json)) :=
  match query.role asked path with
  | .passedOver => return []
  | .ofLocale locale => return [(locale, ← query.dataFor base path locale)]
  | .divided =>
    if query.settings.skipLocaleRoot then throw (.unknownLocales (Path.join base path))
    else return objects (← load (Path.join base path) none false query.settings).entries

/-- The messages that a piece of data holds. -/
def messages (query : Query) (path : String) (piece : String × Dict Json) : Except LoadError (List Loaded) :=
  (entries query.settings.namespaceDelimiter (query.spaceOf path) piece.2.entries).map
    (List.map (Loaded.label piece.1))

/-- The messages that a file holds. -/
def flattened (query : Query) (asked : Option String) (file : String × String) : Step (List Loaded) := do
  let pieces ← query.pieces asked file.1 file.2
  match pieces.mapM (query.messages file.2) with
  | .ok found => return found.flatten
  | .error error => throw error

/-- The messages of all files below load paths, in the order in which these are walked. -/
def walk (query : Query) (asked : Option String) (bases : List String) : Step (List Loaded) := do
  let source ← get
  return (← (source.walked bases).mapM (query.flattened asked)).flatten

/-- What loading some files that reports keys has done: the messages of the files were put in, one after the other. -/
def Gathers (query : Query) (asked : Option String) (files : List (String × String)) (library : Library Source)
    (loaded : List LoadedKey) (left : Library Source) : Prop :=
  ∃ found, (files.mapM (query.flattened asked)).outcome library.state = (.ok found, left.state) ∧
    loaded = found.flatten.map Prod.fst ∧ left.store = library.store.putEach found.flatten

namespace Gathers

/-- Without files nothing is gathered. -/
theorem nil : query.Gathers asked [] library [] library :=
  ⟨[], rfl, rfl, rfl⟩

/-- Some files are loaded after others. -/
theorem append {files more : List (String × String)} {loaded others : List LoadedKey} {last : Library Source}
    (first : query.Gathers asked files library loaded left) (later : query.Gathers asked more left others last) :
    query.Gathers asked (files ++ more) library (loaded ++ others) last := by
  -- The lists are put one behind the other, in what is found as in what is stored.
  obtain ⟨found, ends, rfl, stores⟩ := first
  obtain ⟨foundMore, endsMore, rfl, storesMore⟩ := later
  refine ⟨found ++ foundMore, ?_, by simp, ?_⟩
  · rw [List.mapM_append]
    simp only [Step.outcome_bind, ends, endsMore, Step.outcome_pure]
  · rw [storesMore, stores, List.flatten_append, Store.putEach_append]

/-- The messages of one file are put in. -/
theorem of_pieces {pieces : List (String × Dict Json)} {found : List (List Loaded)}
    (gives : (query.pieces asked base path).outcome library.state = (.ok pieces, left.state))
    (spells : pieces.mapM (query.messages path) = .ok found)
    (stores : left.store = library.store.putEach found.flatten) :
    query.Gathers asked [(base, path)] library (found.flatten.map Prod.fst) left := by
  -- The pieces of the file are spelled out one by one, and stored together.
  have flattened : (query.flattened asked (base, path)).outcome library.state = (.ok found.flatten, left.state) := by
    rw [Query.flattened, Step.outcome_bind, gives]
    simp only [spells]
    rfl
  refine ⟨[found.flatten], ?_, by simp, by simpa using stores⟩
  simp only [List.mapM_cons, List.mapM_nil, Step.outcome_bind, flattened, Step.outcome_pure]

end Gathers

/-- The sections that are stored are those that are objects. -/
theorem of_storeSections {sections : List (String × Json)} {loaded : List (List LoadedKey)}
    (ends : (sections.mapM (query.storeSection path)).outcome library = (.ok loaded, left)) :
    ∃ found, (objects sections).mapM (query.messages path) = .ok found ∧ left.state = library.state ∧
      loaded.flatten = found.flatten.map Prod.fst ∧ left.store = library.store.putEach found.flatten := by
  -- The sections are stored from the front; one that is no object holds nothing.
  induction sections generalizing library loaded with
  | nil =>
    obtain ⟨rfl, rfl⟩ := Lookup.of_pure_ok ends
    exact ⟨[], rfl, rfl, rfl, rfl⟩
  | cons entry rest ih =>
    obtain ⟨first, here, others, stored, onward, rfl⟩ := Lookup.of_mapM_cons_ok ends
    obtain ⟨messages, spells, rfl, rfl⟩ := of_storeSection_ok stored
    obtain ⟨found, spellsRest, state, reported, stores⟩ := ih onward
    obtain ⟨locale, value⟩ := entry
    cases value with
    | object members =>
      have piece : query.messages path (locale, Json.dictOf members) = .ok (messages.map (Loaded.label locale)) := by
        rw [sectionEntries] at spells
        rw [Query.messages, spells]
        rfl
      refine ⟨messages.map (Loaded.label locale) :: found, ?_, state, ?_, ?_⟩
      · have among : objects ((locale, .object members) :: rest) = (locale, Json.dictOf members) :: objects rest := rfl
        rw [among, List.mapM_cons, piece, spellsRest]
        rfl
      · rw [List.flatten_cons, reported, List.flatten_cons, List.map_append, List.map_map]
        rfl
      · rw [stores, List.flatten_cons, Store.putEach_append, Store.putEach_label]
    | null | bool _ | number _ | text _ | array _ =>
      obtain rfl := Except.ok.inj spells
      exact ⟨found, spellsRest, state, reported, stores⟩

/-- A file that is loaded or passed over. -/
theorem loadMatching_gathers {loaded : List LoadedKey}
    (ends : (query.loadMatching base asked path).outcome library = (.ok loaded, left)) :
    query.Gathers asked [(base, path)] library loaded left := by
  rw [loadMatching_eq] at ends
  cases role : query.role asked path with
  | passedOver =>
    rw [role] at ends
    obtain ⟨rfl, rfl⟩ := Lookup.of_pure_ok ends
    have gives : (query.pieces asked base path).outcome library.state = (.ok [], library.state) := by
      rw [pieces, role]
      rfl
    exact .of_pieces gives rfl rfl
  | ofLocale locale =>
    rw [role] at ends
    obtain ⟨keys, loads, rfl⟩ := Lookup.of_map_ok ends
    obtain ⟨data, source, found, taken, -, spells, rfl, rfl⟩ := of_loadFile_ok loads
    -- There is one piece of data, and its messages are put in for the locale.
    have gives : (query.pieces asked base path).outcome library.state = (.ok [(locale, data)], source) := by
      rw [pieces, role]
      simp only [dataFor, Step.outcome_bind, taken, Step.outcome_pure]
    have messages : [(locale, data)].mapM (query.messages path) = .ok [found.map (Loaded.label locale)] := by
      rw [List.mapM_cons, Query.messages, spells]
      rfl
    have gathers : query.Gathers asked [(base, path)] library _ ⟨library.store.putAll found locale, source⟩ :=
      .of_pieces gives messages (by simp [Store.putEach_label])
    simpa [Loaded.label, Function.comp_def] using gathers
  | divided =>
    rw [role] at ends
    dsimp only at ends
    split at ends
    · -- Nobody knows the locale of the file, and the loading fails.
      cases ends
    next divided =>
    obtain ⟨data, source, sections, taken, -, stored, rfl⟩ := of_loadSections_ok ends
    obtain ⟨found, spells, state, reported, stores⟩ := of_storeSections stored
    have gives : (query.pieces asked base path).outcome library.state = (.ok (objects data.entries), left.state) := by
      rw [pieces, role]
      simp only [if_neg divided, Step.outcome_bind, taken, Step.outcome_pure, state]
    rw [reported]
    exact .of_pieces gives spells stores

/-- Files that are loaded or passed over one after the other. -/
theorem loadMatchings_gather {paths : List String} {loaded : List (List LoadedKey)}
    (ends : (paths.mapM (query.loadMatching base asked)).outcome library = (.ok loaded, left)) :
    query.Gathers asked (paths.map (Prod.mk base)) library loaded.flatten left := by
  -- File by file.
  induction paths generalizing library loaded with
  | nil =>
    obtain ⟨rfl, rfl⟩ := Lookup.of_pure_ok ends
    exact .nil
  | cons path rest ih =>
    obtain ⟨first, here, others, loads, onward, rfl⟩ := Lookup.of_mapM_cons_ok ends
    exact (loadMatching_gathers loads).append (ih onward)

/-- The files of a directory that are loaded. -/
theorem loadDirectory_gathers {loaded : List LoadedKey}
    (ends : (query.loadDirectory base asked).outcome library = (.ok loaded, left)) :
    query.Gathers asked ((library.state.listed base).map fun names => (base, "/".intercalate names)) library loaded
      left := by
  -- The files are those that are listed below the base.
  rw [loadDirectory_outcome] at ends
  obtain ⟨found, loads, rfl⟩ := Lookup.of_map_ok ends
  have gathers := loadMatchings_gather loads
  rwa [List.map_map] at gathers

/-- The directories of load paths that are loaded one after the other. -/
theorem loadDirectories_gather {source : Source} (isOver : library.state.Over source.files source.formats)
    {bases : List String} {loaded : List (List LoadedKey)}
    (ends : (bases.mapM fun base => query.loadDirectory base asked).outcome library = (.ok loaded, left)) :
    query.Gathers asked (source.walked bases) library loaded.flatten left := by
  induction bases generalizing library loaded with
  | nil =>
    obtain ⟨rfl, rfl⟩ := Lookup.of_pure_ok ends
    exact .nil
  | cons base rest ih =>
    obtain ⟨first, here, others, loads, onward, rfl⟩ := Lookup.of_mapM_cons_ok ends
    -- What was loaded before has not changed which files there are.
    have gathers := loadDirectory_gathers loads
    have listed : library.state.listed base = source.listed base := by
      rw [Source.listed, isOver.files, Source.listed]
    rw [listed] at gathers
    exact gathers.append (ih ((query.loadDirectory_over isOver base asked).ok loads) onward)

end Query

/-- Loading all files puts in the messages of the files that are walked, whose keys it reports. -/
theorem loadEverything_gathers {asked : Option String} {settings : Settings} {loaded : List LoadedKey}
    (ends : (searcher.loadEverything asked settings).outcome library = (.ok loaded, left)) :
    ∃ format found, settings.filename = .ok format ∧
      (Query.walk { format, settings } asked settings.loadPath).outcome library.state = (.ok found, left.state) ∧
      loaded = found.map Prod.fst ∧ left.store = library.store.putEach found := by
  -- A template of names that cannot be compiled ends it; otherwise every load path is walked.
  cases name : settings.filename with
  | error error =>
    rw [loadEverything_eq_throw name] at ends
    cases ends
  | ok format =>
    rw [loadEverything_eq name] at ends
    obtain ⟨lists, loads, rfl⟩ := Lookup.of_map_ok ends
    obtain ⟨found, walks, reported, stores⟩ := Query.loadDirectories_gather ⟨rfl, rfl⟩ loads
    refine ⟨format, found.flatten, rfl, ?_, reported, stores⟩
    rw [Query.walk, Step.outcome_bind, Step.outcome_get]
    simp only [Step.outcome_bind, walks, Step.outcome_pure]

/-- What a search stores is what it reports. A search that answers changes the messages of the reported keys only, and
all of these are stored; one that fails has put in messages of its locale only, and removed none. Loading all files
changes the messages of the reported keys and locales only, and for each of them the last one is stored of those that
the files hold in the order in which they are walked. -/
theorem searcher_reports (key locale : String) (asked : Option String) (settings : Settings)
    (library : Library Source) :
    (searcher.search key locale settings).Meets library
      (fun keys left => (∀ name other, ¬ (other = locale ∧ name ∈ keys) →
          left.store.get? name other = library.store.get? name other) ∧
        ∀ name ∈ keys, left.store.has name locale = true)
      (fun _ left => library.store.SameElsewhere locale left.store ∧ library.store.Keeps locale left.store) ∧
    (searcher.loadEverything asked settings).Meets library
      (fun loaded left => ∃ format found, settings.filename = .ok format ∧
        (Query.walk { format, settings } asked settings.loadPath).outcome library.state = (.ok found, left.state) ∧
        loaded = found.map Prod.fst ∧
        (∀ name other, ⟨other, name⟩ ∉ loaded → left.store.get? name other = library.store.get? name other) ∧
        ∀ reported ∈ loaded, ∃ value, found.reverse.lookup reported = some value ∧
          left.store.get? reported.key reported.locale = some value)
      (fun _ _ => True) := by
  constructor
  · refine (search_stored key locale settings library).mono (fun keys left ends => ?_) fun _ left ends => ?_
    · refine ⟨fun name other apart => ?_, ends.has⟩
      by_cases here : other = locale
      · subst here
        exact ends.unreported fun member => apart ⟨rfl, member⟩
      · exact ends.torn.sameElsewhere name other here
    · exact ⟨ends.sameElsewhere, ends.keeps⟩
  · unfold Lookup.Meets
    split
    -- A key that is not reported has no message among those put in, and a reported one has a last message.
    · next loaded left ends =>
      obtain ⟨format, found, name, walks, rfl, stores⟩ := loadEverything_gathers ends
      refine ⟨format, found, name, walks, rfl, fun name other unreported => ?_, fun reported member => ?_⟩
      · rw [stores, Store.get?_putEach, lookup_reverse_eq_none_iff.2 unreported, Option.none_or]
      · cases last : found.reverse.lookup reported with
        | none => exact absurd member (lookup_reverse_eq_none_iff.1 last)
        | some value => exact ⟨value, rfl, by rw [stores, Store.get?_putEach, last, Option.some_or]⟩
    · trivial

/-- Two load paths have a message for the same key: it is reported twice, and the one below the second path stays. -/
example :
    let file (text : String) : FileTree := .directory (.ofList [("foo.en.yml", .file ("en:\n  a: " ++ text).toUTF8)])
    let source : Source :=
      { files := .directory (.ofList [("base", file "A"), ("over", file "B")]), formats := .standard }
    let all := (searcher.loadEverything none { loadPath := ["/base", "/over"] }).outcome ⟨.empty, source⟩
    all.1 = .ok [⟨"en", "foo.a"⟩, ⟨"en", "foo.a"⟩] ∧ all.2.store.get? "foo.a" "en" = some (.scalar "B") := by
  decide +kernel

end Resource

end Phrasebook
