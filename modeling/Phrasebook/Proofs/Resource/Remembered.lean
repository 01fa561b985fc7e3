import Phrasebook.Proofs.Catalogue.Lockstep
import Phrasebook.Proofs.Resource.Plain

/-! Searching with files remembered and without: as long as nothing is asked for twice, both find the same. -/

namespace Phrasebook.Resource

namespace Source

variable {source other : Source} {settings : Settings} {place path : String} {root : Option String}
  {data less : Dict Json}

/-- Data that a file at a place has, perhaps not all of it. -/
def DataOf (source : Source) (settings : Settings) (place : String) (data : Dict Json) : Prop :=
  ∃ path whole, source.placeOf path = place ∧ source.read path settings.encoding = .ok whole ∧
    ∀ locale found, data.get? locale = some found → whole.get? locale = some found

/-- What is remembered of files is data that they have. -/
def Tracks (source : Source) (settings : Settings) : Prop :=
  ∀ place data, source.remembered.get? place = some (some data) → source.DataOf settings place data

/-- Whether what is asked for has not been taken from a file yet: nothing is known of the file, or it is among what is
remembered, or the file never had it. -/
def fresh (source : Source) (path : String) (root : Option String) (settings : Settings) : Bool :=
  match source.remembered.get? (source.placeOf path), root with
  | none, _ => true
  | some (some data), some locale =>
    ! data.isEmpty && (data.contains locale ||
      (source.read path settings.encoding).toOption.any fun whole => ! whole.contains locale)
  | _, _ => false

/-- Data of a place stay such when sections are taken from them. -/
theorem DataOf.mono (dataOf : source.DataOf settings place data)
    (fewer : ∀ locale found, less.get? locale = some found → data.get? locale = some found) :
    source.DataOf settings place less := by
  obtain ⟨path, whole, here, reads, among⟩ := dataOf
  exact ⟨path, whole, here, reads, fun locale found held => among locale found (fewer locale found held)⟩

/-- Whether a file has data depends on the files and their formats only. -/
theorem DataOf.congr (dataOf : source.DataOf settings place data) (files : other.files = source.files)
    (formats : other.formats = source.formats) : other.DataOf settings place data := by
  -- The same files have the same places and give the same data.
  obtain ⟨path, whole, here, reads, among⟩ := dataOf
  have stillHere : other.placeOf path = place := by rw [← here, placeOf, files, placeOf]
  exact ⟨path, whole, stillHere, (read_congr files formats path _).trans reads, among⟩

/-- What is left of data is among it. -/
theorem get?_of_leftover {locale : String} {found : Json} (held : (leftover root data).get? locale = some found) :
    data.get? locale = some found := by
  -- Nothing is left, or all but the section that was asked for.
  cases root with
  | none => simp [leftover] at held
  | some asked =>
    rw [leftover, Dict.get?_erase] at held
    split at held
    · cases held
    · exact held

/-- Only what is remembered of the file at the place may be different. -/
theorem Tracks.of_sameBut (tracks : source.Tracks settings) (same : source.SameBut other place)
    (here : ∀ data, other.remembered.get? place = some (some data) → source.DataOf settings place data) :
    other.Tracks settings := by
  intro elsewhere data held
  have dataOf : source.DataOf settings elsewhere data := by
    -- What is remembered of other files is as it was.
    by_cases apart : elsewhere = place
    · subst apart
      exact here data held
    · exact tracks elsewhere data ((same.elsewhere elsewhere apart).symm.trans held)
  exact dataOf.congr same.files same.formats

/-- What is taken of the section of a locale depends on that section only. -/
theorem taken_congr {locale : String} {whole : Dict Json} (same : data.get? locale = whole.get? locale) :
    taken place (some locale) data = taken place (some locale) whole := by
  -- Whether it is there and what it holds is all that is asked.
  have contains : data.contains locale = whole.contains locale := by rw [Dict.contains, same, Dict.contains]
  have sections : sectionAt place locale data = sectionAt place locale whole := by rw [sectionAt, same, sectionAt]
  rw [taken, contains, sections, taken]

/-- What is remembered of a file after something was taken is data of it. -/
theorem dataOf_after {keepRest : Bool} (dataOf : source.DataOf settings place data)
    (before : ∀ held, other.remembered.get? place = some (some held) → source.DataOf settings place held)
    {held : Dict Json}
    (known : (other.after place root keepRest settings data).remembered.get? place = some (some held)) :
    source.DataOf settings place held := by
  -- What is remembered is left over from the data, or was remembered before.
  unfold Source.after at known
  split at known
  · rw [remember, Dict.get?_insert, if_pos rfl] at known
    split at known
    · obtain rfl := Option.some.inj (Option.some.inj known)
      exact dataOf.mono fun _ _ => get?_of_leftover
    · cases known
  · exact before held known

/-- A file of which nothing is known is read, and what is left of it is remembered. -/
theorem load_of_fresh_unknown (keepRest : Bool) (tracks : source.Tracks settings)
    (known : source.remembered.get? (source.placeOf path) = none) :
    let ended := Step.outcome (load path root keepRest settings) source
    ended.1 = source.given path root settings ∧ ended.2.Tracks settings := by
  -- The file is read; an error changes nothing of what is remembered.
  have same := load_sameBut source path root keepRest settings
  have before (held : Dict Json) (holds : source.remembered.get? (source.placeOf path) = some (some held)) :
      source.DataOf settings (source.placeOf path) held := tracks _ held holds
  unfold Source.given
  rw [load_of_unknown known] at same ⊢
  cases reads : source.read path settings.encoding with
  | error error => exact ⟨rfl, tracks⟩
  | ok data =>
    simp only [reads] at same ⊢
    cases takes : taken (source.placeOf path) root data with
    | error error => exact ⟨takes.symm, tracks⟩
    | ok found =>
      simp only [takes] at same ⊢
      refine ⟨takes.symm, tracks.of_sameBut same fun held holds => ?_⟩
      exact dataOf_after ⟨path, data, rfl, reads, fun _ _ => id⟩ before holds

/-- A fresh section is remembered as it stands in the file, or stands in neither. -/
theorem section_of_fresh {locale : String} (tracks : source.Tracks settings)
    (file : source.files.isFile path = true)
    (known : source.remembered.get? (source.placeOf path) = some (some data))
    (fresh : source.fresh path (some locale) settings = true) :
    data.isEmpty = false ∧
      ∃ whole, source.read path settings.encoding = .ok whole ∧ data.get? locale = whole.get? locale := by
  obtain ⟨other, whole, place, readsOther, among⟩ := tracks _ _ known
  -- The data may have been read under another name of the file.
  have reads : source.read path settings.encoding = .ok whole := read_of_placeOf file place readsOther
  unfold Source.fresh at fresh
  simp only [known, reads, Bool.and_eq_true, Bool.not_eq_true', Bool.or_eq_true] at fresh
  obtain ⟨more, has⟩ := fresh
  refine ⟨more, whole, reads, ?_⟩
  cases found : data.get? locale with
  | some value => exact (among locale value found).symm
  | none =>
    have absent : whole.contains locale = false := by simpa [Dict.contains, found, Except.toOption] using has
    exact (Option.isSome_eq_false_iff.1 absent |> Option.isNone_iff_eq_none.1).symm

/-- A file of which something is remembered gives what it has under a fresh name. -/
theorem load_of_fresh_held {locale : String} (keepRest : Bool) (tracks : source.Tracks settings)
    (file : source.files.isFile path = true)
    (known : source.remembered.get? (source.placeOf path) = some (some data))
    (fresh : source.fresh path (some locale) settings = true) :
    let ended := Step.outcome (load path (some locale) keepRest settings) source
    ended.1 = source.given path (some locale) settings ∧ ended.2.Tracks settings := by
  obtain ⟨more, whole, reads, sections⟩ := section_of_fresh tracks file known fresh
  have same := load_sameBut source path (some locale) keepRest settings
  -- While the section is taken out, the file stands in the table with nothing in it.
  have nothing (held : Dict Json) (holds : (source.remember (source.placeOf path) (some .empty)).remembered.get?
      (source.placeOf path) = some (some held)) : source.DataOf settings (source.placeOf path) held := by
    rw [remember, Dict.get?_insert, if_pos rfl] at holds
    obtain rfl := Option.some.inj (Option.some.inj holds)
    exact (tracks _ _ known).mono fun _ _ found => by simp at found
  unfold Source.given
  rw [load_of_held known more] at same ⊢
  simp only [reads, Except.bind, ← taken_congr sections] at same ⊢
  cases takes : taken (source.placeOf path) (some locale) data with
  | ok found =>
    simp only [takes] at same ⊢
    exact ⟨trivial, tracks.of_sameBut same fun held => dataOf_after (tracks _ _ known) nothing⟩
  | error error =>
    -- The section is missing or is none, and the data stays, or is lost with it.
    simp only [takes] at same ⊢
    refine ⟨trivial, tracks.of_sameBut same fun held holds => ?_⟩
    split at holds
    · exact nothing held holds
    · rw [remember, Dict.get?_insert, if_pos rfl] at holds
      obtain rfl := Option.some.inj (Option.some.inj holds)
      exact tracks _ _ known

/-- Loading what has not been taken yet gives what the file has, and what is remembered still is data of files. -/
theorem load_of_fresh (keepRest : Bool) (tracks : source.Tracks settings) (file : source.files.isFile path = true)
    (fresh : source.fresh path root settings = true) :
    let ended := Step.outcome (load path root keepRest settings) source
    ended.1 = source.given path root settings ∧ ended.2.Tracks settings := by
  -- A file that is used up, or of which only a part is left for the whole to be asked for, is not fresh.
  match known : source.remembered.get? (source.placeOf path), root with
  | none, root => exact load_of_fresh_unknown keepRest tracks known
  | some (some data), some locale => exact load_of_fresh_held keepRest tracks file known fresh
  | some none, root => simp [Source.fresh, known] at fresh
  | some (some data), none => simp [Source.fresh, known] at fresh

/-- What is not asked of another file is as fresh as before. -/
theorem fresh_congr (same : source.SameBut other place) (apart : source.placeOf path ≠ place) :
    other.fresh path root settings = source.fresh path root settings := by
  -- Neither the file nor what is remembered of it is touched.
  have places : other.placeOf path = source.placeOf path := by rw [placeOf, same.files, placeOf]
  have reads := read_congr same.files same.formats path settings.encoding
  unfold Source.fresh
  rw [places, same.elsewhere _ apart, reads]

end Source

/-- A searcher that remembers files is compared with one that does not: what it remembers is data of the files, and the
other one knows nothing. -/
def forgetful (settings : Settings) : Comparison Source Source where
  fails _ := False
  spoilt _ := False
  link source other := source.Tracks settings ∧ other = { source with remembered := .empty }

/-- The settings without a memo. -/
def plain (settings : Settings) : Settings :=
  { settings with memoize := false }

namespace Query

variable {format : Filename.Format} {settings : Settings} {base locale path : String} {library other : Library Source}

/-- Messages are stored alike. -/
theorem store_alike (data : Dict Json) (space : String) :
    (forgetful settings).Alike ((Query.mk format settings).store data space locale)
      ((Query.mk format (plain settings)).store data space locale) := by
  -- Storing does not ask for the memo, so that both sides are the same program.
  change (forgetful settings).Alike _ ((Query.mk format settings).store data space locale)
  unfold Query.store
  cases entries settings.namespaceDelimiter space data.entries with
  | error error => exact .throw _
  | ok found => exact .bind (.forM (fun entry => .add entry.1 entry.2 locale) found) fun _ => .pure _

/-- What has not been taken of a file is loaded as if nothing were remembered. -/
theorem load_follows (linked : (forgetful settings).Linked library other) {root : Option String} (keepRest : Bool)
    (file : library.state.files.isFile path = true) (fresh : library.state.fresh path root settings = true) :
    (forgetful settings).Follows (lift (load path root keepRest settings)) library
      (lift (load path root keepRest (plain settings))) other := by
  obtain ⟨stores, tracks, states⟩ := linked
  obtain ⟨gives, stillTracks⟩ := Source.load_of_fresh keepRest tracks file fresh
  have same := load_sameBut library.state path root keepRest settings
  have unknown : other.state.remembered = .empty := by rw [states]
  -- Both libraries have the same files, so that a load without a memo gives the same in both.
  have given : other.state.given path root (plain settings) = library.state.given path root settings :=
    Source.given_congr (by rw [states]) (by rw [states]) path root settings
  right
  rw [lift_outcome, lift_outcome, load_plain rfl unknown]
  refine ⟨?_, stores, stillTracks, ?_⟩
  · simp only [gives, given]
  · simp only [states, same.files, same.formats]

/-- A file of which nothing has been taken is loaded as if nothing were remembered. -/
theorem loadFile_follows (linked : (forgetful settings).Linked library other)
    (file : library.state.files.isFile (Path.join base path) = true)
    (fresh : library.state.fresh (Path.join base path) (rootOf settings locale) settings = true) :
    (forgetful settings).Follows ((Query.mk format settings).loadFile base path locale) library
      ((Query.mk format (plain settings)).loadFile base path locale) other :=
  (load_follows linked _ file fresh).bind (fun _ _ => False.elim) fun data left after _ _ linked =>
    (store_alike data _).follows left after linked

/-- Whether a search below load paths asks only for what has not been taken yet, and for nothing twice. -/
def fresh (query : Query) (source : Source) (locale : String) (segments bases : List String) : Bool :=
  let paths := query.visits source.files locale segments bases
  decide (paths.map source.placeOf).Nodup &&
    paths.all fun path => source.fresh path (rootOf query.settings locale) query.settings

/-- A search is fresh if the files that it visits have different places, and each is fresh. -/
theorem fresh_iff {query : Query} {source : Source} {segments bases : List String} :
    query.fresh source locale segments bases = true ↔
      ((query.visits source.files locale segments bases).map source.placeOf).Nodup ∧
        ∀ path ∈ query.visits source.files locale segments bases,
          source.fresh path (rootOf query.settings locale) query.settings = true := by
  rw [Query.fresh, Bool.and_eq_true, decide_eq_true_eq, List.all_eq_true]

/-- The memo does not tell which files a search visits. -/
theorem target?_plain (files : FileTree) (segments : List String) :
    (Query.mk format (plain settings)).target? files base locale path segments =
      (Query.mk format settings).target? files base locale path segments := by
  -- Segment by segment, as the files are looked for.
  induction segments generalizing path with
  | nil => rfl
  | cons segment rest ih =>
    rw [target?, target?, ih]
    rfl

/-- A file that a search visits is loaded as if nothing were remembered. -/
theorem descend_follows (linked : (forgetful settings).Linked library other) (segments : List String)
    (fresh : ∀ file, (Query.mk format settings).target? library.state.files base locale path segments = some file →
      library.state.fresh (Path.join base file) (rootOf settings locale) settings = true) :
    (forgetful settings).Follows ((Query.mk format settings).descend base locale path segments) library
      ((Query.mk format (plain settings)).descend base locale path segments) other := by
  -- Both go down to the same file, which is fresh.
  have files : other.state.files = library.state.files := by rw [linked.2.2]
  unfold Comparison.Follows
  rw [descend_outcome, descend_outcome, target?_plain, files]
  cases target : (Query.mk format settings).target? library.state.files base locale path segments with
  | none => exact .inr ⟨rfl, linked⟩
  | some file => exact loadFile_follows linked (isFile_of_target? target) (fresh file target)

/-- What has not been taken of the files below some load paths has not been taken either when the file below another one
has been loaded. -/
theorem fresh_of_cons {query : Query} {segments rest : List String} {found : List String} {left : Library Source}
    (fresh : query.fresh library.state locale segments (base :: rest) = true)
    (ends : (query.descend base locale "" segments).outcome library = (.ok found, left)) :
    query.fresh left.state locale segments rest = true := by
  rw [fresh_iff] at fresh ⊢
  rw [visits_cons] at fresh
  rw [descend_outcome] at ends
  cases target : query.target? library.state.files base locale "" segments with
  | none =>
    simp only [target] at ends fresh
    obtain ⟨-, rfl⟩ := Prod.mk.inj ends
    exact fresh
  | some file =>
    -- All files that are visited later lie at other places, of which the same is known as before.
    simp only [target] at ends fresh
    have same := loadFile_sameBut query base file locale library
    rw [ends] at same
    have places : left.state.placeOf = library.state.placeOf := by
      funext path
      rw [Source.placeOf, same.files, Source.placeOf]
    obtain ⟨distinct, each⟩ := fresh
    obtain ⟨apart, distinct⟩ := List.nodup_cons.1 distinct
    rw [places, same.files]
    refine ⟨distinct, fun path member => ?_⟩
    have elsewhere : library.state.placeOf path ≠ library.state.placeOf (Path.join base file) :=
      fun equal => apart (equal ▸ List.mem_map_of_mem member)
    rw [Source.fresh_congr same elsewhere]
    exact each path (List.mem_cons_of_mem _ member)

/-- A search that asks only for what has not been taken goes as if nothing were remembered. -/
theorem descends_follow (linked : (forgetful settings).Linked library other) {segments bases : List String}
    (fresh : (Query.mk format settings).fresh library.state locale segments bases = true) :
    (forgetful settings).Follows
      (bases.mapM fun base => (Query.mk format settings).descend base locale "" segments) library
      (bases.mapM fun base => (Query.mk format (plain settings)).descend base locale "" segments) other := by
  -- The libraries change along the load paths.
  induction bases generalizing library other with
  | nil => exact (Comparison.Alike.pure []).follows library other linked
  | cons base rest ih =>
    have first (file : String)
        (target : (Query.mk format settings).target? library.state.files base locale "" segments = some file) :
        library.state.fresh (Path.join base file) (rootOf settings locale) settings = true := by
      have each := (fresh_iff.1 fresh).2
      simp only [visits_cons, target] at each
      exact each _ List.mem_cons_self
    rw [List.mapM_cons, List.mapM_cons]
    refine (descend_follows linked segments first).bind (fun _ _ => False.elim) fun found left after ends _ linked => ?_
    exact (ih linked (fresh_of_cons fresh ends)).bind (fun _ _ => False.elim) fun others last _ _ _ linked =>
      (Comparison.Alike.pure (found :: others)).follows last _ linked

/-- A search that visits only files that are used up finds nothing and leaves everything as it is. -/
theorem descends_of_usedUp {query : Query} {segments bases : List String}
    (used : ∀ path ∈ query.visits library.state.files locale segments bases, library.state.usedUp path = true) :
    ∃ loaded : List (List String), (bases.mapM fun base => query.descend base locale "" segments).outcome library =
      (.ok loaded, library) ∧ loaded.flatten = [] := by
  induction bases with
  | nil => exact ⟨[], rfl, rfl⟩
  | cons base rest ih =>
    -- Below the first load path no file is visited, or one that has nothing left.
    have first : (query.descend base locale "" segments).outcome library = (.ok [], library) := by
      rw [descend_outcome]
      rw [visits_cons] at used
      cases target : query.target? library.state.files base locale "" segments with
      | none => rfl
      | some file =>
        rw [target] at used
        simp only [loadFile_outcome, load_of_usedUp (used _ List.mem_cons_self), store_outcome]
        rfl
    obtain ⟨loaded, ends, nothing⟩ := ih fun path member => used path (by
      rw [visits_cons]
      split
      · exact member
      · exact List.mem_cons_of_mem _ member)
    refine ⟨[] :: loaded, ?_, nothing⟩
    rw [List.mapM_cons, Lookup.outcome_bind, first]
    simp only [Lookup.outcome_bind, ends]
    rfl

end Query

/-- Whether all files that a search for a key visits are used up. -/
def usedUpFor (source : Source) (key locale : String) (settings : Settings) : Bool :=
  match settings.filename with
  | .error _ => false
  | .ok format =>
    let query : Query := { format, settings }
    (query.visits source.files locale (query.space key) settings.loadPath).all source.usedUp

/-- A search that visits only files that are used up finds nothing and leaves everything as it is. -/
theorem search_of_usedUp {key locale : String} {settings : Settings} {library : Library Source}
    (used : usedUpFor library.state key locale settings = true) :
    (searcher.search key locale settings).outcome library = (.ok [], library) := by
  -- A template of names that cannot be compiled would not count as used up.
  unfold usedUpFor at used
  cases name : settings.filename with
  | error error => simp [name] at used
  | ok format =>
    simp only [name, List.all_eq_true] at used
    obtain ⟨loaded, ends, nothing⟩ := Query.descends_of_usedUp used
    rw [search_eq name, Lookup.outcome_bind, ends]
    simp only [Lookup.outcome_pure, nothing]

/-- Whether a search for a key asks only for what has not been taken yet, and for nothing twice. -/
def freshFor (source : Source) (key locale : String) (settings : Settings) : Bool :=
  match settings.filename with
  | .error _ => true
  | .ok format =>
    let query : Query := { format, settings }
    query.fresh source locale (query.space key) settings.loadPath

/-- A search that asks only for what has not been taken goes as if nothing were remembered. -/
theorem search_follows {key locale : String} {settings : Settings} {library other : Library Source}
    (linked : (forgetful settings).Linked library other) (fresh : freshFor library.state key locale settings = true) :
    (forgetful settings).Follows (searcher.search key locale settings) library
      (searcher.search key locale (plain settings)) other := by
  -- A template of names that cannot be compiled ends both searches; otherwise both go down below each load path.
  unfold freshFor at fresh
  cases name : settings.filename with
  | error error =>
    have plainName : (plain settings).filename = .error error := name
    rw [search_eq_throw name, search_eq_throw plainName]
    exact (Comparison.Alike.throw (.settings error)).follows library other linked
  | ok format =>
    have plainName : (plain settings).filename = .ok format := name
    rw [search_eq name, search_eq plainName]
    simp only [name] at fresh
    exact (Query.descends_follow linked fresh).bind (fun _ _ => False.elim) fun found left after _ _ linked =>
      (Comparison.Alike.pure found.flatten).follows left after linked

/-- A search that asks only for what has not been taken finds what the files hold. -/
theorem search_of_fresh {settings : Settings} {key locale : String} {library : Library Source}
    (tracks : library.state.Tracks settings) (fresh : freshFor library.state key locale settings = true) :
    ∃ state, (searcher.search key locale settings).outcome library =
      ((finds library.state (plain settings) key locale).answer,
        ⟨library.store.putAll (finds library.state (plain settings) key locale).entries locale, state⟩) := by
  -- It goes as without a memo, and a search without one is steady.
  let unknowing : Library Source := ⟨library.store, { library.state with remembered := .empty }⟩
  have same : finds unknowing.state (plain settings) = finds library.state (plain settings) := finds_congr rfl rfl
  have steady : Searcher.Steady searcher (plain settings) _ (finds unknowing.state (plain settings)) :=
    searcher_steady rfl rfl
  obtain ⟨_, -, ends⟩ := steady key locale unknowing rfl
  have linked : (forgetful settings).Linked library unknowing := ⟨rfl, tracks, rfl⟩
  rcases search_follows linked fresh with (⟨_, _, fails⟩ | spoilt) | ⟨answers, stores, _⟩
  · exact fails.elim
  · exact spoilt.elim
  · rw [ends, same] at answers stores
    refine ⟨((searcher.search key locale settings).outcome library).2.state, Prod.ext answers.symm ?_⟩
    exact congrArg (Library.mk · _) stores.symm

end Phrasebook.Resource
