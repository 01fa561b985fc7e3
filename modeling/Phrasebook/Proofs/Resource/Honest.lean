import Phrasebook.Proofs.Resource.Plain
import Phrasebook.Proofs.Translator.Default
import Phrasebook.Proofs.Translator.Misses

/-! Searching files removes no messages, reports only stored ones, and touches neither the messages of other locales nor
anything of a source but what is remembered of the files. -/

namespace Phrasebook

namespace Lookup.Meets

/-- Steps for the items of a list all keep what each of them keeps. -/
theorem mapM_keeps {σ α β : Type} {f : α → Lookup σ β} {holds : Library σ → Prop} {items : List α}
    {library : Library σ} (each : ∀ item left, holds left → (f item).Meets left (fun _ => holds) fun _ => holds)
    (start : holds library) : (items.mapM f).Meets library (fun _ => holds) fun _ => holds := by
  -- Item by item: each step starts where the one before it has left off.
  induction items generalizing library with
  | nil => exact pure start
  | cons item rest ih =>
    rw [List.mapM_cons]
    refine bind ((each item library start).mono (fun answer left here => ?_) fun _ _ => id)
    exact bind ((ih here).mono (fun _ _ there => pure there) fun _ _ => id)

variable {σ α : Type} {step : Lookup σ α} {library : Library σ}

/-- What holds of the library that is left holds of every end. -/
theorem of_left {holds : Library σ → Prop} (left : holds (step.outcome library).2) :
    step.Meets library (fun _ => holds) fun _ => holds := by
  -- One case for each way in which the step may end.
  unfold Meets
  generalize step.outcome library = ended at left
  obtain ⟨_ | _, _⟩ := ended <;> exact left

/-- What holds of the ends of a step holds together. -/
theorem and {answers more : α → Library σ → Prop} {fails others : Error → Library σ → Prop}
    (meets : step.Meets library answers fails) (also : step.Meets library more others) :
    step.Meets library (fun x left => answers x left ∧ more x left) fun e left => fails e left ∧ others e left := by
  -- One case for each way in which the step may end.
  unfold Meets at meets also ⊢
  generalize step.outcome library = ended at meets also
  obtain ⟨_ | _, _⟩ := ended <;> exact ⟨meets, also⟩

end Lookup.Meets

namespace Resource

/-- A source of some files in some formats, whatever is remembered of them. -/
structure Source.Over (files : FileTree) (formats : Formats) (source : Source) : Prop where
  files : source.files = files
  formats : source.formats = formats

variable {files : FileTree} {formats : Formats} {library : Library Source}

/-- What is remembered of a file does not change which files there are. -/
theorem Source.Over.of_sameBut {source other : Source} {place : String} (isOver : source.Over files formats)
    (same : source.SameBut other place) : other.Over files formats :=
  ⟨same.files.trans isOver.files, same.formats.trans isOver.formats⟩

/-- Loading a file leaves the files as they are. -/
theorem lift_load_over (isOver : library.state.Over files formats) (path : String) (root : Option String)
    (keepRest : Bool) (settings : Settings) :
    (lift (load path root keepRest settings)).Meets library (fun _ left => left.state.Over files formats)
      fun _ left => left.state.Over files formats := by
  -- A load changes what is remembered, and nothing else of the source.
  refine .of_left ?_
  rw [lift_outcome]
  exact isOver.of_sameBut (load_sameBut library.state path root keepRest settings)

namespace Query

variable (query : Query) {locale : String}

section Over

/-- Storing messages leaves the files as they are. -/
theorem store_over (isOver : library.state.Over files formats) (data : Dict Json) (space : String) :
    (query.store data space locale).Meets library (fun _ left => left.state.Over files formats)
      fun _ left => left.state.Over files formats := by
  -- The messages go to the store, whether they can all be spelled out or not.
  refine .of_left ?_
  rw [store_outcome]
  cases entries query.settings.namespaceDelimiter space data.entries <;> exact isOver

/-- Loading a file leaves the files and the formats as they are, also where it fails. -/
theorem loadFile_over (isOver : library.state.Over files formats) (base path : String) :
    (query.loadFile base path locale).Meets library (fun _ left => left.state.Over files formats)
      fun _ left => left.state.Over files formats :=
  .of_left (isOver.of_sameBut (query.loadFile_sameBut base path locale library))

/-- So does going down along the segments of a key, which loads at most one file. -/
theorem descend_over (isOver : library.state.Over files formats) (base path : String) (segments : List String) :
    (query.descend base locale path segments).Meets library (fun _ left => left.state.Over files formats)
      fun _ left => left.state.Over files formats := by
  -- A file is loaded if the segments lead to one, and nothing is done otherwise.
  refine .of_left ?_
  rw [descend_outcome]
  cases query.target? library.state.files base locale path segments with
  | none => exact isOver
  | some file => exact (query.loadFile_over isOver base file).left

/-- Storing the sections of a file leaves the files as they are. -/
theorem loadSections_over (isOver : library.state.Over files formats) (base path : String) :
    (query.loadSections base path).Meets library (fun _ left => left.state.Over files formats)
      fun _ left => left.state.Over files formats := by
  refine .bind ((lift_load_over isOver _ _ _ _).mono (fun data left isOver => ?_) fun _ _ => id)
  refine .bind ((Lookup.Meets.mapM_keeps (fun entry left isOver => ?_) isOver).mono
    (fun _ _ isOver => .pure isOver) fun _ _ => id)
  -- Only a section that is a mapping holds messages.
  obtain ⟨locale, value⟩ := entry
  simp only
  split
  · exact .bind ((query.store_over isOver _ _).mono (fun _ _ isOver => .pure isOver) fun _ _ => id)
  · exact .pure isOver

/-- Loading a file, or passing it over, leaves the files as they are. -/
theorem loadMatching_over (isOver : library.state.Over files formats) (base : String) (asked : Option String)
    (path : String) :
    (query.loadMatching base asked path).Meets library (fun _ left => left.state.Over files formats)
      fun _ left => left.state.Over files formats := by
  unfold loadMatching
  -- A file with another extension or another name is none of them.
  split
  · exact .pure isOver
  split
  · split
    · split
      · exact .bind ((query.loadFile_over isOver _ _).mono (fun _ _ isOver => .pure isOver) fun _ _ => id)
      · exact .pure isOver
    · -- Nothing tells its locale.
      split
      · exact .throw isOver
      · exact query.loadSections_over isOver base path
  · exact .pure isOver

/-- Loading a directory leaves the files as they are. -/
theorem loadDirectory_over (isOver : library.state.Over files formats) (base : String) (asked : Option String) :
    (query.loadDirectory base asked).Meets library (fun _ left => left.state.Over files formats)
      fun _ left => left.state.Over files formats := by
  -- The files that are listed are gone through; a base that is no directory has none.
  unfold loadDirectory
  refine .bind (.get ?_)
  split
  · refine .bind ((Lookup.Meets.mapM_keeps (fun path _ isOver => ?_) isOver).mono (fun _ _ isOver => .pure isOver)
      fun _ _ => id)
    exact query.loadMatching_over isOver base asked path
  · exact .pure isOver

end Over

/-- What a search of a locale that reports keys has done: their messages were put in, one after the other. -/
def Stored (locale : String) (before : Store) (keys : List String) (left : Library Source) : Prop :=
  ∃ found, left.store = before.putAll found locale ∧ keys = found.map Prod.fst

/-- What a search of a locale that fails has done: some messages were put in. -/
def Torn (locale : String) (before : Store) (left : Library Source) : Prop :=
  ∃ found, left.store = before.putAll found locale

section Stored

variable {before : Store} {keys : List String} {left : Library Source}

/-- What a search has stored when it ends well, it has also stored when it is cut short. -/
theorem Stored.torn (stored : Stored locale before keys left) : Torn locale before left :=
  stored.imp fun _ => And.left

/-- What is reported is stored. -/
theorem Stored.has (stored : Stored locale before keys left) : ∀ key ∈ keys, left.store.has key locale = true := by
  -- The keys are those of the messages that were put in.
  obtain ⟨found, stores, rfl⟩ := stored
  intro key member
  rw [stores, Store.has_putAll_of_mem member]

/-- Nothing is stored for a key that is not reported. -/
theorem Stored.unreported (stored : Stored locale before keys left) {key : String} (absent : key ∉ keys) :
    left.store.get? key locale = before.get? key locale := by
  obtain ⟨found, stores, rfl⟩ := stored
  rw [stores, Store.get?_putAll_of_not_mem absent]

/-- A search that is cut short keeps what was stored. -/
theorem Torn.keeps (torn : Torn locale before left) : before.Keeps locale left.store := by
  -- Messages were put in and none was removed.
  obtain ⟨found, stores⟩ := torn
  intro key there
  simp [stores, Store.has_putAll, there]

/-- A search that is cut short leaves the other locales alone. -/
theorem Torn.sameElsewhere (torn : Torn locale before left) : before.SameElsewhere locale left.store := by
  -- All messages were put in for the locale.
  obtain ⟨found, stores⟩ := torn
  intro key asked elsewhere
  simp [stores, Store.get?_putAll, elsewhere]

end Stored

/-- Loading a file stores what it reports for the locale that is asked for, and, where it fails, at most some of it. -/
theorem loadFile_stored (query : Query) (base path locale : String) (library : Library Source) :
    (query.loadFile base path locale).Meets library (Stored locale library.store)
      fun _ => Torn locale library.store := by
  -- Reading comes first, and taking the messages out of the data second; only behind both something is stored.
  unfold Lookup.Meets
  rw [loadFile_outcome]
  dsimp only
  generalize Step.outcome _ library.state = ended
  obtain ⟨_ | data, source⟩ := ended
  · exact ⟨[], rfl⟩
  · simp only [store_outcome]
    cases entries query.settings.namespaceDelimiter (query.spaceOf path) data.entries with
    | error error => exact ⟨[], rfl⟩
    | ok found => exact ⟨found, rfl, rfl⟩

/-- So does going down along the segments of a key. -/
theorem descend_stored (query : Query) (base path locale : String) (segments : List String) (library : Library Source) :
    (query.descend base locale path segments).Meets library (Stored locale library.store)
      fun _ => Torn locale library.store := by
  -- A file is loaded if the segments lead to one, and nothing is done otherwise.
  have loads (file : String) := query.loadFile_stored base file locale library
  unfold Lookup.Meets at loads ⊢
  rw [descend_outcome]
  cases query.target? library.state.files base locale path segments with
  | none => exact ⟨[], rfl, rfl⟩
  | some file => exact loads file

/-- Below several load paths the messages are put in one behind the other. -/
theorem descends_stored (query : Query) (locale : String) (segments bases : List String) (library : Library Source) :
    (bases.mapM fun base => query.descend base locale "" segments).Meets library
      (fun found => Stored locale library.store found.flatten) fun _ => Torn locale library.store := by
  -- Load path by load path: what the first has stored is in front of what the others store.
  induction bases generalizing library with
  | nil => exact .pure ⟨[], rfl, rfl⟩
  | cons base rest ih =>
    rw [List.mapM_cons]
    refine .bind ((query.descend_stored base "" locale segments library).mono (fun keys left first => ?_) fun _ _ => id)
    obtain ⟨found, stores, rfl⟩ := first
    refine .bind ((ih left).mono (fun others last later => .pure ?_) fun _ last later => ?_)
    · obtain ⟨more, storesMore, reported⟩ := later
      exact ⟨found ++ more, by rw [storesMore, stores, Store.putAll_append],
        by rw [List.flatten_cons, reported, List.map_append]⟩
    · obtain ⟨more, storesMore⟩ := later
      exact ⟨found ++ more, by rw [storesMore, stores, Store.putAll_append]⟩

end Query

/-- A search stores the messages whose keys it reports. -/
theorem search_stored (key locale : String) (settings : Settings) (library : Library Source) :
    (searcher.search key locale settings).Meets library (Query.Stored locale library.store)
      fun _ => Query.Torn locale library.store := by
  -- A template of names that cannot be compiled ends the search before it begins.
  cases name : settings.filename with
  | error error =>
    rw [search_eq_throw name]
    exact .throw ⟨[], rfl⟩
  | ok format =>
    rw [search_eq name]
    exact .bind ((Query.descends_stored _ locale _ _ library).mono (fun _ _ ends => .pure ends) fun _ _ => id)

/-- A search leaves the files as they are. -/
theorem search_over (isOver : library.state.Over files formats) (key locale : String) (settings : Settings) :
    (searcher.search key locale settings).Meets library (fun _ left => left.state.Over files formats)
      fun _ left => left.state.Over files formats := by
  -- A template of names that cannot be compiled ends the search before it begins.
  cases name : settings.filename with
  | error error =>
    rw [search_eq_throw name]
    exact .throw isOver
  | ok format =>
    rw [search_eq name]
    refine .bind ((Lookup.Meets.mapM_keeps (fun base _ isOver => ?_) isOver).mono (fun _ _ isOver => .pure isOver)
      fun _ _ => id)
    exact Query.descend_over _ isOver base "" _

/-- Searching files is honest. -/
theorem searcher_honest (files : FileTree) (formats : Formats) : searcher.Honest (Source.Over files formats) where
  -- What is stored stays, what is reported has been stored, and the files are left alone.
  search key locale settings library isOver := by
    have ends := (search_stored key locale settings library).and (search_over isOver key locale settings)
    exact ends.mono (fun _ _ ends => ⟨⟨ends.2, ends.1.torn.keeps⟩, ends.1.has⟩) fun _ _ => And.right
  loadEverything locale settings library isOver := by
    refine .bind ?_
    unfold query
    cases settings.filename with
    | error error => exact .throw isOver
    | ok format =>
      refine .bind ((Lookup.Meets.mapM_keeps (fun base _ isOver => ?_) isOver).mono (fun _ _ isOver => .pure isOver)
        fun _ _ => id)
      exact Query.loadDirectory_over _ isOver base locale
  forget source isOver := ⟨isOver.files, isOver.formats⟩

/-- Searching the files of a locale stores nothing for another one. -/
theorem searcher_local : searcher.Local := by
  -- Both ends of a search have put messages in for its locale only.
  intro key locale settings library
  exact (search_stored key locale settings library).mono (fun _ _ ends => ends.torn.sameElsewhere)
    fun _ _ ends => ends.sameElsewhere

end Resource

end Phrasebook
