import Phrasebook.Proofs.Dict.Ordered
import Phrasebook.Proofs.FileTree.Written
import Phrasebook.Proofs.Resource.Layout

/-! Loading the files of one locale is what loading the files of all locales comes to for it. The two runs are followed
side by side, file by file, as long as both of them go well. -/

namespace Phrasebook

namespace Filename

/-- The values that are read from a name are those of the fields of the template. -/
theorem map_fst_fieldValues? {pieces : List Piece} {s : List Char} {values : List (Field × List Char)}
    (found : fieldValues? pieces s = some values) (field : Field) :
    field ∈ values.map Prod.fst ↔ Piece.field field ∈ pieces := by
  -- The pieces of the template are matched from the left, and each field among them takes a value.
  induction pieces generalizing s values with
  | nil =>
    rw [fieldValues?] at found
    split at found
    · obtain rfl := Option.some.inj found
      simp
    · cases found
  | cons piece rest ih =>
    cases piece with
    | literal text =>
      obtain ⟨after, rfl, later⟩ := fieldValues?_literal.1 found
      simp [ih later]
    | field other =>
      obtain ⟨run, after, more, -, -, rfl, later, rfl⟩ := exists_of_fieldValues?_field found
      simp only [List.map_cons, List.mem_cons, ih later, Piece.field.injEq]

/-- A name that matches tells its locale exactly if the template has a field for it. -/
theorem Format.isSome_locale {format : Format} {name : String} {captures : Captures}
    (found : format.captures? name = some captures) : captures.locale.isSome = format.has .locale := by
  -- Values are read for the fields of the template, and for no others.
  obtain ⟨values, matched, rfl⟩ := Option.map_eq_some_iff.1 found
  have fields := map_fst_fieldValues? matched .locale
  rw [Bool.eq_iff_iff]
  simp only [Option.isSome_map, List.find?_isSome, Format.has, List.contains_iff_mem, ← fields, List.mem_map,
    decide_eq_true_eq]

end Filename

namespace Path

variable {base path name : String}

/-- The last component of a path is that of its steps. -/
theorem fileName?_eq_some_iff : fileName? path = some name ↔ (steps path).getLast? = some (.name name) := by
  have last (front : Component) (plain : ∀ name, front ≠ .name name) :
      (front :: steps path).getLast? = some (.name name) ↔ (steps path).getLast? = some (.name name) := by
    rw [List.getLast?_cons]
    cases (steps path).getLast? with
    | none => simp [plain]
    | some step => simp
  -- A root or a point in front is a component, but no name.
  have components : (components path).getLast? = some (.name name) ↔ (steps path).getLast? = some (.name name) := by
    simp only [Path.components]
    split
    · exact last .root (by simp)
    · split
      · exact last .current (by simp)
      · exact Iff.rfl
  rw [← components, fileName?]
  cases (Path.components path).getLast? with
  | none => simp
  | some step => cases step <;> simp

/-- A file has the same name wherever its path is relative to. -/
theorem fileName?_join (named : fileName? path = some name) (base : String) :
    fileName? (join base path) = some name := by
  -- An absolute path replaces what it is joined to, and the steps of a relative one come last.
  cases absolute : isAbsolute path with
  | true => rwa [join, if_pos absolute]
  | false =>
    rw [fileName?_eq_some_iff] at named ⊢
    rw [steps_join absolute, List.getLast?_append, named]
    rfl

end Path

namespace FileTree

variable {root : FileTree} {trail last : Trail}

/-- A walk that stays where it is passes no steps. -/
theorem follow_of_no_steps {parts : List String} (none : parts.filterMap Path.component? = [])
    (follows : follow root trail parts = .ok last) : last = trail := by
  -- Part by part, none of which is a step.
  induction parts generalizing trail with
  | nil => exact (Except.ok.inj follows).symm
  | cons part rest ih =>
    have isNone : Path.component? part = .none := List.filterMap_eq_nil_iff.1 none part List.mem_cons_self
    rw [List.filterMap_cons_none isNone] at none
    rw [follow, isNone] at follows
    cases place : trail.place root with
    | file content => simp [place] at follows
    | directory entries =>
      simp only [place] at follows
      exact ih none follows

/-- A walk whose last step is a name ends at an entry of that name. -/
theorem head?_of_follow {parts : List String} {name : String}
    (lasts : (parts.filterMap Path.component?).getLast? = some (.name name))
    (follows : follow root trail parts = .ok last) :
    last.head?.map Prod.fst = some name ∧ Path.component? name = some (.name name) := by
  -- The last step is still ahead until a part is met behind which there are no more steps.
  induction parts generalizing trail with
  | nil => cases lasts
  | cons part rest ih =>
    rw [follow] at follows
    cases place : trail.place root with
    | file content => simp [place] at follows
    | directory entries =>
      simp only [place] at follows
      rw [List.filterMap_cons] at lasts
      rcases Path.component?_cases part with isNone | ⟨-, isAbove⟩ | ⟨-, isName⟩
      · simp only [isNone] at follows lasts
        exact ih lasts follows
      · simp only [isAbove, List.getLast?_cons] at follows lasts
        refine ih ?_ follows
        cases steps : (rest.filterMap Path.component?).getLast? with
        | none => simp [steps] at lasts
        | some step => simpa [steps] using lasts
      · simp only [isName, List.getLast?_cons] at follows lasts
        cases child : child? (.directory entries) part with
        | error error => simp [child, Except.bind] at follows
        | ok below =>
          simp only [child, Except.bind] at follows
          cases steps : (rest.filterMap Path.component?).getLast? with
          | some step => exact ih (by simpa [steps] using lasts) follows
          | none =>
            obtain rfl := follow_of_no_steps (List.getLast?_eq_none_iff.1 steps) follows
            obtain rfl : part = name := by simpa [steps] using lasts
            exact ⟨rfl, isName⟩

end FileTree

/-- A store has the messages that another one has for a locale, and no others. -/
structure Store.Projects (locale : String) (all one : Store) : Prop where
  kept : ∀ key, one.get? key locale = all.get? key locale
  alone : ∀ key other, other ≠ locale → one.get? key other = none

namespace Store.Projects

variable {all one : Store} {locale other : String}

/-- Messages of the locale are put into both. -/
theorem putAll (projects : Projects locale all one) (entries : List (String × Value)) :
    Projects locale (all.putAll entries locale) (one.putAll entries locale) where
  kept key := by rw [get?_putAll, if_pos rfl, get?_putAll, if_pos rfl, projects.kept]
  alone key other apart := by rw [get?_putAll, if_neg apart, projects.alone key other apart]

/-- Messages of other locales do not matter. -/
theorem putAll_apart (projects : Projects locale all one) (apart : other ≠ locale) (entries : List (String × Value)) :
    Projects locale (all.putAll entries other) one where
  kept key := by rw [get?_putAll, if_neg (Ne.symm apart), projects.kept]
  alone := projects.alone

end Store.Projects

/-- A step and the next one that give an answer both gave one. -/
theorem Lookup.of_bind_ok {σ α β : Type} {step : Lookup σ α} {next : α → Lookup σ β} {library left : Library σ} {y : β}
    (ends : (step >>= next).outcome library = (.ok y, left)) :
    ∃ x here, step.outcome library = (.ok x, here) ∧ (next x).outcome here = (.ok y, left) := by
  -- An error of the first step would be the error of both.
  rw [outcome_bind] at ends
  generalize step.outcome library = first at ends
  obtain ⟨_ | x, here⟩ := first
  · cases ends
  · exact ⟨x, here, rfl, ends⟩

/-- A step that only gives an answer leaves the library as it is. -/
theorem Lookup.of_pure_ok {σ α : Type} {x y : α} {library left : Library σ}
    (ends : (pure x : Lookup σ α).outcome library = (.ok y, left)) : x = y ∧ library = left := by
  obtain ⟨same, left⟩ := Prod.mk.inj ends
  exact ⟨Except.ok.inj same, left⟩

/-- A step whose answer is changed. -/
theorem Lookup.of_map_ok {σ α β : Type} {step : Lookup σ α} {put : α → β} {library left : Library σ} {y : β}
    (ends : (step >>= fun x => pure (put x)).outcome library = (.ok y, left)) :
    ∃ x, step.outcome library = (.ok x, left) ∧ y = put x := by
  -- Changing the answer leaves the library.
  obtain ⟨x, here, gives, ends⟩ := of_bind_ok ends
  obtain ⟨rfl, rfl⟩ := of_pure_ok ends
  exact ⟨x, gives, rfl⟩

/-- Steps for the items of a list that all give an answer: one for the first item, and those for the others. -/
theorem Lookup.of_mapM_cons_ok {σ α β : Type} {f : α → Lookup σ β} {item : α} {rest : List α} {answers : List β}
    {library left : Library σ} (ends : ((item :: rest).mapM f).outcome library = (.ok answers, left)) :
    ∃ first here others, (f item).outcome library = (.ok first, here) ∧
      (rest.mapM f).outcome here = (.ok others, left) ∧
      answers = first :: others := by
  -- The first item is dealt with, and then the others.
  rw [List.mapM_cons] at ends
  obtain ⟨first, here, gives, ends⟩ := of_bind_ok ends
  obtain ⟨others, onward, rfl⟩ := of_map_ok ends
  exact ⟨first, here, others, gives, onward, rfl⟩

/-- Two steps, from libraries that belong together, that both give an answer: the answers belong together, and so do the
libraries that are left. -/
def Lookup.Abreast {σ τ α β : Type} (link : Library σ → Library τ → Prop) (agree : α → β → Prop) (one : Lookup σ α)
    (two : Lookup τ β) : Prop :=
  ∀ library other, link library other → ∀ x left, one.outcome library = (.ok x, left) →
    ∀ y after, two.outcome other = (.ok y, after) → agree x y ∧ link left after

namespace Lookup.Abreast

variable {σ τ α β γ δ : Type} {link : Library σ → Library τ → Prop} {agree : α → β → Prop} {match' : γ → δ → Prop}

/-- Answers that agree keep two lookups abreast. -/
theorem pure {x : α} {y : β} (agrees : agree x y) : Abreast link agree (Pure.pure x) (Pure.pure y) := by
  -- Neither of the two changes its library.
  intro library other linked x' left ends y' after ends'
  obtain ⟨rfl, rfl⟩ := of_pure_ok ends
  obtain ⟨rfl, rfl⟩ := of_pure_ok ends'
  exact ⟨agrees, linked⟩

/-- Of two steps of which one fails nothing is said. -/
theorem throw (error : Error) (two : Lookup τ β) :
    Abreast link agree (MonadExcept.throw error : Lookup σ α) two := by
  intro library other _ x left ends
  cases ends

/-- Two lookups stay abreast when what follows them does, for answers that agree. -/
theorem bind {one : Lookup σ α} {two : Lookup τ β} {next : α → Lookup σ γ} {more : β → Lookup τ δ}
    (first : Abreast link agree one two) (others : ∀ x y, agree x y → Abreast link match' (next x) (more y)) :
    Abreast link match' (one >>= next) (two >>= more) := by
  -- Both first steps have given answers, from which the others go on.
  intro library other linked x left ends y after ends'
  obtain ⟨value, here, started, onward⟩ := of_bind_ok ends
  obtain ⟨value', there, started', onward'⟩ := of_bind_ok ends'
  obtain ⟨agrees, links⟩ := first library other linked value here started value' there started'
  exact others value value' agrees here there links x left onward y after onward'

/-- The answer of the second step may be put differently. -/
theorem map_right {one : Lookup σ α} {two : Lookup τ β} {put : β → δ} {also : α → δ → Prop}
    (first : Abreast link agree one two) (agrees : ∀ x y, agree x y → also x (put y)) :
    Abreast link also one (two >>= fun y => Pure.pure (put y)) := by
  -- Only the answer is changed.
  intro library other linked x left ends y after ends'
  obtain ⟨value, answered, rfl⟩ := of_map_ok ends'
  obtain ⟨agree, links⟩ := first library other linked x left ends value after answered
  exact ⟨agrees x value agree, links⟩

/-- Steps for the items of a list agree one by one. -/
theorem mapM {ι : Type} {f : ι → Lookup σ α} {g : ι → Lookup τ β} (each : ∀ item, Abreast link agree (f item) (g item))
    (items : List ι) : Abreast link (List.Forall₂ agree) (items.mapM f) (items.mapM g) := by
  -- Item by item.
  induction items with
  | nil => exact pure .nil
  | cons item rest ih =>
    rw [List.mapM_cons, List.mapM_cons]
    exact bind (each item) fun _ _ here => bind ih fun _ _ later => pure (.cons here later)

end Lookup.Abreast

namespace Resource

/-- However a file is reached, it has the same name. -/
theorem Source.fileName?_placeOf (source : Source) {path name : String} (named : Path.fileName? path = some name) :
    Path.fileName? (source.placeOf path) = some name := by
  unfold placeOf FileTree.canonical?
  cases leads : source.files.trail? path with
  | error error => exact named
  | ok trail =>
    have follows := (FileTree.follow_of_trail? leads).2
    rw [Path.fileName?_eq_some_iff, Path.steps] at named
    obtain ⟨last, isName⟩ := FileTree.head?_of_follow named follows
    -- The path without detours is made of the names that were passed.
    obtain ⟨entry, before, rfl, rfl⟩ : ∃ entry before, trail = entry :: before ∧ entry.1 = name := by
      cases trail with
      | nil => cases last
      | cons entry before => exact ⟨entry, before, rfl, Option.some.inj last⟩
    have names : FileTree.Trail.names (entry :: before) = FileTree.Trail.names before ++ [entry.1] :=
      FileTree.Trail.names_cons entry.1 entry.2 before
    have plain : ∀ name ∈ FileTree.Trail.names (entry :: before), '/' ∉ name.toList := by
      intro name member
      obtain ⟨passed, inside, rfl⟩ := List.mem_map.1 member
      rcases FileTree.mem_parts_of_follow follows (List.mem_reverse.1 inside) with nothing | ⟨-, part⟩
      · cases nothing
      · exact Path.not_mem_of_mem_parts part
    have cut : Path.parts ("/" ++ "/".intercalate (FileTree.Trail.names (entry :: before))) =
        "" :: FileTree.Trail.names (entry :: before) := by
      have whole := Path.parts_append "" ("/".intercalate (FileTree.Trail.names (entry :: before)))
      rwa [Path.parts_empty, String.empty_append, Path.parts_intercalate (by simp [names]) plain] at whole
    refine Path.fileName?_eq_some ?_ isName
    rw [Option.getD_some, cut, names, ← List.cons_append, List.getLast?_concat]

/-- The locale that the name of a file tells. -/
def told (format : Filename.Format) (path : String) : Option String :=
  ((Path.fileName? path).bind format.captures?).bind Filename.Captures.locale

/-- Whether the name of a file matches a template. -/
def Matches (format : Filename.Format) (path : String) : Prop :=
  ∃ name captures, Path.fileName? path = some name ∧ format.captures? name = some captures

/-- A file below a directory tells the same locale by whatever path it is reached. -/
theorem told_placeOf {format : Filename.Format} {path : String} (isMatch : Matches format path) (source : Source)
    (base : String) : told format (source.placeOf (Path.join base path)) = told format path := by
  obtain ⟨name, captures, named, -⟩ := isMatch
  rw [told, source.fileName?_placeOf (Path.fileName?_join named base), told, named]

/-- What is remembered of a file when the files of all locales are loaded, and when those of one locale are: the same if
its name tells that locale. A file that tells none is used up in the first run, and keeps the sections of all other
locales in the second one. -/
def Remembers (format : Filename.Format) (locale place : String) (all one : Option (Option (Dict Json))) : Prop :=
  match told format place with
  | some other => other = locale → one = all
  | none => (all = none ∧ one = none) ∨
      all = some none ∧ ∃ rest : Dict Json, one = some (some rest) ∧ rest.contains locale = false

/-- Two libraries to which the files of all locales have been loaded, and those of one locale. -/
structure Projects (format : Filename.Format) (locale : String) (all one : Library Source) : Prop where
  files : one.state.files = all.state.files
  formats : one.state.formats = all.state.formats
  memo : ∀ place, Remembers format locale place (all.state.remembered.get? place) (one.state.remembered.get? place)
  store : all.store.Projects locale one.store

section Load

variable {source other : Source} {path : String} (root : Option String) (keepRest : Bool) (settings : Settings)

/-- The data of a file is in the order of its names. -/
theorem Source.ordered_of_read {encoding : String} {data : Dict Json} (reads : source.read path encoding = .ok data) :
    data.Ordered := by
  -- An object is made a dictionary, and nothing an empty one; anything else is no data.
  unfold Source.read at reads
  cases format : source.formats.get ((Path.extension? path).getD "") with
  | error error => simp [format, bind, Except.bind] at reads
  | ok format' =>
    cases gives : source.text path encoding with
    | error error => simp [format, gives, bind, Except.bind] at reads
    | ok text =>
      simp only [format, gives, bind, Except.bind] at reads
      cases parsed : format' text with
      | error error => simp [parsed] at reads
      | ok data' =>
        simp only [parsed] at reads
        split at reads
        · obtain rfl := Except.ok.inj reads
          exact Dict.ordered_ofList _
        · obtain rfl := Except.ok.inj reads
          exact Dict.ordered_empty
        · cases reads

/-- A file of which nothing was remembered and that gives something was read, and is remembered now. -/
theorem of_load_of_unknown {data : Dict Json} {left : Source}
    (unknown : source.remembered.get? (source.placeOf path) = none)
    (loads : Step.outcome (load path root keepRest settings) source = (.ok data, left)) :
    ∃ content, source.read path settings.encoding = .ok content ∧
      taken (source.placeOf path) root content = .ok data ∧
      left = source.after (source.placeOf path) root keepRest settings content := by
  -- The file could be read, and something could be taken of it.
  rw [load_of_unknown unknown] at loads
  cases reads : source.read path settings.encoding with
  | error error => simp [reads] at loads
  | ok content =>
    simp only [reads] at loads
    cases takes : taken (source.placeOf path) root content with
    | error error => simp [takes] at loads
    | ok found =>
      simp only [takes] at loads
      obtain ⟨same, rfl⟩ := Prod.mk.inj loads
      exact ⟨content, rfl, takes.trans same, rfl⟩

/-- A step on resource files that goes well does so by itself. -/
theorem of_lift_ok {α : Type} {step : Step α} {library left : Library Source} {x : α}
    (ends : (lift step).outcome library = (.ok x, left)) :
    ∃ source, step.outcome library.state = (.ok x, source) ∧ left = { library with state := source } := by
  -- The step only touches the state.
  rw [lift_outcome] at ends
  simp only at ends
  generalize step.outcome library.state = ended at ends
  obtain ⟨_ | value, source⟩ := ended
  · cases ends
  · obtain ⟨same, rfl⟩ := Prod.mk.inj ends
    obtain rfl := Except.ok.inj same
    exact ⟨source, rfl, rfl⟩

end Load

namespace Projects

variable {format : Filename.Format} {locale place : String} {all one : Library Source}

/-- After something was taken from a file in both runs, only what is remembered of it is to be compared. -/
theorem advance (projects : Projects format locale all one) {source other : Source} {store more : Store}
    (same : all.state.SameBut source place) (sameAlso : one.state.SameBut other place)
    (memo : Remembers format locale place (source.remembered.get? place) (other.remembered.get? place))
    (stores : store.Projects locale more) : Projects format locale ⟨store, source⟩ ⟨more, other⟩ where
  -- The step concerns one place, and for all others the comparison is as before.
  files := sameAlso.files.trans (projects.files.trans same.files.symm)
  formats := sameAlso.formats.trans (projects.formats.trans same.formats.symm)
  memo other' := by
    by_cases here : other' = place
    · rw [here]
      exact memo
    · rw [same.elsewhere other' here, sameAlso.elsewhere other' here]
      exact projects.memo other'
  store := stores

/-- Two linked libraries give every path the same place. -/
theorem placeOf (projects : Projects format locale all one) (path : String) :
    one.state.placeOf path = all.state.placeOf path := by
  rw [Source.placeOf, projects.files, Source.placeOf]

end Projects

namespace Query

variable {query : Query} {base locale path : String}

/-- A file whose messages are stored: what was taken of it, and the library that is left. -/
theorem of_loadFile_ok {library left : Library Source} {keys : List String}
    (ends : (query.loadFile base path locale).outcome library = (.ok keys, left)) :
    ∃ data source found, Step.outcome (load (Path.join base path) (rootOf query.settings locale)
        (! query.format.has .locale && (rootOf query.settings locale).isSome) query.settings) library.state =
          (.ok data, source) ∧
      library.state.SameBut source (library.state.placeOf (Path.join base path)) ∧
      entries query.settings.namespaceDelimiter (query.spaceOf path) data.entries = .ok found ∧
      keys = found.map Prod.fst ∧ left = ⟨library.store.putAll found locale, source⟩ := by
  -- Reading and taking the messages out of the data have both gone well.
  have touched := load_sameBut library.state (Path.join base path) (rootOf query.settings locale)
    (! query.format.has .locale && (rootOf query.settings locale).isSome) query.settings
  rw [loadFile_outcome] at ends
  simp only at ends
  generalize Step.outcome _ library.state = ended at ends touched ⊢
  obtain ⟨_ | data, source⟩ := ended
  · cases ends
  · simp only [store_outcome] at ends
    cases spells : entries query.settings.namespaceDelimiter (query.spaceOf path) data.entries with
    | error error =>
      rw [spells] at ends
      cases ends
    | ok found =>
      rw [spells] at ends
      obtain ⟨same, rfl⟩ := Prod.mk.inj ends
      exact ⟨data, source, found, rfl, touched, spells, (Except.ok.inj same).symm, rfl⟩

/-- A file of the locale gives the same in both runs. -/
theorem loadFile_abreast (isMatch : Matches query.format path) (tells : told query.format path = some locale) :
    Lookup.Abreast (Projects query.format locale) (fun keys found => found = keys)
      (query.loadFile base path locale) (query.loadFile base path locale) := by
  intro all one projects keys left ends found after ends'
  -- Both runs take something from the file, and store the messages of it.
  obtain ⟨data, source, messages, loads, touched, spells, rfl, rfl⟩ := of_loadFile_ok ends
  obtain ⟨data', source', messages', loads', touched', spells', rfl, rfl⟩ := of_loadFile_ok ends'
  have here := (told_placeOf isMatch all.state base).trans tells
  have memo := projects.memo (all.state.placeOf (Path.join base path))
  simp only [Remembers, here, forall_const] at memo
  -- The same was remembered of the file before, and so the same is taken.
  have agree := load_congr (rootOf query.settings locale)
    (! query.format.has .locale && (rootOf query.settings locale).isSome) query.settings
    projects.files projects.formats memo
  rw [loads, loads'] at agree
  obtain ⟨same, memo⟩ := agree
  obtain rfl := Except.ok.inj same
  obtain rfl := Except.ok.inj (spells'.symm.trans spells)
  rw [projects.placeOf] at touched'
  refine ⟨rfl, projects.advance touched touched' ?_ (projects.store.putAll _)⟩
  simp only [Remembers, here, forall_const]
  exact memo

/-- A file of another locale does not matter. -/
theorem loadFile_apart {other : String} {all one left : Library Source} {keys : List String}
    (projects : Projects query.format locale all one) (isMatch : Matches query.format path)
    (tells : told query.format path = some other) (apart : other ≠ locale)
    (ends : (query.loadFile base path other).outcome all = (.ok keys, left)) :
    Projects query.format locale left one := by
  -- What is stored is for another locale, and what is remembered is of a file of another locale.
  obtain ⟨data, source, messages, -, touched, -, -, rfl⟩ := of_loadFile_ok ends
  have here := (told_placeOf isMatch all.state base).trans tells
  refine projects.advance touched .refl ?_ (projects.store.putAll_apart apart messages)
  simp [Remembers, here, apart]

/-- The messages of the section of a locale in a file that is divided by locales: none if it is not an object. -/
def sectionEntries (query : Query) (path : String) : Option Json → Except LoadError (List (String × Value))
  | some (.object members) =>
    entries query.settings.namespaceDelimiter (query.spaceOf path) (Json.dictOf members).entries
  | _ => .ok []

/-- Storing the section of a locale. -/
def storeSection (query : Query) (path : String) (entry : String × Json) : Lookup Source (List LoadedKey) :=
  match entry.2 with
  | .object members =>
    return (← query.store (Json.dictOf members) (query.spaceOf path) entry.1).map (LoadedKey.mk entry.1)
  | _ => return []

/-- Loading all sections is loading the file whole and storing section after section. -/
theorem loadSections_eq (query : Query) (base path : String) :
    query.loadSections base path = (lift (load (Path.join base path) none false query.settings) >>= fun data =>
      data.entries.mapM (query.storeSection path) >>= fun loaded => pure loaded.flatten) :=
  rfl

/-- A section that is stored is reported under its locale. -/
theorem of_storeSection_ok {entry : String × Json} {library left : Library Source} {loaded : List LoadedKey}
    (ends : (query.storeSection path entry).outcome library = (.ok loaded, left)) :
    ∃ found, query.sectionEntries path (some entry.2) = .ok found ∧
      loaded = found.map (fun message => ⟨entry.1, message.1⟩) ∧
      left = ⟨library.store.putAll found entry.1, library.state⟩ := by
  -- An object is a section; anything else stores nothing.
  obtain ⟨name, value⟩ := entry
  unfold storeSection at ends
  unfold sectionEntries
  cases value with
  | object members =>
    simp only [Lookup.outcome_bind, store_outcome] at ends ⊢
    cases spells : entries query.settings.namespaceDelimiter (query.spaceOf path) (Json.dictOf members).entries with
    | error error =>
      rw [spells] at ends
      cases ends
    | ok found =>
      rw [spells] at ends
      obtain ⟨same, rfl⟩ := Prod.mk.inj ends
      exact ⟨found, rfl, (Except.ok.inj same).symm.trans List.map_map, rfl⟩
  | null | bool _ | number _ | text _ | array _ =>
    obtain ⟨same, rfl⟩ := Prod.mk.inj ends
    exact ⟨[], rfl, (Except.ok.inj same).symm, rfl⟩

/-- Of the keys that are reported for a locale all are kept, or none. -/
theorem filter_reported (messages : List (String × Value)) (name locale : String) :
    (messages.map fun message => LoadedKey.mk name message.1).filter (fun entry => entry.locale = locale) =
      if name = locale then messages.map fun message => LoadedKey.mk name message.1 else [] := by
  -- All of them are reported for one locale.
  rw [List.filter_map]
  split
  · next same => simp [Function.comp_def, same]
  · next apart => simp [Function.comp_def, apart]

/-- Of the sections of a file that are stored one after the other, only that of a locale matters for it. -/
theorem of_storeSections_ok {sections : List (String × Json)} (distinct : sections.Pairwise fun a b => a.1 < b.1)
    {library left : Library Source} {loaded : List (List LoadedKey)}
    (ends : (sections.mapM (query.storeSection path)).outcome library = (.ok loaded, left)) (locale : String) :
    left.state = library.state ∧ ∃ found, query.sectionEntries path (Dict.find? locale sections) = .ok found ∧
      loaded.flatten.filter (fun entry => entry.locale = locale) = found.map (fun message => ⟨locale, message.1⟩) ∧
      ∀ key, left.store.get? key locale = (library.store.putAll found locale).get? key locale := by
  -- The sections are stored from the front, and the one of the locale is met at most once.
  induction sections generalizing library loaded with
  | nil =>
    obtain ⟨rfl, rfl⟩ := Lookup.of_pure_ok ends
    exact ⟨rfl, [], rfl, rfl, fun _ => rfl⟩
  | cons entry rest ih =>
    obtain ⟨behind, distinct⟩ := List.pairwise_cons.1 distinct
    obtain ⟨first, here, others, stored, onward, rfl⟩ := Lookup.of_mapM_cons_ok ends
    obtain ⟨messages, spells, rfl, rfl⟩ := of_storeSection_ok stored
    obtain ⟨state, found, spellsToo, reported, stores⟩ := ih distinct onward
    obtain ⟨name, value⟩ := entry
    refine ⟨state, ?_⟩
    by_cases same : locale = name
    · subst same
      -- The locale has no other section behind this one.
      have none : Dict.find? locale rest = none := Dict.find?_eq_none fun entry member => ne_of_lt (behind entry member)
      rw [none] at spellsToo
      obtain rfl := Except.ok.inj spellsToo
      refine ⟨messages, ?_, ?_, stores⟩
      · rw [Dict.find?, if_pos rfl]
        exact spells
      · rw [List.flatten_cons, List.filter_append, reported, filter_reported, if_pos rfl, List.map_nil, List.append_nil]
    · refine ⟨found, ?_, ?_, fun key => ?_⟩
      · rw [Dict.find?, if_neg same]
        exact spellsToo
      · rw [List.flatten_cons, List.filter_append, reported, filter_reported, if_neg (Ne.symm same), List.nil_append]
      · rw [stores, Store.get?_putAll, if_pos rfl, Store.get?_putAll, if_neg same, Store.get?_putAll, if_pos rfl]

/-- What is taken of a file for a locale is its section. -/
theorem entries_taken {place : String} {data part : Dict Json} (takes : taken place (some locale) data = .ok part) :
    entries query.settings.namespaceDelimiter (query.spaceOf path) part.entries =
      query.sectionEntries path (data.get? locale) := by
  -- An object is the section, and nothing is an empty one; anything else cannot be taken.
  simp only [taken, sectionAt, Dict.contains] at takes
  unfold sectionEntries
  cases found : data.get? locale with
  | none => simp [found] at takes
  | some value =>
    simp only [found, Option.isSome_some, if_true] at takes
    cases value with
    | null | object _ =>
      obtain rfl := Except.ok.inj takes
      rfl
    | bool _ | number _ | text _ | array _ => cases takes

/-- A file whose sections are stored: what was taken of it, and what the sections report. -/
theorem of_loadSections_ok {library left : Library Source} {loaded : List LoadedKey}
    (ends : (query.loadSections base path).outcome library = (.ok loaded, left)) :
    ∃ data source sections,
      Step.outcome (load (Path.join base path) none false query.settings) library.state = (.ok data, source) ∧
      library.state.SameBut source (library.state.placeOf (Path.join base path)) ∧
      (data.entries.mapM (query.storeSection path)).outcome { library with state := source } = (.ok sections, left) ∧
      loaded = sections.flatten := by
  -- The file was loaded, and then each of its sections stored.
  have touched := load_sameBut library.state (Path.join base path) none false query.settings
  rw [loadSections_eq] at ends
  obtain ⟨data, here, lifted, ends⟩ := Lookup.of_bind_ok ends
  obtain ⟨sections, stored, rfl⟩ := Lookup.of_map_ok ends
  obtain ⟨source, loads, rfl⟩ := of_lift_ok lifted
  rw [loads] at touched
  exact ⟨data, source, sections, loads, touched, stored, rfl⟩

/-- A file that is divided by locales gives the section of the locale in both runs. -/
theorem loadSections_abreast (isMatch : Matches query.format path) (untold : told query.format path = none)
    (noField : query.format.has .locale = false) (divided : query.settings.skipLocaleRoot = false) :
    Lookup.Abreast (Projects query.format locale)
      (fun loaded keys => loaded.filter (fun entry => entry.locale = locale) = keys.map (LoadedKey.mk locale))
      (query.loadSections base path) (query.loadFile base path locale) := by
  intro all one projects loaded left ends keys after ends'
  obtain ⟨data, source, sections, loads, touched, stored, rfl⟩ := of_loadSections_ok ends
  obtain ⟨part, source', messages, loads', touched', spells, rfl, rfl⟩ := of_loadFile_ok ends'
  have root : rootOf query.settings locale = some locale := by simp [rootOf, divided]
  simp only [noField, root, Option.isSome_some, Bool.not_false, Bool.and_self] at loads'
  have place := projects.placeOf (Path.join base path)
  rw [place] at touched'
  have here := (told_placeOf isMatch all.state base).trans untold
  have memo := projects.memo (all.state.placeOf (Path.join base path))
  simp only [Remembers, here] at memo
  -- The first run takes all of the file at once, and so it was either not met before, or has nothing left.
  rcases memo with ⟨unknown, unknown'⟩ | ⟨used, rest, held, lacks⟩
  · -- The file is read in both runs.
    obtain ⟨content, reads, takes, rfl⟩ := of_load_of_unknown _ _ _ unknown loads
    obtain rfl := Except.ok.inj takes
    obtain ⟨content, reads', takes', rfl⟩ := of_load_of_unknown _ _ _ (place ▸ unknown') loads'
    rw [Source.read_congr projects.files projects.formats, reads] at reads'
    obtain rfl := Except.ok.inj reads'
    obtain ⟨state, found, alsoSpells, reported, stores⟩ :=
      of_storeSections_ok (Source.ordered_of_read reads) stored locale
    -- The section is the same in both runs.
    rw [entries_taken takes'] at spells
    obtain rfl := Except.ok.inj (alsoSpells.symm.trans spells)
    refine ⟨reported.trans List.map_map.symm, ?_⟩
    obtain ⟨store, state'⟩ := left
    obtain rfl : state' = _ := state
    refine projects.advance touched touched' ?_ ⟨fun key => ?_, (projects.store.putAll found).alone⟩
    · simp only [Remembers, here, place, Source.get?_after, unknown, unknown', leftover]
      cases query.settings.memoize with
      | false => exact .inl ⟨rfl, rfl⟩
      | true => exact .inr ⟨rfl, content.erase locale, rfl, by simp [Dict.contains]⟩
    · exact ((projects.store.putAll found).kept key).trans (stores key).symm
  · -- The file is used up in the first run, and has nothing for the locale in the second one.
    have usedUp : all.state.usedUp (Path.join base path) = true := by rw [Source.usedUp, used]
    rw [load_of_usedUp usedUp] at loads
    obtain ⟨same, rfl⟩ := Prod.mk.inj loads
    obtain rfl := Except.ok.inj same
    cases empty : rest.isEmpty with
    | true =>
      rw [load_of_usedUp (by rw [Source.usedUp, place, held]; exact empty)] at loads'
      obtain ⟨same, rfl⟩ := Prod.mk.inj loads'
      obtain rfl := Except.ok.inj same
      obtain rfl := Except.ok.inj spells
      obtain ⟨same, rfl⟩ := Prod.mk.inj stored
      obtain rfl := Except.ok.inj same
      exact ⟨rfl, projects⟩
    | false =>
      rw [load_of_held (place ▸ held) empty] at loads'
      simp [taken, lacks] at loads'

/-- What is reported for a locale by two runs of which the second one asks for that locale only. -/
def Selects (locale : String) (loaded found : List LoadedKey) : Prop :=
  loaded.filter (fun entry => entry.locale = locale) = found

/-- The keys of a locale are all kept. -/
theorem selects_map (locale : String) (keys : List String) :
    Selects locale (keys.map (LoadedKey.mk locale)) (keys.map (LoadedKey.mk locale)) := by
  simp [Selects, List.filter_map, Function.comp_def]

/-- Of the keys of another locale none is kept. -/
theorem selects_nil {locale other : String} (apart : other ≠ locale) (keys : List String) :
    Selects locale (keys.map (LoadedKey.mk other)) [] := by
  simp [Selects, apart]

/-- Loading a file if it is a resource file goes alike for the locale. -/
theorem loadMatching_abreast (query : Query) (base locale path : String) :
    Lookup.Abreast (Projects query.format locale) (Selects locale) (query.loadMatching base none path)
      (query.loadMatching base (some locale) path) := by
  unfold loadMatching
  split
  · exact .pure rfl
  cases matched : (Path.fileName? path).bind query.format.captures? with
  | none => exact .pure rfl
  | some captures =>
    obtain ⟨name, named, captured⟩ := Option.bind_eq_some_iff.1 matched
    have isMatch : Matches query.format path := ⟨name, captures, named, captured⟩
    have tells : told query.format path = captures.locale := by rw [told, matched, Option.bind_some]
    have field := Filename.Format.isSome_locale captured
    cases locales : captures.locale with
    | none =>
      -- The file is divided by locales, or else nobody knows its locale.
      simp only [locales, Option.none_or, Option.some_or, Option.getD_none, if_true]
      rw [locales] at tells field
      cases divided : query.settings.skipLocaleRoot with
      | true => exact .throw _ _
      | false => exact (loadSections_abreast isMatch tells field.symm divided).map_right fun _ _ => id
    | some other =>
      simp only [locales, Option.none_or, Option.some_or, Option.getD_some, if_true]
      rw [locales] at tells
      split
      · next same =>
        subst same
        refine .bind (loadFile_abreast isMatch tells) fun keys found same => .pure ?_
        rw [same]
        exact selects_map other keys
      · next apart =>
        intro all one projects loaded left ends found after ends'
        obtain ⟨keys, loads, rfl⟩ := Lookup.of_map_ok ends
        obtain ⟨rfl, rfl⟩ := Lookup.of_pure_ok ends'
        exact ⟨selects_nil apart keys, loadFile_apart projects isMatch tells apart loads⟩

/-- What is selected of lists is selected of all of them together. -/
theorem selects_flatten {locale : String} {loaded found : List (List LoadedKey)}
    (selects : List.Forall₂ (Selects locale) loaded found) : Selects locale loaded.flatten found.flatten := by
  -- List by list.
  induction selects with
  | nil => rfl
  | cons here _ ih =>
    rw [Selects] at here ih ⊢
    rw [List.flatten_cons, List.filter_append, here, ih, List.flatten_cons]

/-- Loading the files of a directory goes alike for the locale. -/
theorem loadDirectory_abreast (query : Query) (base locale : String) :
    Lookup.Abreast (Projects query.format locale) (Selects locale) (query.loadDirectory base none)
      (query.loadDirectory base (some locale)) := by
  -- Both list the same files; where there is no directory nothing is loaded in both.
  intro all one projects loaded left ends found after ends'
  unfold loadDirectory at ends ends'
  simp only [Lookup.outcome_bind, Lookup.outcome_get, projects.files] at ends ends'
  have nothing : Lookup.Abreast (Projects query.format locale) (Selects locale)
      (pure [] : Lookup Source (List LoadedKey)) (pure [] : Lookup Source (List LoadedKey)) := .pure rfl
  cases place : all.state.files.lookup base with
  | error error =>
    rw [place] at ends ends'
    exact nothing all one projects loaded left ends found after ends'
  | ok tree =>
    rw [place] at ends ends'
    cases tree with
    | file content => exact nothing all one projects loaded left ends found after ends'
    | directory entries =>
      exact Lookup.Abreast.bind (.mapM (query.loadMatching_abreast base locale) _)
        (fun _ _ selects => .pure (selects_flatten selects)) all one projects loaded left ends found after ends'

end Query

/-- Loading one locale is the projection of loading all: if both go well, the same messages are stored for the locale
and no others, and the same keys are reported for it in the same order. -/
theorem loadEverything_projects (settings : Settings) (locale : String) {source : Source}
    (fresh : source.remembered = .empty) {loaded found : List LoadedKey} {all one : Library Source}
    (everything : (searcher.loadEverything none settings).outcome ⟨.empty, source⟩ = (.ok loaded, all))
    (single : (searcher.loadEverything (some locale) settings).outcome ⟨.empty, source⟩ = (.ok found, one)) :
    (∀ key, one.store.get? key locale = all.store.get? key locale) ∧
      (∀ key other, other ≠ locale → one.store.get? key other = none) ∧
      loaded.filter (fun entry => entry.locale = locale) = found := by
  cases name : settings.filename with
  | error error =>
    rw [loadEverything_eq_throw name] at everything
    cases everything
  | ok format =>
    -- All directories are loaded side by side.
    rw [loadEverything_eq name] at everything single
    -- Nothing is remembered in the beginning, and nothing stored.
    have start : Projects format locale ⟨.empty, source⟩ ⟨.empty, source⟩ := by
      refine ⟨rfl, rfl, fun place => ?_, fun _ => rfl, fun _ _ _ => rfl⟩
      rw [fresh, Dict.get?_empty, Remembers]
      split
      · exact fun _ => rfl
      · exact .inl ⟨rfl, rfl⟩
    obtain ⟨selects, projects⟩ := Lookup.Abreast.bind
      (.mapM (fun base => (Query.mk format settings).loadDirectory_abreast base locale) settings.loadPath)
      (fun _ _ selects => .pure (Query.selects_flatten selects)) _ _ start loaded all everything found one single
    exact ⟨projects.store.kept, projects.store.alone, selects⟩

/-- A directory with a file that is divided by locales, and another one below it in which a section is empty. -/
def bilingual : Source :=
  { files := .directory (.ofList [("app", .directory (.ofList
      [("foo.yml", .file "en:\n  a: A\n  b: B\nfr:\n  a: C\n".toUTF8),
        ("sub", .directory (.ofList [("bar.yml", .file "en:\nfr:\n  d: D\n".toUTF8)]))]))])
    formats := .standard }

/-- Settings to load them. -/
def shelving : Settings :=
  { loadPath := ["/app"], filenameFormat := "\x7bnamespace\x7d.\x7bformat\x7d", memoize := true }

/-- Of the four messages of these files two are loaded for the first locale. -/
theorem loadEverything_projects_bilingual :
    let all := (searcher.loadEverything none shelving).outcome ⟨.empty, bilingual⟩
    let one := (searcher.loadEverything (some "en") shelving).outcome ⟨.empty, bilingual⟩
    all.1 = .ok [⟨"en", "foo.a"⟩, ⟨"en", "foo.b"⟩, ⟨"fr", "foo.a"⟩, ⟨"fr", "sub.bar.d"⟩] ∧
      one.1 = .ok [⟨"en", "foo.a"⟩, ⟨"en", "foo.b"⟩] ∧
      ∀ key, one.2.store.get? key "en" = all.2.store.get? key "en" := by
  -- What is loaded is computed, and that the messages are the same follows.
  intro all one
  have everything : all.1 = .ok [⟨"en", "foo.a"⟩, ⟨"en", "foo.b"⟩, ⟨"fr", "foo.a"⟩, ⟨"fr", "sub.bar.d"⟩] := by
    decide +kernel
  have single : one.1 = .ok [⟨"en", "foo.a"⟩, ⟨"en", "foo.b"⟩] := by decide +kernel
  exact ⟨everything, single,
    (loadEverything_projects shelving "en" rfl (Prod.ext everything rfl) (Prod.ext single rfl)).1⟩

end Resource

end Phrasebook
