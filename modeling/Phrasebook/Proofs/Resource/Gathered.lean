import Phrasebook.Proofs.FileTree.Listing
import Phrasebook.Proofs.Resource.Layout
import Phrasebook.Proofs.Resource.Projection

/-! What loading all files of a locale gathers below a load path: the messages of the files that concern the locale, in
the order in which the files are listed. With the default template of file names the keys of a file tell where it lies.
-/

namespace Phrasebook

namespace Key

variable {d : Char}

/-- The segments of a key are those before a delimiter and those behind it. -/
theorem segments_append (front back : String) : segments (front ++ .ofList [d] ++ back) (.ofList [d]) =
    segments front (.ofList [d]) ++ segments back (.ofList [d]) := by
  -- A key is cut before and behind the one character that is the delimiter.
  have text : (front ++ .ofList [d] ++ back).toList = front.toList ++ d :: back.toList := by simp
  rw [segments, text, String.toList_ofList, Text.splitOn, dif_pos (List.cons_ne_nil _ _), Text.cutAt_append,
    List.map_append, segments, String.toList_ofList, Text.splitOn, dif_pos (List.cons_ne_nil _ _), segments,
    String.toList_ofList, Text.splitOn, dif_pos (List.cons_ne_nil _ _)]

/-- The key of some segments lies below a namespace only if they begin with the segments of the namespace. -/
theorem exists_of_below {segments space : List String} {rest : String} (some : segments ≠ [])
    (plain : ∀ segment ∈ segments, d ∉ segment.toList) (someSpace : space ≠ [])
    (plainSpace : ∀ segment ∈ space, d ∉ segment.toList)
    (below : ofSegments segments (.ofList [d]) = ofSegments space (.ofList [d]) ++ .ofList [d] ++ rest) :
    ∃ more, more ≠ [] ∧ segments = space ++ more := by
  -- Cutting the key gives the segments, and cutting it in two parts those of the namespace and others.
  refine ⟨Key.segments rest (.ofList [d]), segments_ne_nil rest _, ?_⟩
  rw [← segments_ofSegments some plain, below, segments_append, segments_ofSegments someSpace plainSpace]

end Key

namespace Path

/-- Names with slashes between them are the path that they make one behind the other. -/
theorem ofPieces_of_names {names : List String} (some : names ≠ []) (each : ∀ name ∈ names, IsName name) :
    ofPieces names = "/".intercalate names := by
  have parts := parts_ofPieces some fun name member => ⟨(each name member).ne_empty, (each name member).slashless⟩
  rw [← intercalate_parts (ofPieces names), parts]

/-- The extension of a name is what stands behind its last point. -/
theorem extensionOf?_eq_some {name extension : String} (some : name ≠ "") (plain : '.' ∉ extension.toList) :
    extensionOf? (name ++ "." ++ extension) = .some extension := by
  -- The last point is the one in front of the extension, which has none.
  have spelled : (name ++ "." ++ extension).toList = name.toList ++ '.' :: extension.toList := by simp
  rw [extensionOf?, spelled, Text.breakOnLast?_eq_some plain]
  simp [some]

end Path

namespace Store

/-- The last message of two lists is that of the second one, if it has any. -/
theorem lastOf?_append (entries more : List (String × Value)) (key : String) :
    lastOf? (entries ++ more) key = (lastOf? more key).or (lastOf? entries key) := by
  simp only [lastOf?, List.reverse_append, List.find?_append]
  cases more.reverse.find? fun entry => entry.1 = key <;> rfl

end Store

/-- One search finds what it finds. -/
theorem Finding.entries_all_single (first : Finding) : (Finding.all [first]).entries = first.entries := by
  -- Nothing comes behind the one search, whether it fails or not.
  unfold Finding.all
  cases error : first.error with
  | none => simp [all]
  | some failed => rfl

/-- A search that answers has found everything without an error. -/
theorem Finding.error_eq_none {finding : Finding} {keys : List String} (answers : finding.answer = .ok keys) :
    finding.error = none := by
  -- A search that has met an error answers with it.
  unfold answer at answers
  cases error : finding.error with
  | none => rfl
  | some failed =>
    rw [error] at answers
    cases answers

namespace Resource

/-- A slash is no word character. -/
theorem isWord_slash : Unicode.isWord '/' = false := by
  decide +kernel

/-- A segment of word characters is one that names may have. -/
theorem plain_of_spelled {segment : String} (spelled : Filename.Spelled segment) : Plain segment := by
  -- Neither a point nor a slash is a word character.
  refine ⟨spelled.1, Filename.not_mem_of_words spelled.2, fun inside => ?_⟩
  have word := spelled.2 _ inside
  rw [isWord_slash] at word
  cases word

/-- A text of word characters is a part that file names may have. -/
theorem slashless_of_spelled {part : String} (spelled : Filename.Spelled part) : Slashless part :=
  ⟨spelled.1, (plain_of_spelled spelled).2.2⟩

namespace Query

/-- The query with the default template of file names. -/
abbrev standard (settings : Settings) : Query :=
  { format := Filename.standard, settings }

/-- Whether a file is loaded when all files of a locale are: it has the extension, and its name tells no other locale.
-/
def concerns (query : Query) (locale path : String) : Bool :=
  decide (Path.extension? path = some query.settings.fileFormat) &&
    ((Path.fileName? path).bind query.format.captures?).any fun captures => captures.locale.getD locale = locale

/-- What is found in those of some files that concern a locale. Each file is given by the names that lead to it. -/
def gathered (query : Query) (source : Source) (locale base : String) (files : List (List String)) :
    List (String × Value) :=
  (files.filter fun names => query.concerns locale ("/".intercalate names)).flatMap fun names =>
    (query.foundIn source locale base ("/".intercalate names)).entries

/-- Those of some files that concern a locale are found by their paths. -/
def Present (query : Query) (source : Source) (locale base : String) (files : List (List String)) : Prop :=
  ∀ names ∈ files, query.concerns locale ("/".intercalate names) = true →
    source.files.isFile (Path.join base ("/".intercalate names)) = true

variable {query : Query} {source : Source} {store : Store} {locale base path : String}

/-- For a locale that is asked for, the files that concern it are loaded, and all others passed over. -/
theorem loadMatching_some (query : Query) (base locale path : String) :
    query.loadMatching base (some locale) path =
      if query.concerns locale path then
        (query.loadFile base path locale >>= fun keys => pure (keys.map (LoadedKey.mk locale)))
      else pure [] := by
  -- The extension is looked at first, and then what the template of names tells of the file.
  unfold loadMatching concerns
  by_cases extension : Path.extension? path = some query.settings.fileFormat
  · rw [if_neg (not_not_intro extension)]
    cases (Path.fileName? path).bind query.format.captures? with
    | none => simp
    | some captures => simp [extension]
  · rw [if_pos extension]
    simp [extension]

/-- A file from which something was found without an error is there. -/
theorem isFile_of_foundIn (found : (query.foundIn source locale base path).error = none) :
    source.files.isFile (Path.join base path) = true := by
  -- What is found was made of data that was read.
  unfold foundIn Source.given at found
  cases reads : source.read (Path.join base path) query.settings.encoding with
  | error error => simp [reads, Except.bind] at found
  | ok data => exact Source.isFile_of_read reads

/-- When all of some files that concern a locale could be loaded, they are there, and what they hold was stored. -/
theorem of_loadMatchings_ok (off : query.settings.memoize = false) (unknown : source.remembered = .empty)
    {files : List (List String)} {loaded : List (List LoadedKey)} {left : Library Source}
    (ends : ((files.map fun names => "/".intercalate names).mapM (query.loadMatching base (some locale))).outcome
      ⟨store, source⟩ = (.ok loaded, left)) :
    left.store = store.putAll (query.gathered source locale base files) locale ∧
      query.Present source locale base files := by
  -- The store grows along the files, while the source stays as it is.
  induction files generalizing store loaded with
  | nil =>
    obtain ⟨-, rfl⟩ := Prod.mk.inj ends
    exact ⟨rfl, List.forall_mem_nil _⟩
  | cons names rest ih =>
    rw [List.map_cons] at ends
    obtain ⟨keys, here, others, loads, onward, rfl⟩ := Lookup.of_mapM_cons_ok ends
    rw [loadMatching_some] at loads
    unfold gathered Present at ih ⊢
    cases concerned : query.concerns locale ("/".intercalate names) with
    | false =>
      rw [concerned, if_neg Bool.false_ne_true] at loads
      obtain ⟨-, rfl⟩ := Prod.mk.inj loads
      obtain ⟨stores, present⟩ := ih onward
      rw [List.filter_cons_of_neg (by simp [concerned])]
      exact ⟨stores, List.forall_mem_cons.2 ⟨by simp [concerned], present⟩⟩
    | true =>
      rw [concerned, if_pos rfl] at loads
      obtain ⟨found, gives, rfl⟩ := Lookup.of_map_ok loads
      rw [loadFile_plain off unknown] at gives
      simp only at gives
      obtain ⟨answers, rfl⟩ := Prod.mk.inj gives
      obtain ⟨stores, present⟩ := ih onward
      rw [List.filter_cons_of_pos (by simp [concerned]), List.flatMap_cons, Store.putAll_append]
      exact ⟨stores, List.forall_mem_cons.2
        ⟨fun _ => isFile_of_foundIn (Finding.error_eq_none answers), present⟩⟩

variable {settings : Settings} {tree : FileTree} {names before : List String} {name : String}

/-- A listed file that concerns a locale is named after a segment, and the directories that lead to it after others. -/
theorem exists_of_concerns (worded : tree.Worded) (listed : names ∈ tree.files)
    (concerned : (Query.standard settings).concerns locale ("/".intercalate names) = true) :
    ∃ before name, names = before ++ [fileName name locale settings.fileFormat] ∧
      ∀ segment ∈ before ++ [name], Filename.Spelled segment := by
  obtain ⟨each, directories⟩ := worded.of_mem_files listed
  unfold concerns at concerned
  rw [Bool.and_eq_true, decide_eq_true_eq] at concerned
  obtain ⟨extension, matched⟩ := concerned
  rcases List.eq_nil_or_concat' names with rfl | ⟨before, file, rfl⟩
  · -- The empty path has no extension.
    have none : Path.extension? ("/".intercalate []) = none := by decide +kernel
    rw [none] at extension
    cases extension
  rw [Path.extension?, Path.fileName?_of_names each, Option.bind_some] at extension
  rw [Path.fileName?_of_names each, Option.bind_some, Option.any_eq_true] at matched
  -- Of the three parts of the name the last one is the extension, and the middle one the locale.
  obtain ⟨captures, captured, tells⟩ := matched
  obtain ⟨space, told, format, spaces, -, formats, rfl, rfl⟩ := Filename.of_captures?_standard captured
  rw [Path.extensionOf?_eq_some (by simp) (Filename.not_mem_of_words formats.2)] at extension
  obtain rfl := Option.some.inj extension
  obtain rfl : told = locale := by simpa using tells
  refine ⟨before, space, rfl, fun segment member => ?_⟩
  rcases List.mem_append.1 member with isBefore | isName
  · exact directories segment (by simpa using isBefore)
  · exact List.mem_singleton.1 isName ▸ spaces

/-- What is found in the file named after a segment has keys of which the segments up to that one are the beginning. -/
theorem exists_of_mem_foundIn {segments : List String} (delimiter : settings.namespaceDelimiter = ".")
    (locales : Filename.Spelled locale) (formats : Filename.Spelled settings.fileFormat)
    (each : ∀ segment ∈ before ++ [name], Filename.Spelled segment) (some : segments ≠ [])
    (spelled : ∀ segment ∈ segments, Filename.Spelled segment)
    (member : Key.ofSegments segments "." ∈ ((Query.standard settings).foundIn source locale base
      (Path.ofPieces (before ++ [fileName name locale settings.fileFormat]))).entries.map Prod.fst) :
    ∃ rest, rest ≠ [] ∧ segments = before ++ name :: rest := by
  have space : (Query.standard settings).spaceOf
      (Path.ofPieces (before ++ [fileName name locale settings.fileFormat])) =
        Key.ofSegments (before ++ [name]) "." := by
    rw [spaceOf_standard (fun segment member => plain_of_spelled (each segment member)) (slashless_of_spelled locales)
      (slashless_of_spelled formats), spaceTold, if_pos ⟨each name (by simp), locales, formats⟩, delimiter]
  -- All keys of the file lie below its namespace.
  obtain ⟨entry, inside, key⟩ := List.mem_map.1 member
  unfold foundIn at inside
  rw [space] at inside
  simp only [delimiter] at inside
  split at inside
  · cases inside
  next found gives =>
  obtain ⟨data, -, spells⟩ := Settings.exists_of_bind gives
  have nonempty : Key.ofSegments (before ++ [name]) "." ≠ "" :=
    Key.ofSegments_ne_empty (by simp) fun segment member => (each segment member).1
  obtain ⟨rest, below⟩ := exists_of_mem_entries nonempty spells entry inside
  rw [key] at below
  have points {others : List String} (words : ∀ segment ∈ others, Filename.Spelled segment) :
      ∀ segment ∈ others, '.' ∉ segment.toList :=
    fun segment member => Filename.not_mem_of_words (words segment member).2
  obtain ⟨more, isMore, whole⟩ := Key.exists_of_below some (points spelled) (by simp) (points each) below
  exact ⟨more, isMore, by simpa using whole⟩

end Query

/-- The names that lead to the files below a load path, in the order in which they are listed. -/
def Source.listed (source : Source) (base : String) : List (List String) :=
  match source.files.lookup base with
  | .ok (.directory entries) => (FileTree.directory entries).files
  | _ => []

section Listed

variable {source : Source} {settings : Settings} {base locale : String} {names : List String}

/-- What is listed below a base is a file of the tree that the base leads to. -/
theorem Source.of_mem_listed (member : names ∈ source.listed base) :
    ∃ tree, source.files.lookup base = .ok tree ∧ names ∈ tree.files := by
  -- Only a directory has files to list.
  unfold listed at member
  split at member
  · next entries place => exact ⟨_, place, member⟩
  · cases member

/-- A file below a load path is listed. -/
theorem Source.mem_listed (directory : base ≠ "") (some : names ≠ []) (each : ∀ name ∈ names, Path.IsName name)
    (isFile : source.files.isFile (Path.join base ("/".intercalate names)) = true) : names ∈ source.listed base := by
  obtain ⟨tree, content, place, reached⟩ := FileTree.exists_reach_of_isFile directory some each isFile
  have member := FileTree.mem_files_of_reach reached
  unfold listed
  rw [place]
  -- A base that is a file has nothing below it.
  cases tree with
  | directory entries => exact member
  | file content =>
    obtain ⟨first, rest, rfl⟩ := List.exists_cons_of_ne_nil some
    cases reached

/-- The files below a load path are listed in the order of the names that lead to them. -/
theorem Source.sorted_listed (worded : ∀ tree, source.files.lookup base = .ok tree → tree.Worded) :
    (source.listed base).Pairwise (· < ·) := by
  -- In a worded tree the entries of every directory are in order.
  unfold listed
  split
  · next entries place => exact (worded _ place).files_sorted
  · exact List.Pairwise.nil

/-- The files of a directory are loaded in the order in which they are listed. -/
theorem Query.loadDirectory_outcome (query : Query) (base : String) (asked : Option String) (library : Library Source) :
    (query.loadDirectory base asked).outcome library =
      (((library.state.listed base).map fun names => "/".intercalate names).mapM (query.loadMatching base asked) >>=
        fun loaded => pure loaded.flatten).outcome library := by
  unfold Query.loadDirectory Source.listed
  rw [Lookup.outcome_bind, Lookup.outcome_get]
  simp only
  -- A load path that is no directory has no files, and nothing is loaded from it.
  cases library.state.files.lookup base with
  | error error => rfl
  | ok tree => cases tree <;> rfl

/-- Loading all files of a locale stores what those that concern it hold, in the order in which they are listed. -/
theorem of_loadEverything_ok (ordinary : Ordinary settings base) (fresh : source.remembered = .empty)
    {loaded : List LoadedKey} {all : Library Source}
    (ends : (searcher.loadEverything (some locale) settings).outcome ⟨.empty, source⟩ = (.ok loaded, all)) :
    let query := Query.standard settings
    all.store = Store.empty.putAll (query.gathered source locale base (source.listed base)) locale ∧
      query.Present source locale base (source.listed base) := by
  intro query
  -- There is one load path, so that everything is what is loaded there.
  have single : searcher.loadEverything (some locale) settings =
      (query.loadDirectory base (some locale) >>= fun loaded => pure [loaded].flatten) := by
    rw [loadEverything_eq (Filename.filename_standard ordinary.template), ordinary.single]
    simp only [List.mapM_cons, List.mapM_nil, pure_bind, bind_assoc]
    rfl
  rw [single] at ends
  obtain ⟨found, loads, rfl⟩ := Lookup.of_map_ok ends
  rw [Query.loadDirectory_outcome] at loads
  obtain ⟨lists, onward, rfl⟩ := Lookup.of_map_ok loads
  exact Query.of_loadMatchings_ok ordinary.memoless fresh onward

end Listed

end Resource

end Phrasebook
