import Phrasebook.Proofs.Resource.Gathered

/-! Loading all files of a locale at once, compared with searching for one key. With the default template of file names
both leave the same message for the key, although files further down may define it too: the file that the search meets
is listed behind all of these. Files that a search meets although they are named after no segment are the exception,
since they are not loaded with the others. -/

namespace Phrasebook

namespace Resource

namespace Query

variable {settings : Settings} {files : FileTree} {base locale : String}

/-- The file named after a segment, by the default template. -/
theorem named?_standard (path segment : String) :
    (Query.standard settings).named? files base locale path segment =
      if files.isFile (Path.join (Path.join base path) (fileName segment locale settings.fileFormat)) then
        some (Path.join path (fileName segment locale settings.fileFormat)) else none := by
  rw [named?, Filename.render_standard]
  rfl

/-- In the standard layout a segment names the file of that segment, its locale and its format. -/
theorem nameOf_standard (segment : String) :
    (Query.standard settings).nameOf locale segment = fileName segment locale settings.fileFormat :=
  Filename.render_standard _ _ _

/-- A search meets a file that is named after a segment, or passes all segments and finds a file that is named after
none. -/
theorem met_or_unnamed {path directory : String} {segments pieces : List String}
    (same : ∀ piece, Path.join (Path.join base path) piece = Path.join directory piece)
    (way : (Query.standard settings).way? files base locale path segments = some pieces) :
    (∃ before name rest, segments = before ++ name :: rest ∧
      FirstMet files locale settings.fileFormat directory before name ∧
        pieces = before ++ [fileName name locale settings.fileFormat]) ∨
    ((∀ before name rest, segments = before ++ name :: rest →
      files.isFile (filePath directory locale settings.fileFormat before name) = false) ∧
        pieces = segments ++ [fileName "" locale settings.fileFormat]) := by
  -- The search goes down the segments, and the directory with it.
  induction segments generalizing path directory pieces with
  | nil =>
    obtain ⟨file, -, rfl⟩ := Option.map_eq_some_iff.1 way
    exact .inr ⟨fun before name rest whole => by simp at whole, by rw [nameOf_standard]; rfl⟩
  | cons segment rest ih =>
    rw [way?, named?_standard, nameOf_standard, same, same] at way
    cases isFile : files.isFile (Path.join directory (fileName segment locale settings.fileFormat)) with
    | true =>
      rw [isFile, if_pos rfl] at way
      obtain rfl := Option.some.inj way
      exact .inl ⟨[], segment, rest, rfl, isFile, rfl⟩
    | false =>
      rw [isFile, if_neg Bool.false_ne_true, Option.map_none, Option.none_or] at way
      split at way
      next onward =>
        obtain ⟨later, passed, rfl⟩ := Option.map_eq_some_iff.1 way
        have below : ∀ piece, Path.join (Path.join base (Path.join path segment)) piece =
            Path.join (Path.join directory segment) piece := fun piece => by rw [← Path.join_assoc base, same]
        rcases ih below passed with ⟨before, name, others, rfl, met, rfl⟩ | ⟨unmet, rfl⟩
        · exact .inl ⟨segment :: before, name, others, rfl, ⟨isFile, onward.2, met⟩, rfl⟩
        · -- Neither here nor further down is there a file that is named after a segment.
          refine .inr ⟨fun before name others whole => ?_, rfl⟩
          cases before with
          | nil =>
            obtain ⟨rfl, -⟩ := List.cons.inj whole
            exact isFile
          | cons first more =>
            obtain ⟨rfl, later⟩ := List.cons.inj whole
            exact unmet more name others later
      next => cases way

end Query

/-- The file that is first met is there. -/
theorem FirstMet.isFile {files : FileTree} {locale format directory name : String} {before : List String}
    (met : FirstMet files locale format directory before name) :
    files.isFile (filePath directory locale format before name) = true := by
  -- Segment by segment, down to the one that the file is named after.
  induction before generalizing directory with
  | nil => exact met
  | cons segment rest ih => exact ih met.2.2

/-- None of the files that are named after segments in front is there. -/
theorem FirstMet.unmet {files : FileTree} {locale format directory name other : String} {front back : List String}
    (met : FirstMet files locale format directory (front ++ other :: back) name) :
    files.isFile (filePath directory locale format front other) = false := by
  -- Segment by segment, down to the one that no file is named after.
  induction front generalizing directory with
  | nil => exact met.1
  | cons segment rest ih => exact ih met.2.2

variable {source : Source} {settings : Settings} {base locale : String} {segments : List String}

/-- What a search leaves for a key comes from the file that it meets. -/
theorem exists_of_search (ordinary : Ordinary settings base) (fresh : source.remembered = .empty) {key : String}
    {keys : List String} {after : Library Source} {value : Value}
    (ends : (searcher.search key locale settings).outcome ⟨.empty, source⟩ = (.ok keys, after))
    (found : after.store.get? key locale = some value) :
    let query := Query.standard settings
    ∃ pieces, query.way? source.files base locale "" (Key.segments key ".").dropLast = some pieces ∧
      Store.lastOf? (query.foundIn source locale base (Path.ofPieces pieces)).entries key = some value := by
  intro query
  obtain ⟨state, -, outcome⟩ := searcher_steady ordinary.memoless fresh key locale ⟨.empty, source⟩ rfl
  rw [outcome] at ends
  obtain ⟨-, rfl⟩ := Prod.mk.inj ends
  rw [Store.get?_putAll, if_pos rfl, finds, Filename.filename_standard ordinary.template] at found
  simp only [Query.finds, ordinary.single, List.filterMap_cons, List.filterMap_nil, Query.target?_eq] at found
  rw [Query.space, ordinary.delimiter] at found
  -- If no file was met, nothing would be stored.
  cases way : query.way? source.files base locale "" (Key.segments key ".").dropLast with
  | none =>
    rw [way] at found
    cases found
  | some pieces =>
    refine ⟨pieces, rfl, ?_⟩
    rw [way] at found
    rw [Option.map_some, Option.map_some, Finding.entries_all_single] at found
    exact (Option.or_none).symm.trans found

/-- A source of which nothing is remembered, with settings to search it: one load path, which is not empty as no
directory has such a path, below which all directories have names of word characters, and a locale and a file format
that are made of them too. -/
structure Orderly (source : Source) (settings : Settings) (base locale : String) : Prop where
  ordinary : Ordinary settings base
  fresh : source.remembered = .empty
  directory : base ≠ ""
  worded : ∀ tree, source.files.lookup base = .ok tree → tree.Worded
  locale : Filename.Spelled locale
  fileFormat : Filename.Spelled settings.fileFormat

namespace Orderly

variable {source : Source} {settings : Settings} {base locale : String}

/-- The names that lead to a file that is named after a segment are names of entries. -/
theorem isName_of_mem (orderly : Orderly source settings base locale) {before : List String} {name : String}
    (each : ∀ segment ∈ before ++ [name], Filename.Spelled segment) :
    ∀ piece ∈ before ++ [fileName name locale settings.fileFormat], Path.IsName piece := by
  -- Segments are made of word characters, and so are the locale and the format behind the last one.
  intro piece member
  rcases List.mem_append.1 member with isBefore | isName
  · have plain := plain_of_spelled (each piece (List.mem_append_left _ isBefore))
    exact ⟨plain.component?, plain.2.2⟩
  · obtain rfl := List.mem_singleton.1 isName
    have plain := plain_of_spelled (each name (by simp))
    exact ⟨component?_fileName plain,
      not_mem_fileName plain (slashless_of_spelled orderly.locale) (slashless_of_spelled orderly.fileFormat)⟩

/-- The path of a file that is named after a segment. -/
theorem join_names (orderly : Orderly source settings base locale) {before : List String} {name : String}
    (each : ∀ segment ∈ before ++ [name], Filename.Spelled segment) :
    Path.join base ("/".intercalate (before ++ [fileName name locale settings.fileFormat])) =
      filePath base locale settings.fileFormat before name := by
  -- Names joined with slashes are names joined one by one.
  rw [← Path.ofPieces_of_names (by simp) (orderly.isName_of_mem each), Path.join_ofPieces (by simp),
    List.foldl_append]
  rfl

/-- A file that is named after a segment concerns the locale. -/
theorem concerns (orderly : Orderly source settings base locale) {before : List String} {name : String}
    (each : ∀ segment ∈ before ++ [name], Filename.Spelled segment) :
    (Query.standard settings).concerns locale
      ("/".intercalate (before ++ [fileName name locale settings.fileFormat])) = true := by
  have last := Path.fileName?_of_names (orderly.isName_of_mem each)
  have named := each name (by simp)
  -- The default template tells the three parts of the name apart.
  have captured : Filename.standard.captures? (fileName name locale settings.fileFormat) =
      some ⟨some name, some locale, some settings.fileFormat⟩ :=
    (Filename.captures?_standard (Filename.not_mem_of_words named.2)).trans
      (if_pos ⟨named, orderly.locale, orderly.fileFormat⟩)
  -- Behind the last point stands the format.
  have extension : Path.extensionOf? (fileName name locale settings.fileFormat) = some settings.fileFormat :=
    Path.extensionOf?_eq_some (by simp) (Filename.not_mem_of_words orderly.fileFormat.2)
  simp [Query.concerns, Path.extension?, last, extension, captured]

/-- The keys of what is gathered are spelled by the segments that lead to one of the files, the one after which it is
named, and others. -/
theorem exists_of_mem_gathered (orderly : Orderly source settings base locale) {segments : List String}
    (some : segments ≠ []) (spelled : ∀ segment ∈ segments, Filename.Spelled segment) {files : List (List String)}
    (listed : ∀ names ∈ files, names ∈ source.listed base)
    (member : Key.ofSegments segments "." ∈
      ((Query.standard settings).gathered source locale base files).map Prod.fst) :
    ∃ before name rest, rest ≠ [] ∧ segments = before ++ name :: rest ∧
      before ++ [fileName name locale settings.fileFormat] ∈ files := by
  obtain ⟨entry, inside, key⟩ := List.mem_map.1 member
  obtain ⟨names, isNames, inside⟩ := List.mem_flatMap.1 inside
  obtain ⟨isNames, concerned⟩ := List.mem_filter.1 isNames
  obtain ⟨tree, place, inTree⟩ := Source.of_mem_listed (listed names isNames)
  -- A file that concerns the locale is named after a segment.
  obtain ⟨before, name, rfl, each⟩ := Query.exists_of_concerns (orderly.worded tree place) inTree concerned
  rw [← Path.ofPieces_of_names (by simp) (orderly.isName_of_mem each)] at inside
  obtain ⟨rest, more, whole⟩ := Query.exists_of_mem_foundIn orderly.ordinary.delimiter orderly.locale
    orderly.fileFormat each some spelled (List.mem_map.2 ⟨entry, inside, key⟩)
  exact ⟨before, name, rest, more, whole, isNames⟩

end Orderly

/-- A file that some segments lead to stands behind those in the directories that are named after one of them. -/
theorem names_lt {before : List String} (name : String) (rest : List String) (locale format : String) :
    before ++ name :: rest < before ++ [fileName name locale format] := by
  -- A name is smaller than a longer one that begins with it.
  have longer : (fileName name locale format).toList =
      name.toList ++ '.' :: (locale.toList ++ '.' :: format.toList) := by
    simp [fileName]
  have smaller : name.toList ++ [] < name.toList ++ '.' :: (locale.toList ++ '.' :: format.toList) :=
    List.append_left_lt (List.nil_lt_cons _ _)
  refine List.append_left_lt (List.cons_lt_cons_iff.2 (.inl ?_))
  rwa [String.lt_iff_toList_lt, longer, ← List.append_nil name.toList, List.append_assoc, List.nil_append]

/-- Two ways to cut a list at an item: at the same one, or one behind the other. -/
theorem append_cons_cases {α : Type} {front front' back back' : List α} {x x' : α}
    (same : front ++ x :: back = front' ++ x' :: back') :
    (front = front' ∧ x = x') ∨ (∃ between, front' = front ++ x :: between) ∨
      ∃ between, front = front' ++ x' :: between := by
  -- One of the two beginnings is a beginning of the other; they differ by nothing, or by the item and more.
  rcases List.append_eq_append_iff.1 same with ⟨between, rfl, cut⟩ | ⟨between, rfl, cut⟩
  · cases between with
    | nil => exact .inl ⟨(List.append_nil _).symm, (List.cons.inj cut).1⟩
    | cons first rest =>
      obtain ⟨rfl, -⟩ := List.cons.inj cut
      exact .inr (.inl ⟨rest, rfl⟩)
  · cases between with
    | nil => exact .inl ⟨List.append_nil _, (List.cons.inj cut).1.symm⟩
    | cons first rest =>
      obtain ⟨rfl, -⟩ := List.cons.inj cut
      exact .inr (.inr ⟨rest, rfl⟩)

/-- What stands behind an item that is not the last one goes on to the end of the list. -/
theorem init_of_concat {α : Type} {front before rest : List α} {final name : α}
    (whole : front ++ [final] = before ++ name :: rest) (more : rest ≠ []) :
    front = before ++ name :: rest.dropLast := by
  -- The last item is that of what stands behind.
  have init := congrArg List.dropLast whole
  rwa [List.dropLast_concat, List.dropLast_append_of_ne_nil (List.cons_ne_nil _ _),
    List.dropLast_cons_of_ne_nil more] at init

section Agreement

variable {source : Source} {settings : Settings} {base locale : String} {segments : List String}

/-- Files that are listed behind the one that a search meets first do not have the key, if all that concern the locale
are there. -/
theorem Orderly.not_mem_gathered (orderly : Orderly source settings base locale) (some : segments ≠ [])
    (spelled : ∀ segment ∈ segments, Filename.Spelled segment) {before rest : List String} {name : String}
    (whole : segments = before ++ name :: rest)
    (met : FirstMet source.files locale settings.fileFormat base before name) {back : List (List String)}
    (behind : ∀ names ∈ back, before ++ [fileName name locale settings.fileFormat] < names)
    (listed : ∀ names ∈ back, names ∈ source.listed base)
    (present : (Query.standard settings).Present source locale base (source.listed base)) :
    Key.ofSegments segments "." ∉ ((Query.standard settings).gathered source locale base back).map Prod.fst := by
  intro member
  obtain ⟨others, other, more, -, alsoWhole, inside⟩ := orderly.exists_of_mem_gathered some spelled listed member
  have each : ∀ segment ∈ others ++ [other], Filename.Spelled segment := fun segment member =>
    spelled segment (alsoWhole ▸ mem_of_mem_named member)
  -- The other file is named after the same segment, one behind it, or one in front of it.
  rcases append_cons_cases (whole.symm.trans alsoWhole) with ⟨rfl, rfl⟩ | ⟨between, rfl⟩ | ⟨between, rfl⟩
  · exact lt_irrefl _ (behind _ inside)
  · -- Further down are the files in the directory of the segment, which are listed before.
    have before := behind _ inside
    rw [List.append_assoc, List.cons_append] at before
    exact lt_asymm before (names_lt _ _ _ _)
  · -- Further up the search has looked for the file, and would have met it.
    have absent := met.unmet
    have isFile := present _ (listed _ inside) (orderly.concerns each)
    rw [orderly.join_names each, absent] at isFile
    cases isFile

/-- If a search meets a file that is named after a segment, what this file has for the key is the last that is gathered
of all files. -/
theorem Orderly.lastOf?_gathered (orderly : Orderly source settings base locale) (some : segments ≠ [])
    (spelled : ∀ segment ∈ segments, Filename.Spelled segment) {before rest : List String} {name : String}
    (whole : segments = before ++ name :: rest)
    (met : FirstMet source.files locale settings.fileFormat base before name)
    (present : (Query.standard settings).Present source locale base (source.listed base)) {value : Value}
    (last : Store.lastOf? ((Query.standard settings).foundIn source locale base
      (Path.ofPieces (before ++ [fileName name locale settings.fileFormat]))).entries (Key.ofSegments segments ".") =
        .some value) :
    Store.lastOf? ((Query.standard settings).gathered source locale base (source.listed base))
      (Key.ofSegments segments ".") = .some value := by
  have each : ∀ segment ∈ before ++ [name], Filename.Spelled segment := fun segment member =>
    spelled segment (whole ▸ mem_of_mem_named member)
  have listed : before ++ [fileName name locale settings.fileFormat] ∈ source.listed base :=
    Source.mem_listed orderly.directory (by simp) (orderly.isName_of_mem each)
      (by rw [orderly.join_names each]; exact met.isFile)
  -- The list is cut at the file: those behind it are greater.
  have sorted := Source.sorted_listed orderly.worded
  obtain ⟨ahead, back, isListed⟩ := List.append_of_mem listed
  rw [isListed] at sorted
  have behind := (List.pairwise_cons.1 (List.pairwise_append.1 sorted).2.1).1
  have absent := orderly.not_mem_gathered some spelled whole met behind
    (fun names member => by simp [isListed, member]) present
  -- What is gathered of the file stands between what is gathered of the others.
  have parts : (Query.standard settings).gathered source locale base (source.listed base) =
      (Query.standard settings).gathered source locale base ahead ++
        (((Query.standard settings).foundIn source locale base
          (Path.ofPieces (before ++ [fileName name locale settings.fileFormat]))).entries ++
        (Query.standard settings).gathered source locale base back) := by
    rw [Path.ofPieces_of_names (by simp) (orderly.isName_of_mem each), isListed]
    simp [Query.gathered, orderly.concerns each]
  rw [parts, Store.lastOf?_append, Store.lastOf?_append, Store.lastOf?_eq_none_iff.2 absent, last]
  rfl

/-- If no file is named after a segment, nothing is gathered for the key. -/
theorem Orderly.lastOf?_gathered_of_unmet (orderly : Orderly source settings base locale) {front : List String}
    {final : String} (spelled : ∀ segment ∈ front ++ [final], Filename.Spelled segment)
    (unmet : ∀ before name rest, front = before ++ name :: rest →
      source.files.isFile (filePath base locale settings.fileFormat before name) = false)
    (present : (Query.standard settings).Present source locale base (source.listed base)) :
    Store.lastOf? ((Query.standard settings).gathered source locale base (source.listed base))
      (Key.ofSegments (front ++ [final]) ".") = none := by
  rw [Store.lastOf?_eq_none_iff]
  intro member
  obtain ⟨before, name, rest, more, whole, inside⟩ :=
    orderly.exists_of_mem_gathered (by simp) spelled (fun _ => id) member
  have each : ∀ segment ∈ before ++ [name], Filename.Spelled segment := fun segment member =>
    spelled segment (whole ▸ mem_of_mem_named member)
  -- The file that the key would come from would have to be there.
  have isFile := present _ inside (orderly.concerns each)
  rw [orderly.join_names each, unmet before name rest.dropLast (init_of_concat whole more)] at isFile
  cases isFile

/-- Loading all files of a locale leaves the message for a key that searching for the key leaves, exactly if the search
meets a file that is named after a segment of the namespace. Otherwise the search has found a file that is named after
the locale alone, and that is not loaded with the others. -/
theorem loadEverything_agrees_iff (orderly : Orderly source settings base locale) (some : segments ≠ [])
    (spelled : ∀ segment ∈ segments, Filename.Spelled segment) {keys : List String} {after : Library Source}
    {value : Value} {loaded : List LoadedKey} {all : Library Source}
    (searched : (searcher.search (Key.ofSegments segments ".") locale settings).outcome ⟨.empty, source⟩ =
      (.ok keys, after))
    (found : after.store.get? (Key.ofSegments segments ".") locale = .some value)
    (everything : (searcher.loadEverything (.some locale) settings).outcome ⟨.empty, source⟩ = (.ok loaded, all)) :
    all.store.get? (Key.ofSegments segments ".") locale = .some value ↔
      ∃ before name rest, rest ≠ [] ∧ segments = before ++ name :: rest ∧
        FirstMet source.files locale settings.fileFormat base before name := by
  obtain ⟨pieces, way, last⟩ := exists_of_search orderly.ordinary orderly.fresh searched found
  obtain ⟨stores, present⟩ := of_loadEverything_ok orderly.ordinary orderly.fresh everything
  have cut : Key.segments (Key.ofSegments segments ".") "." = segments :=
    Key.segments_ofSegments some fun segment member => Filename.not_mem_of_words (spelled segment member).2
  obtain ⟨front, final, rfl⟩ := (List.eq_nil_or_concat' segments).resolve_left some
  rw [cut, List.dropLast_concat] at way
  have gets : all.store.get? (Key.ofSegments (front ++ [final]) ".") locale =
      Store.lastOf? ((Query.standard settings).gathered source locale base (source.listed base))
        (Key.ofSegments (front ++ [final]) ".") := by
    rw [stores, Store.get?_putAll, if_pos rfl]
    exact Option.or_none
  have start (piece : String) : Path.join (Path.join base "") piece = Path.join base piece := by
    rw [Path.join_assoc, Path.join_empty]
  rw [gets]
  rcases Query.met_or_unnamed start way with ⟨before, name, rest, rfl, met, rfl⟩ | ⟨unmet, -⟩
  · -- The segment that the file is named after is not the last one of the key, which is no part of its namespace.
    have whole : before ++ name :: rest ++ [final] = before ++ name :: (rest ++ [final]) := by simp
    exact iff_of_true (orderly.lastOf?_gathered some spelled whole met present last)
      ⟨before, name, rest ++ [final], by simp, whole, met⟩
  · -- No file that could be loaded defines the key.
    rw [orderly.lastOf?_gathered_of_unmet spelled unmet present]
    refine iff_of_false (by simp) ?_
    rintro ⟨before, name, rest, more, whole, met⟩
    have isFile := met.isFile
    rw [unmet before name rest.dropLast (init_of_concat whole more)] at isFile
    cases isFile

end Agreement

/-- A directory with one entry. -/
theorem worded_single {name : String} {tree : FileTree} (named : Path.IsName name)
    (words : tree.IsDirectory → Filename.Spelled name) (below : tree.Worded) :
    FileTree.Worded (.directory ⟨[(name, tree)]⟩) :=
  .directory (List.pairwise_singleton _ _) (List.forall_mem_singleton.2 named) (List.forall_mem_singleton.2 words)
    (List.forall_mem_singleton.2 below)

/-- Settings to search one directory, and files there whose names are made of word characters. -/
theorem orderly_greeting {entries : Dict FileTree} (worded : FileTree.Worded (.directory entries)) :
    Orderly { files := .directory ⟨[("app", .directory entries)]⟩, formats := .standard } greeting "/app" "en" where
  -- There is one directory, and the tree below it is worded.
  ordinary := ⟨rfl, rfl, rfl, rfl, by decide +kernel⟩
  fresh := rfl
  directory := by decide
  worded tree place := by
    refine FileTree.Worded.of_lookup (worded_single ?_ (fun _ => ?_) worded) place
    · decide +kernel
    · decide +kernel
  locale := by decide +kernel
  fileFormat := by decide +kernel

/-- A file, and another one below the directory of the same name, that define the same key. -/
def layers : Dict FileTree :=
  ⟨[("a", .directory ⟨[("b.en.yml", .file "en:\n  c: below\n".toUTF8)]⟩),
    ("a.en.yml", .file "en:\n  b:\n    c: above\n".toUTF8)]⟩

/-- The names in the tree of layers are words. -/
theorem worded_layers : FileTree.Worded (.directory layers) := by
  -- Both names are told by computing, and the one directory is a directory on its own.
  have below : FileTree.Worded (.directory ⟨[("b.en.yml", .file "en:\n  c: below\n".toUTF8)]⟩) :=
    worded_single (by decide +kernel) (by rintro ⟨_, ⟨⟩⟩) (.file _)
  refine .directory (by unfold Dict.Ordered; decide +kernel) (by decide +kernel) ?_ ?_
  · refine List.forall_mem_cons.2 ⟨fun _ => by decide +kernel, List.forall_mem_singleton.2 ?_⟩
    rintro ⟨_, ⟨⟩⟩
  · exact List.forall_mem_cons.2 ⟨below, List.forall_mem_singleton.2 (.file _)⟩

/-- Of the two files the search meets one only, and both are loaded with all files, but the same message is left. -/
theorem loadEverything_agrees_iff_layers :
    let source : Source := { files := .directory ⟨[("app", .directory layers)]⟩, formats := .standard }
    let key := Key.ofSegments ["a", "b", "c"] "."
    let searched := (searcher.search key "en" greeting).outcome ⟨.empty, source⟩
    let all := (searcher.loadEverything (some "en") greeting).outcome ⟨.empty, source⟩
    searched.1 = .ok ["a.b.c"] ∧ searched.2.store.get? key "en" = some (.scalar "above") ∧
      all.1 = .ok [⟨"en", "a.b.c"⟩, ⟨"en", "a.b.c"⟩] ∧
      all.2.store.get? key "en" = some (.scalar "above") := by
  -- What is loaded is computed; that the same message is left follows from no file being met below the first one.
  intro source key searched all
  have searches : searched.1 = .ok ["a.b.c"] := by decide +kernel
  have found : searched.2.store.get? key "en" = some (.scalar "above") := by decide +kernel
  have everything : all.1 = .ok [⟨"en", "a.b.c"⟩, ⟨"en", "a.b.c"⟩] := by decide +kernel
  exact ⟨searches, found, everything, (loadEverything_agrees_iff (orderly_greeting worded_layers) (by simp)
    (by decide +kernel) (Prod.ext searches rfl) found (Prod.ext everything rfl)).2
      ⟨[], "a", ["b", "c"], by simp, rfl, by decide +kernel⟩⟩

/-- A file that is named after the locale alone is found by a search, but is not loaded with all files. -/
theorem loadEverything_misses_unnamed :
    let file : Dict FileTree := ⟨[(".en.yml", .file "en:\n  hi: Hello\n".toUTF8)]⟩
    let source : Source := { files := .directory ⟨[("app", .directory file)]⟩, formats := .standard }
    let searched := (searcher.search (Key.ofSegments ["hi"] ".") "en" greeting).outcome ⟨.empty, source⟩
    let all := (searcher.loadEverything (some "en") greeting).outcome ⟨.empty, source⟩
    Orderly source greeting "/app" "en" ∧ Filename.Spelled "hi" ∧
      searched.1 = .ok ["hi"] ∧ searched.2.store.get? (Key.ofSegments ["hi"] ".") "en" = some (.scalar "Hello") ∧
      all.1 = .ok [] ∧ all.2.store.get? (Key.ofSegments ["hi"] ".") "en" = none := by
  -- The name begins with a point, so that no segment is in front of the locale; both runs are computed.
  intro file
  have worded : FileTree.Worded (.directory file) :=
    worded_single (by decide +kernel) (by rintro ⟨_, ⟨⟩⟩) (.file _)
  exact ⟨orderly_greeting worded, by decide +kernel, by decide +kernel, by decide +kernel, by decide +kernel,
    by decide +kernel⟩

end Resource

end Phrasebook
