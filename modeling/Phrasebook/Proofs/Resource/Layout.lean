import Phrasebook.Proofs.Filename.Standard
import Phrasebook.Proofs.Resource.Entries
import Phrasebook.Proofs.Resource.Inside
import Phrasebook.Proofs.Resource.Plain

/-! What a search stores for a key whose file lies where its namespace says. Main statement: with the default template
of file names, the message is stored under the key exactly if what the file is named after is spelled in word
characters; otherwise the messages of the file lose a segment of their namespace. -/

namespace Phrasebook

namespace Path

variable {pieces : List String}

/-- Names joined one behind the other are the parts of the path. -/
theorem parts_ofPieces (some : pieces ≠ []) (plain : ∀ piece ∈ pieces, piece ≠ "" ∧ '/' ∉ piece.toList) :
    parts (ofPieces pieces) = pieces := by
  induction pieces using List.reverseRecOn with
  | nil => exact absurd rfl some
  | append_singleton rest piece ih =>
    have slashless := (plain piece (by simp)).2
    have relative := isAbsolute_of_plain slashless
    rw [ofPieces, List.foldl_append, List.foldl_cons, List.foldl_nil, ← ofPieces]
    by_cases alone : rest = []
    · subst alone
      rw [show ofPieces [] = "" from rfl, join_empty, parts_of_plain slashless, List.nil_append]
    · have before := ih alone fun other member => plain other (by simp [member])
      have nonempty : ofPieces rest ≠ "" := by
        intro empty
        rw [empty, parts_empty] at before
        exact (plain "" (by simp [← before])).1 rfl
      obtain ⟨front, whole, same | same, _⟩ := parts_join nonempty relative
      · rw [whole, ← same, before, parts_of_plain slashless]
      · -- None of the names is empty.
        rw [before] at same
        exact absurd rfl (plain "" (by simp [same])).1

/-- A path of names leads to the last one through the directories of the others. -/
theorem components_ofPieces (some : pieces ≠ [])
    (plain : ∀ piece ∈ pieces, component? piece = .some (.name piece) ∧ '/' ∉ piece.toList) :
    components (ofPieces pieces) = pieces.map .name := by
  have whole : parts (ofPieces pieces) = pieces := parts_ofPieces some fun piece member => by
    obtain ⟨named, slashless⟩ := plain piece member
    exact ⟨fun empty => by simp [empty, component?] at named, slashless⟩
  have relative : isAbsolute (ofPieces pieces) = false :=
    (inward_ofPieces.2 fun piece member => by
      obtain ⟨named, slashless⟩ := plain piece member
      exact (inward_iff_of_plain slashless).2 fun above => by simp [above, component?] at named).1
  -- A point in front would count as a component of a relative path, but it is no name.
  have ahead : pieces.head? ≠ .some "." := by
    intro here
    have named := (plain "." (List.mem_of_mem_head? here)).1
    simp [component?] at named
  rw [components, whole, relative, if_neg Bool.false_ne_true, if_neg ahead]
  exact List.filterMap_eq_map_iff_forall_eq_some.2 fun piece member => (plain piece member).1

/-- Pieces are joined to a directory one by one. -/
theorem join_ofPieces (some : pieces ≠ []) (base : String) : join base (ofPieces pieces) = pieces.foldl join base := by
  -- Joining is associative, so that the directory may come first or last.
  have onward (path : String) (rest : List String) :
      join base (rest.foldl join path) = rest.foldl join (join base path) := by
    induction rest generalizing path with
    | nil => rfl
    | cons piece rest ih => rw [List.foldl_cons, ih, List.foldl_cons, join_assoc]
  obtain ⟨piece, rest, rfl⟩ := List.exists_cons_of_ne_nil some
  rw [ofPieces, List.foldl_cons, onward, join_empty, List.foldl_cons]

end Path

/-- A message that is the only one of its key is the last one. -/
theorem Store.lastOf?_of_only {entries : List (String × Value)} {key : String} {value : Value}
    (member : (key, value) ∈ entries) (only : ∀ other, (key, other) ∈ entries → other = value) :
    lastOf? entries key = some value := by
  -- Some message of the key is the last one, and there is only one.
  obtain ⟨last, found⟩ := Option.ne_none_iff_exists'.1 fun none =>
    lastOf?_eq_none_iff.1 none (List.mem_map_of_mem member)
  obtain ⟨⟨other, held⟩, first, rfl⟩ := Option.map_eq_some_iff.1 found
  obtain rfl : other = key := by simpa using List.find?_some first
  rw [found, only held (List.mem_reverse.1 (List.mem_of_find?_eq_some first))]

namespace Resource

/-- A segment of a key: there is something in it, but no point and no slash. -/
def Plain (segment : String) : Prop :=
  segment ≠ "" ∧ '.' ∉ segment.toList ∧ '/' ∉ segment.toList

instance (segment : String) : Decidable (Plain segment) :=
  inferInstanceAs (Decidable (_ ∧ _))

/-- A part of a file name: there is something in it, but no slash. -/
def Slashless (part : String) : Prop :=
  part ≠ "" ∧ '/' ∉ part.toList

instance (part : String) : Decidable (Slashless part) :=
  inferInstanceAs (Decidable (_ ∧ _))

/-- The name of the file for a segment. -/
def fileName (segment locale format : String) : String :=
  segment ++ "." ++ locale ++ "." ++ format

/-- The file named after a segment is the first one met on the way from a directory down the segments before it. -/
def FirstMet (files : FileTree) (locale format : String) : String → List String → String → Prop
  | directory, [], name => files.isFile (Path.join directory (fileName name locale format)) = true
  | directory, segment :: before, name =>
    files.isFile (Path.join directory (fileName segment locale format)) = false ∧
      files.isDirectory (Path.join directory segment) = true ∧
        FirstMet files locale format (Path.join directory segment) before name

instance FirstMet.decidable (files : FileTree) (locale format : String) :
    ∀ directory before name, Decidable (FirstMet files locale format directory before name)
  | _, [], _ => inferInstanceAs (Decidable (_ = true))
  | directory, segment :: before, name =>
    have := FirstMet.decidable files locale format (Path.join directory segment) before name
    inferInstanceAs (Decidable (_ ∧ _ ∧ _))

/-- The path of a file in the directory that some segments lead to. -/
def filePath (base locale format : String) (before : List String) (name : String) : String :=
  Path.join (before.foldl Path.join base) (fileName name locale format)

/-- Settings with the default template of file names and delimiter of namespaces, without a memo, and with one load
path. -/
structure Ordinary (settings : Settings) (base : String) : Prop where
  template : settings.filenameFormat = ({} : Settings).filenameFormat
  delimiter : settings.namespaceDelimiter = "."
  memoless : settings.memoize = false
  single : settings.loadPath = [base]
  fileFormat : Slashless settings.fileFormat

/-- A file on the way down a namespace holds a text for a key: it is the first one met, nothing is remembered of it, it
is read without an error, and the text is the only message of its key. -/
structure Promises (library : Library Source) (settings : Settings) (base locale : String) (before : List String)
    (name : String) (rest : List String) (data : Dict Json) (text : String) : Prop where
  met : FirstMet library.state.files locale settings.fileFormat base before name
  unknown : library.state.remembered.get?
    (library.state.placeOf (filePath base locale settings.fileFormat before name)) = none
  given : library.state.given (filePath base locale settings.fileFormat before name)
    (Query.rootOf settings locale) settings = .ok data
  holds : textAt? data.entries rest = some text
  only : ∃ found, entries "." (Key.ofSegments (before ++ [name]) ".") data.entries = .ok found ∧
    ∀ value, (Key.ofSegments (before ++ name :: rest) ".", value) ∈ found → value = .scalar text

/-- Whether a file holds a text for a key, as a computation. -/
def promised (library : Library Source) (settings : Settings) (base locale : String) (before : List String)
    (name : String) (rest : List String) (text : String) : Bool :=
  let path := filePath base locale settings.fileFormat before name
  decide (FirstMet library.state.files locale settings.fileFormat base before name) &&
    (library.state.remembered.get? (library.state.placeOf path)).isNone &&
    match library.state.given path (Query.rootOf settings locale) settings with
    | .error _ => false
    | .ok data =>
      textAt? data.entries rest == some text &&
        match entries "." (Key.ofSegments (before ++ [name]) ".") data.entries with
        | .error _ => false
        | .ok found => found.all fun entry =>
          entry.1 ≠ Key.ofSegments (before ++ name :: rest) "." || entry.2 = .scalar text

/-- The computation finds the promises that are made. -/
theorem promised_iff {library : Library Source} {settings : Settings} {base locale : String} {before : List String}
    {name : String} {rest : List String} {text : String} :
    promised library settings base locale before name rest text = true ↔
      ∃ data, Promises library settings base locale before name rest data text := by
  -- The computation makes the same tests one after the other.
  unfold promised
  simp only [Bool.and_eq_true, decide_eq_true_eq, Option.isNone_iff_eq_none, and_assoc]
  constructor
  · rintro ⟨met, unknown, rest⟩
    split at rest
    · cases rest
    · next data given =>
      rw [Bool.and_eq_true, beq_iff_eq] at rest
      obtain ⟨holds, rest⟩ := rest
      split at rest
      · cases rest
      · next found spells =>
        refine ⟨data, met, unknown, given, holds, found, spells, fun value member => ?_⟩
        simpa using List.all_eq_true.1 rest _ member
  · rintro ⟨data, met, unknown, given, holds, found, spells, only⟩
    refine ⟨met, unknown, ?_⟩
    simp only [given, holds, spells, BEq.rfl, Bool.true_and, List.all_eq_true]
    intro entry member
    by_cases same : entry.1 = Key.ofSegments (before ++ name :: rest) "."
    · simpa [same] using only entry.2 (same ▸ member)
    · simp [same]

/-- The name of a file is a plain name. -/
theorem component?_fileName {name locale format : String} (plain : Plain name) :
    Path.component? (fileName name locale format) = some (.name (fileName name locale format)) := by
  -- It does not start with a point.
  obtain ⟨c, more, spelled⟩ := List.exists_cons_of_ne_nil (show name.toList ≠ [] by simpa using plain.1)
  have first : c ≠ '.' := fun point => plain.2.1 (by simp [spelled, point])
  have starts : (fileName name locale format).toList.head? = some c := by
    simp [fileName, spelled]
  have differs {text : String} (other : text.toList.head? ≠ some c) : fileName name locale format ≠ text :=
    fun same => other (same ▸ starts)
  rw [Path.component?, if_neg, if_neg (differs (by simpa using first.symm))]
  rw [not_or]
  exact ⟨differs (by simp), differs (by simpa using first.symm)⟩

/-- The name of a file holds no slash. -/
theorem not_mem_fileName {name locale format : String} (plain : Plain name) (slashless : Slashless locale)
    (alsoSlashless : Slashless format) : '/' ∉ (fileName name locale format).toList := by
  simp [fileName, plain.2.2, slashless.2, alsoSlashless.2]

/-- A segment is a plain name. -/
theorem Plain.component? {segment : String} (plain : Plain segment) :
    Path.component? segment = some (.name segment) := by
  -- A plain segment is neither empty nor made of points.
  rw [Path.component?, if_neg, if_neg]
  · exact fun above => plain.2.1 (by simp [above])
  · rw [not_or]
    exact ⟨plain.1, fun point => plain.2.1 (by simp [point])⟩

/-- The namespace that the messages of a file get: without the segment that the file is named after unless all parts of
its name are spelled in word characters. -/
def spaceTold (settings : Settings) (locale : String) (before : List String) (name : String) : String :=
  Key.ofSegments (if Filename.Spelled name ∧ Filename.Spelled locale ∧ Filename.Spelled settings.fileFormat
    then before ++ [name] else before) settings.namespaceDelimiter

namespace Query

variable {settings : Settings} {library : Library Source} {base locale name : String} {before rest : List String}

/-- The path of a file tells its namespace. -/
theorem spaceOf_standard (segments : ∀ segment ∈ before ++ [name], Plain segment) (localePlain : Slashless locale)
    (formatPlain : Slashless settings.fileFormat) :
    (Query.mk Filename.standard settings).spaceOf
        (Path.ofPieces (before ++ [fileName name locale settings.fileFormat])) =
      spaceTold settings locale before name := by
  have isPlain : Plain name := segments name (by simp)
  have components : Path.components (Path.ofPieces (before ++ [fileName name locale settings.fileFormat])) =
      (before ++ [fileName name locale settings.fileFormat]).map .name :=
    Path.components_ofPieces (by simp) fun piece member => by
      rcases List.mem_append.1 member with isBefore | isName
      · have plain := segments piece (List.mem_append_left _ isBefore)
        exact ⟨plain.component?, plain.2.2⟩
      · obtain rfl := List.mem_singleton.1 isName
        exact ⟨component?_fileName isPlain, not_mem_fileName isPlain localePlain formatPlain⟩
  -- The directories are those in front of the file, and the name behind them tells its parts.
  have names : Path.parentNames (Path.ofPieces (before ++ [fileName name locale settings.fileFormat])) = before := by
    rw [Path.parentNames, components]
    simp [List.filterMap_map]
  have last : Path.fileName? (Path.ofPieces (before ++ [fileName name locale settings.fileFormat])) =
      some (fileName name locale settings.fileFormat) := by
    rw [Path.fileName?, components]
    simp
  rw [spaceOf, Filename.Format.spaceOf, names, last, Option.bind_some, fileName,
    Filename.captures?_standard isPlain.2.1, spaceTold]
  split <;> simp

/-- The first file met is the one that is loaded. -/
theorem way?_of_firstMet {path directory : String}
    (met : FirstMet library.state.files locale settings.fileFormat directory before name)
    (same : ∀ piece, Path.join (Path.join base path) piece = Path.join directory piece)
    (segments : ∀ segment ∈ before, Plain segment) :
    (Query.mk Filename.standard settings).way? library.state.files base locale path (before ++ name :: rest) =
      some (before ++ [fileName name locale settings.fileFormat]) := by
  -- A file is looked for under the name that the default template gives.
  have asked (path segment : String) : (Query.mk Filename.standard settings).named? library.state.files base locale path
      segment = if library.state.files.isFile (Path.join (Path.join base path)
        (fileName segment locale settings.fileFormat)) then
        some (Path.join path (fileName segment locale settings.fileFormat)) else none := by
    rw [named?, Filename.render_standard]
    rfl
  induction before generalizing path directory with
  | nil =>
    rw [FirstMet, ← same] at met
    rw [List.nil_append, way?, asked, if_pos met, nameOf, Filename.render_standard]
    rfl
  | cons segment more ih =>
    obtain ⟨absent, isDirectory, onward⟩ := met
    rw [← same] at absent isDirectory
    obtain ⟨here, later⟩ := List.forall_mem_cons.1 segments
    -- What is below the next directory is found by one more piece of the path.
    have below : ∀ piece, Path.join (Path.join base (Path.join path segment)) piece =
        Path.join (Path.join directory segment) piece := fun piece => by
      rw [← Path.join_assoc base, same]
    rw [List.cons_append, way?, asked, absent, if_neg Bool.false_ne_true, if_pos ⟨here.1, isDirectory⟩,
      ih onward below later]
    rfl

end Query

variable {settings : Settings} {library : Library Source} {base locale name text : String} {before rest : List String}
  {data : Dict Json}

/-- The segments up to the one that a file is named after are some of the key. -/
theorem mem_of_mem_named {segment : String} (member : segment ∈ before ++ [name]) :
    segment ∈ before ++ name :: rest := by
  rw [← List.singleton_append, ← List.append_assoc]
  exact List.mem_append_left _ member

/-- A search stores the messages of the first file met in the namespace that is told by its path. -/
theorem Promises.search_outcome (promises : Promises library settings base locale before name rest data text)
    (ordinary : Ordinary settings base) (localePlain : Slashless locale)
    (segments : ∀ segment ∈ before ++ name :: rest, Plain segment) (more : rest ≠ []) {found : List (String × Value)}
    (spells : entries "." (spaceTold settings locale before name) data.entries = .ok found) :
    (searcher.search (Key.ofSegments (before ++ name :: rest) ".") locale settings).outcome library =
      (.ok (found.map Prod.fst), { library with store := library.store.putAll found locale }) := by
  have filename := Filename.filename_standard ordinary.template
  have space : (Query.mk Filename.standard settings).space (Key.ofSegments (before ++ name :: rest) ".") =
      before ++ name :: rest.dropLast := by
    have cut : Key.segments (Key.ofSegments (before ++ name :: rest) ".") "." = before ++ name :: rest :=
      Key.segments_ofSegments (by simp) fun segment member => (segments segment member).2.1
    have shorter : (before ++ name :: rest).dropLast = before ++ name :: rest.dropLast := by
      rw [List.dropLast_append_of_ne_nil (List.cons_ne_nil _ _), List.dropLast_cons_of_ne_nil more]
    rw [Query.space, ordinary.delimiter, ← shorter]
    exact congrArg List.dropLast cut
  have way : (Query.mk Filename.standard settings).way? library.state.files base locale ""
      (before ++ name :: rest.dropLast) = some (before ++ [fileName name locale settings.fileFormat]) :=
    Query.way?_of_firstMet promises.met (fun piece => by rw [Path.join_assoc, Path.join_empty])
      fun segment member => segments segment (List.mem_append_left _ member)
  -- There is one load path, so that one file is read.
  have reads : (Query.mk Filename.standard settings).reads library.state.files locale
      (before ++ name :: rest.dropLast) settings.loadPath =
        [(base, before ++ [fileName name locale settings.fileFormat])] := by
    rw [ordinary.single, Query.reads_cons, way]
    rfl
  have path : Path.join base (Path.ofPieces (before ++ [fileName name locale settings.fileFormat])) =
      filePath base locale settings.fileFormat before name := by
    rw [Path.join_ofPieces (by simp), List.foldl_append]
    rfl
  -- Nothing is remembered of the file: it is read and all its messages are put in.
  have loads : ((Query.mk Filename.standard settings).loadFile base
      (Path.ofPieces (before ++ [fileName name locale settings.fileFormat])) locale).outcome library =
      (.ok (found.map Prod.fst), { library with store := library.store.putAll found locale }) := by
    have told := Query.spaceOf_standard (fun segment member => segments segment (mem_of_mem_named member))
      localePlain ordinary.fileFormat
    rw [Query.loadFile_outcome, path]
    simp only
    rw [load_memoless ordinary.memoless promises.unknown, promises.given]
    simp only [told]
    rw [Query.store_outcome, ordinary.delimiter, spells]
  rw [search_eq filename, space]
  rw [Query.descends_eq_reads, reads, List.mapM_cons]
  simp only [Lookup.outcome_bind, Query.loadRead, loads]
  simp

/-- With the right namespace the text is the last message of its key. -/
theorem Promises.lastOf? (promises : Promises library settings base locale before name rest data text)
    (segments : ∀ segment ∈ before ++ name :: rest, Plain segment) {found : List (String × Value)}
    (spells : entries "." (Key.ofSegments (before ++ [name]) ".") data.entries = .ok found) :
    Store.lastOf? found (Key.ofSegments (before ++ name :: rest) ".") = some (.scalar text) := by
  -- The text is among the messages under the right namespace, and no other message has its key.
  obtain ⟨others, alsoSpells, only⟩ := promises.only
  obtain rfl := Except.ok.inj (alsoSpells.symm.trans spells)
  have nonempty {segment : String} (member : segment ∈ before ++ name :: rest) : segment ≠ "" :=
    (segments segment member).1
  have key : rest.foldl (fun space name => Key.join space name ".") (Key.ofSegments (before ++ [name]) ".") =
      Key.ofSegments (before ++ name :: rest) "." := by
    rw [Key.foldl_join (by simp) (fun segment member => nonempty (mem_of_mem_named member))
      fun segment member => nonempty (by simp [member])]
    simp
  exact Store.lastOf?_of_only (key ▸ mem_entries_of_textAt? promises.holds spells) only

/-- A text that the files promise for a key is stored under the key by a search exactly if the segment that its file is
named after, the locale and the file format are spelled in word characters, or else the key had this text already or
gets it from other data of the file, whose messages lose that segment of their namespace. -/
theorem search_stores_iff (ordinary : Ordinary settings base) (localePlain : Slashless locale)
    (segments : ∀ segment ∈ before ++ name :: rest, Plain segment) (more : rest ≠ [])
    (promises : Promises library settings base locale before name rest data text) :
    let key := Key.ofSegments (before ++ name :: rest) "."
    ∃ keys after, (searcher.search key locale settings).outcome library = (.ok keys, after) ∧
      (after.store.get? key locale = some (.scalar text) ↔
        (Filename.Spelled name ∧ Filename.Spelled locale ∧ Filename.Spelled settings.fileFormat) ∨
          ∃ others, entries "." (Key.ofSegments before ".") data.entries = .ok others ∧
            (Store.lastOf? others key).or (library.store.get? key locale) = some (.scalar text)) := by
  intro key
  obtain ⟨found, right, -⟩ := promises.only
  -- The name of the file tells its namespace exactly if all its parts are spelled in word characters.
  by_cases spelled : Filename.Spelled name ∧ Filename.Spelled locale ∧ Filename.Spelled settings.fileFormat
  · have told : spaceTold settings locale before name = Key.ofSegments (before ++ [name]) "." := by
      rw [spaceTold, if_pos spelled, ordinary.delimiter]
    refine ⟨_, _, promises.search_outcome ordinary localePlain segments more (told ▸ right), ?_⟩
    simp only
    rw [Store.get?_putAll, if_pos rfl, promises.lastOf? segments right, Option.some_or]
    exact iff_of_true rfl (.inl spelled)
  · have told : spaceTold settings locale before name = Key.ofSegments before "." := by
      rw [spaceTold, if_neg spelled, ordinary.delimiter]
    obtain ⟨others, wrong⟩ := entries_ok_congr right (Key.ofSegments before ".")
    refine ⟨_, _, promises.search_outcome ordinary localePlain segments more (told ▸ wrong), ?_⟩
    simp only
    rw [Store.get?_putAll, if_pos rfl]
    simp [spelled, wrong, key]

/-- A directory with one resource file. -/
def greeted (file content : String) : Library Source :=
  { store := .empty
    state :=
      { files := .directory (.ofList [("app", .directory (.ofList [(file, .file content.toUTF8)]))])
        formats := .standard } }

/-- Settings to search this directory. -/
def greeting : Settings :=
  { loadPath := ["/app"] }

/-- A text in the file of a locale that is a word is stored. -/
theorem search_stores_iff_hi :
    let library := greeted "foo.en.yml" "en:\n  hi: Hello\n"
    promised library greeting "/app" "en" [] "foo" ["hi"] "Hello" = true ∧
      ∃ keys after,
        (searcher.search (Key.ofSegments ["foo", "hi"] ".") "en" greeting).outcome library = (.ok keys, after) ∧
        after.store.get? (Key.ofSegments ["foo", "hi"] ".") "en" = some (.scalar "Hello") := by
  -- The promise is found by computing.
  intro library
  have isPromised : promised library greeting "/app" "en" [] "foo" ["hi"] "Hello" = true := by decide +kernel
  obtain ⟨data, promises⟩ := promised_iff.1 isPromised
  have ordinary : Ordinary greeting "/app" := ⟨rfl, rfl, rfl, rfl, by decide +kernel⟩
  obtain ⟨keys, after, ends, stores⟩ := search_stores_iff ordinary (by decide +kernel : Slashless "en")
    (by decide +kernel) (List.cons_ne_nil _ _) promises
  exact ⟨isPromised, keys, after, ends, stores.2 (.inl (by decide +kernel))⟩

/-- A text in the file of a locale with a hyphen is stored as if it belonged to no namespace. -/
theorem search_misplaces :
    let library := greeted "foo.pt-BR.yml" "pt-BR:\n  hi: Oi\n"
    Ordinary greeting "/app" ∧ Slashless "pt-BR" ∧ Plain "foo" ∧ Plain "hi" ∧
      (∃ data, Promises library greeting "/app" "pt-BR" [] "foo" ["hi"] data "Oi") ∧
      let after := ((searcher.search "foo.hi" "pt-BR" greeting).outcome library).2
      after.store.get? "foo.hi" "pt-BR" = none ∧ after.store.get? "hi" "pt-BR" = some (.scalar "Oi") := by
  exact ⟨⟨rfl, rfl, rfl, rfl, by decide +kernel⟩, by decide +kernel, by decide +kernel, by decide +kernel,
    promised_iff.1 (by decide +kernel), by decide +kernel, by decide +kernel⟩

end Resource

end Phrasebook
